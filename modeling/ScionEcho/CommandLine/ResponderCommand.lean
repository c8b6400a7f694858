import ScionEcho.CommandLine.Fault
import ScionEcho.CommandLine.Options
import ScionEcho.Responder.Server

/-!
# The responder as a command

Answers echo requests at an address until a signal arrives.
-/

namespace ScionEcho

structure ResponderOptions where
  address : String
  config : Option String := none
  verbose : Bool := false

/-- A socket as the responder command uses it. -/
structure ResponderSocket (m : Type → Type) where
  create : Family → ExceptT OsError m Unit
  bind : Underlay → ExceptT OsError m Unit
  localPort : ExceptT OsError m Int
  setTimeout : Option Float → m Unit
  /-- Waits for a datagram: the signals that were delivered meanwhile, and how the wait ended. -/
  receive : Int → m (List Int × Except OsError (Option (Bytes × Sender)))
  send : Bytes → Sender → ExceptT OsError m Unit
  close : m Unit

/-- What the responder command needs of the world. -/
structure ResponderWorld (m : Type → Type) where
  console : Console m
  socket : ResponderSocket m
  cancelled : m Bool
  cancel : m Unit
  installHandlers : m Unit

namespace ResponderCommand

def specs : List CommandLine.OptionSpec :=
  [{ key := "local", long? := some "local", short? := some 'l' },
    { key := "config", long? := some "config", short? := some 'c' },
    { key := "verbose", long? := some "verbose", short? := some 'v', takesValue := false }]

/-- The options that arguments give; nothing without an address. -/
def build (a : CommandLine.Arguments) : Option ResponderOptions := do
  return { address := ← a.get? "local", config := a.get? "config", verbose := a.has "verbose" }

def request (args : List String) : CommandLine.Request ResponderOptions :=
  CommandLine.request specs build args

section

variable {m : Type → Type} [Monad m]

/-- What a signal leads to: a report, and the wish to end. The report goes to the root logger,
which gets a handler if it has none. -/
def onSignal (w : ResponderWorld m) (l : Logging) (signal : Int) : m Unit := do
  w.console.emit l.ensureHandler
    ⟨Logging.rootLogger, .info, s!"Received signal {signal}, shutting down..."⟩
  w.cancel

/-- The socket as a responder serves on it: signals are taken care of when they arrive. -/
def listening (w : ResponderWorld m) (l : Logging) : Listening m :=
  { create := w.socket.create
    bind := w.socket.bind
    localPort := w.socket.localPort
    setTimeout := w.socket.setTimeout
    receive := fun size => ExceptT.mk do
      let (signals, outcome) ← w.socket.receive size
      signals.forM (onSignal w l)
      return outcome
    send := w.socket.send
    close := w.socket.close
    cancelled := w.cancelled
    log := w.console.emit l }

/-- Binds a responder and serves, in at most `rounds` rounds. However serving ends, the socket is
closed. -/
def serve (w : ResponderWorld m) (l : Logging) (c : Config) (address : String) (rounds : Nat) :
    ExceptT Fault m Unit := do
  let src ← ExceptT.mk (pure ((Endpoint.parse address).mapError .address))
  let k := listening w l
  let responder ← ExceptT.adapt .os (Responder.listen k src c.transport.recvBuffer)
  ExceptT.lift (w.console.stdout s!"Listening on {responder.src}\n")
  let (_, served) ← ExceptT.lift (Responder.serve k rounds responder)
  ExceptT.lift (Responder.stop k)
  match served with
  | .failed cause => throw (.os cause)
  | .ended | .serving => return ()

/-- Ends the command with a fault: a foreseen fault and one of the operating system are
reported. -/
def conclude (w : ResponderWorld m) (l : Logging) (cause : Fault) : m Exit := do
  if cause.foreseen || cause.ofSystem then
    w.console.emit l.ensureHandler
      ⟨Logging.rootLogger, .error, s!"Fatal error: {cause.message}"⟩
    w.console.stderr s!"Error: {cause.message}\n"
    return .status 1
  else return .fault cause

/-- The responder with given options, serving in at most `rounds` rounds. -/
def run (w : ResponderWorld m) (o : ResponderOptions) (rounds : Nat) : m Exit := do
  w.installHandlers
  match ← w.console.loadConfig o.config {} with
  | .error cause => conclude w {} (.load cause)
  | .ok c =>
    match ← (w.console.setupLogging {} c.logging (Console.commandLevel o.verbose)).run with
    | .error cause => conclude w {} cause
    | .ok l =>
      match ← (serve w l c o.address rounds).run with
      | .error cause => conclude w l cause
      | .ok () => return .status 0

end

end ResponderCommand

end ScionEcho
