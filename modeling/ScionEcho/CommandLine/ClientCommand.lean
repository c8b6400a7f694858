import ScionEcho.CommandLine.Fault
import ScionEcho.CommandLine.Options

/-!
# The client as a command

Measures round trip time and latency between two endpoints and prints a report. Only the report
and the explanation of the arguments go to the standard output.
-/

namespace ScionEcho

structure ClientOptions where
  source : Option String := none
  destination : Option String := none
  config : Option String := none
  samples : Option Int := none
  attempts : Option Int := none
  timeout : Option Float := none
  verbose : Bool := false

/-- A session as the client uses it. -/
structure Peer (m : Type → Type) where
  /-- Opens a session; the endpoints are those that packets carry. -/
  connect : (src dst : Endpoint) → (recvBuffer : Int) → ExceptT Failure m (Endpoint × Endpoint)
  discardPending : ExceptT Failure m Nat
  send : Bytes → ExceptT Failure m Unit
  /-- Waits for a datagram: the signals that were delivered meanwhile, and how the wait ended. -/
  receive : Option Seconds → m (List Int × Except Failure Bytes)
  close : m Unit

/-- What the client needs of the world. -/
structure ClientWorld (m : Type → Type) where
  console : Console m
  /-- Sessions that report with the given function. -/
  peer : (LogRecord → m Unit) → Peer m
  drawId : ExceptT Failure m Int
  clock : m Int
  /-- Whether the measurement is to be given up, and the giving up. -/
  cancelled : m Bool
  cancel : m Unit
  /-- Makes signals count as a wish to give up, or lets them count as before. -/
  installHandlers : m Unit
  restoreHandlers : m Unit
  /-- Is told the settings of a run before it starts. -/
  observe : RunSettings → m Unit
  influx : (LogRecord → m Unit) → InfluxClient m

namespace ClientCommand

def loggerName : String := "scionlat.speedclient"

def usage : String :=
  "\n" ++
  "random_speedclient -s SourceSCIONAddress -d DestinationSCIONAddress\n" ++
  "\tProvides speed estimates (RTT and latency) from source to destination\n" ++
  "\tThe SCION address is specified as ISD-AS,[IP Address]:Port\n" ++
  "\tIf source port unspecified, a random available one will be used.\n" ++
  "\tExample SCION address 1-1,[127.0.0.1]:42002\n"

/-- The exit status of a measurement that was given up. -/
def cancelledStatus : Nat := 130

def specs : List CommandLine.OptionSpec :=
  [{ key := "source", short? := some 's' },
    { key := "destination", short? := some 'd' },
    { key := "config", long? := some "config", short? := some 'c' },
    { key := "samples", long? := some "samples", short? := some 'n' },
    { key := "attempts", long? := some "attempts", short? := some 'a' },
    { key := "timeout", long? := some "timeout", short? := some 't' },
    { key := "verbose", long? := some "verbose", short? := some 'v', takesValue := false }]

/-- The options that arguments give; nothing if a number is refused. -/
def build (a : CommandLine.Arguments) : Option ClientOptions := do
  let samples ← CommandLine.optional? (CommandLine.wholeAtLeast? 1) (a.get? "samples")
  let attempts ← CommandLine.optional? (CommandLine.wholeAtLeast? 1) (a.get? "attempts")
  let timeout ← CommandLine.optional? CommandLine.nonnegative? (a.get? "timeout")
  return {
    source := a.get? "source"
    destination := a.get? "destination"
    config := a.get? "config"
    samples, attempts, timeout
    verbose := a.has "verbose" }

def request (args : List String) : CommandLine.Request ClientOptions :=
  CommandLine.request specs build args

/-- The addresses that a measurement needs, or what is missing. -/
def addresses (o : ClientOptions) : Except String (String × String) :=
  let given (a : Option String) : Option String := a.filter (· ≠ "")
  match given o.source, given o.destination with
  | none, _ => .error "Source address needs to be specified with -s"
  | some _, none => .error "Destination address needs to be specified with -d"
  | some source, some destination => .ok (source, destination)

def summaryText (s : Summary) : String :=
  let item (key : String) (x : Float) : String := s!"{key}={Binary64.fixed 3 x}"
  "Samples: " ++ ", ".intercalate
    [item "min_ms" s.minMs, item "max_ms" s.maxMs, item "mean_ms" s.meanMs,
      item "jitter_ms" s.jitterMs]

def runSettings (c : Config) : RunSettings :=
  { target := c.probe.samples
    maxAttempts := c.probe.maxAttempts
    timeout := c.probe.receiveTimeout
    maxPacketLength := c.transport.mtu }

section

variable {m : Type → Type} [Monad m]

def report (w : ClientWorld m) (l : Logging) (level : Level) (message : String) : m Unit :=
  w.console.emit l ⟨loggerName, level, message⟩

/-- What a signal leads to: a report, and the wish to give up. -/
def onSignal (w : ClientWorld m) (l : Logging) (signal : Int) : m Unit := do
  report w l .info s!"Received signal {signal}, shutting down..."
  w.cancel

def surroundings (w : ClientWorld m) (l : Logging) (peer : Peer m) (src dst : Endpoint) :
    Surroundings m :=
  { src, dst
    drawId := w.drawId
    discardPending := peer.discardPending
    clock := w.clock
    send := peer.send
    receive := fun timeout => ExceptT.mk do
      let (signals, outcome) ← peer.receive timeout
      signals.forM (onSignal w l)
      return outcome
    cancelled := w.cancelled
    log := w.console.emit l }

def runOver (w : ClientWorld m) (l : Logging) (peer : Peer m) (c : Config) (src dst : Endpoint) :
    ExceptT Fault m Measurement := do
  let settings := runSettings c
  ExceptT.lift (w.observe settings)
  match settings.check with
  | .error cause => throw (.settings cause)
  | .ok () => ExceptT.adapt .run (Run.run (surroundings w l peer src dst) settings)

/-- Opens a session, runs a measurement over it, and closes it however the run ends. -/
def measure (w : ClientWorld m) (l : Logging) (c : Config) (src dst : Endpoint) :
    ExceptT Fault m Measurement := do
  let peer := w.peer (w.console.emit l)
  let (src, dst) ← ExceptT.adapt .run (peer.connect src dst c.transport.recvBuffer)
  let outcome ← ExceptT.lift (runOver w l peer c src dst).run
  ExceptT.lift peer.close
  ExceptT.mk (pure outcome)

def measureBetween (w : ClientWorld m) (l : Logging) (c : Config) (source destination : String) :
    ExceptT Fault m (Endpoint × Endpoint × Measurement) := do
  let src ← ExceptT.mk (pure ((Endpoint.parse source).mapError .address))
  let dst ← ExceptT.mk (pure ((Endpoint.parse destination).mapError .address))
  ExceptT.lift (report w l .info s!"Measuring {src} -> {dst}")
  let result ← measure w l c src dst
  return (src, dst, result)

/-- Exports a result and closes the exporter in any case. A fault of closing is the one that
counts. -/
def exportResult (w : ClientWorld m) (l : Logging) (c : ExportSettings) (result : Measurement)
    (src dst : Endpoint) : ExceptT Fault m Unit := do
  let client := w.influx (w.console.emit l)
  let exporter ← ExceptT.lift (Exporter.open client c)
  let exported ← ExceptT.lift (exporter.exportResult client result src dst).run
  let _ ← ExceptT.adapt .client (exporter.close client)
  match exported with
  | .ok _ => return ()
  | .error cause => throw (.number cause)

/-- Prints the report of a finished measurement and exports it, if that is enabled. -/
def present (w : ClientWorld m) (l : Logging) (c : Config) (source destination : String)
    (src dst : Endpoint) (result : Measurement) : ExceptT Fault m Unit := do
  match result.report source destination with
  | .error cause => throw (.number cause)
  | .ok text => ExceptT.lift (w.console.stdout (text ++ "\n"))
  match result.summary with
  | .error cause => throw (.number cause)
  | .ok summary => ExceptT.lift (report w l .info (summaryText summary))
  if c.influx.enabled then exportResult w l c.influx result src dst

/-- Ends a measurement with a fault: a wish to give up and a foreseen fault are reported. -/
def conclude (w : ClientWorld m) (l : Logging) (verbose : Bool) (cause : Fault) : m Exit := do
  if cause.isCancellation then
    report w l .info "Interrupted by user"
    w.console.stderr "Cancelled\n"
    return .status cancelledStatus
  else if cause.foreseen then
    report w l .error s!"Fatal error: {cause.message}"
    if verbose then report w l .error "Full traceback:"
    w.console.stderr s!"Error: {cause.message}\n"
    return .status 1
  else return .fault cause

/-- The phases of a measurement that end with a result, together with the log that they set up:
before that, the log is as it was. -/
def phases (w : ClientWorld m) (o : ClientOptions) (source destination : String) :
    m (Logging × Except Fault (Config × Endpoint × Endpoint × Measurement)) := do
  let overrides : Config.Overrides := ⟨o.samples, o.attempts, o.timeout.map .real⟩
  match ← w.console.loadConfig o.config overrides with
  | .error cause => return ({}, .error (.load cause))
  | .ok c =>
    match ← (w.console.setupLogging {} c.logging (Console.commandLevel o.verbose)).run with
    | .error cause => return ({}, .error cause)
    | .ok l =>
      match ← (measureBetween w l c source destination).run with
      | .error cause => return (l, .error cause)
      | .ok found => return (l, .ok (c, found))

def run (w : ClientWorld m) (o : ClientOptions) : m Exit := do
  match addresses o with
  | .error missing =>
    w.console.stdout (usage ++ "\n")
    w.console.stderr s!"Error: {missing}\n"
    return .status 1
  | .ok (source, destination) =>
    w.installHandlers
    let (l, outcome) ← phases w o source destination
    match outcome with
    | .error cause =>
      let exit ← conclude w l o.verbose cause
      w.restoreHandlers
      return exit
    | .ok (c, src, dst, result) =>
      w.restoreHandlers
      match ← (present w l c source destination src dst result).run with
      | .ok () => return .status 0
      | .error cause => return .fault cause

end

end ClientCommand

end ScionEcho
