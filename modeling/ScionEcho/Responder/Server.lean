import ScionEcho.Probe.Run
import ScionEcho.Responder.Dispatch
import ScionEcho.Session.Datagram

/-!
# Serving echo replies

A responder binds a socket and answers the echo requests that reach it, one datagram at a time,
until it is stopped. As with sessions, the operating system is a record of operations in a monad,
and serving takes the number of datagrams or timeouts that it may go through.
-/

namespace ScionEcho

/-- The address that a datagram came from: a host and the numbers that go with it. -/
structure Sender where
  host : String
  numbers : List Int
  deriving DecidableEq, Repr

/-- The address as reports show it. -/
def Sender.text (a : Sender) : String :=
  let items := Text.quote a.host :: a.numbers.map toString
  match items with
  | [item] => s!"({item},)"
  | items => "(" ++ ", ".intercalate items ++ ")"

/-- What a responder needs of the operating system. -/
structure Listening (m : Type → Type) where
  create : Family → ExceptT OsError m Unit
  bind : Underlay → ExceptT OsError m Unit
  /-- The port that the socket is bound to. -/
  localPort : ExceptT OsError m Int
  setTimeout : Option Float → m Unit
  /-- Takes a datagram, of which at most so many bytes are kept; nothing if none came in time. -/
  receive : Int → ExceptT OsError m (Option (Bytes × Sender))
  send : Bytes → Sender → ExceptT OsError m Unit
  close : m Unit
  /-- Whether the responder is to end. -/
  cancelled : m Bool
  log : LogRecord → m Unit

/-- A responder that is bound to its address. -/
structure Responder where
  src : Endpoint
  recvBuffer : Int
  repliesSent : Nat
  deriving DecidableEq, Repr

namespace Responder

/-- How long a responder waits before it looks whether it is to end. -/
def serveInterval : Float := 0.1

/-- How serving ends. -/
inductive Served
  /-- The responder was told to end. -/
  | ended
  | failed (cause : OsError)
  /-- The allowed rounds are over. -/
  | serving
  deriving DecidableEq, Repr

section

variable {m : Type → Type} [Monad m]

/-- Binds a responder to an address. A port of 0 is replaced by the port that the operating
system chooses. -/
def listen (k : Listening m) (src : Endpoint) (recvBuffer : Int) : ExceptT OsError m Responder := do
  k.create (.ofHost src.host)
  k.bind src.underlay
  let port ← k.localPort
  return ⟨src.withPort port, recvBuffer, 0⟩

def report (k : Listening m) (level : Level) (message : String) : m Unit :=
  k.log ⟨loggerName, level, message⟩

def sendReply (k : Listening m) (r : Responder) (reply : Bytes) (sender : Sender) :
    m (Responder × Except OsError (Option Int)) := do
  match ← (k.send reply sender).run with
  | .error cause => return (r, .error cause)
  | .ok () =>
    let sent := { r with repliesSent := r.repliesSent + 1 }
    match replyId? reply with
    | none => return (sent, .ok none)
    | some replied =>
      report k .debug s!"Echo reply id={Run.idText replied} sent to {sender.text}"
      return (sent, .ok (some replied))

/-- Serves one datagram: the responder after it, and the id that was answered, if one was. -/
def serveOnce (k : Listening m) (r : Responder) (timeout : Option Float) :
    m (Responder × Except OsError (Option Int)) := do
  k.setTimeout timeout
  match ← (k.receive r.recvBuffer).run with
  | .error cause => return (r, .error cause)
  | .ok none => return (r, .ok none)
  | .ok (some (data, sender)) =>
    match ← dispatch k.log data with
    | none => return (r, .ok none)
    | some reply => sendReply k r reply sender

/-- Serves until told to end, in at most `rounds` rounds. A failure while the responder is told to
end is part of its ending. -/
def serve (k : Listening m) : (rounds : Nat) → Responder → m (Responder × Served)
  | 0, r => return (r, .serving)
  | rounds + 1, r => do
    if ← k.cancelled then return (r, .ended)
    match ← serveOnce k r (some serveInterval) with
    | (r, .ok _) => serve k rounds r
    | (r, .error cause) =>
      if ← k.cancelled then return (r, .ended)
      report k .error s!"Error in responder loop: {cause.text}"
      return (r, .failed cause)

/-- Closes the socket of a responder that has ended. -/
def stop (k : Listening m) : m Unit := do
  k.close
  report k .info "Echo responder stopped"

def reportStarted (k : Listening m) (r : Responder) : m Unit :=
  report k .info s!"Echo responder listening on {r.src}"

def reportRunning (k : Listening m) : m Unit :=
  report k .warning "Echo responder already running"

end

end Responder

end ScionEcho
