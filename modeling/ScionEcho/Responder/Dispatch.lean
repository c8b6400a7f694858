import ScionEcho.Log.Record
import ScionEcho.Packet.Echo

/-!
# Answers to datagrams

What a responder sends back for a datagram: the echo reply to an echo request, and nothing for
anything else. A datagram without an answer is reported.
-/

namespace ScionEcho.Responder

/-- Why a datagram is not answered. -/
inductive Ignored
  | malformed (cause : DecodeError)
  /-- A packet that is no echo request. -/
  | other (src : IsdAs)
  /-- An echo request whose reply cannot be put on the wire. -/
  | unanswerable (cause : EncodeError)
  deriving DecidableEq, Repr

def loggerName : String := "scionlat.responder"

def Ignored.record : Ignored → LogRecord
  | .malformed cause => ⟨loggerName, .warning, s!"Dropping malformed packet: {cause.message}"⟩
  | .other src => ⟨loggerName, .debug, s!"Ignoring non echo request from {src}"⟩
  | .unanswerable cause => ⟨loggerName, .warning, s!"Cannot answer echo request: {cause.message}"⟩

/-- The answer to a datagram. Replies have at most the size that every path carries. -/
def answer (data : Bytes) : Except Ignored Bytes :=
  match Packet.decode data with
  | .error cause => .error (.malformed cause)
  | .ok request =>
    match request.echoReply? with
    | none => .error (.other request.srcIa)
    | some reply =>
      match reply.encode minMtu with
      | .error cause => .error (.unanswerable cause)
      | .ok bytes => .ok bytes

/-- Answers a datagram, or reports why it has no answer. -/
def dispatch {m : Type → Type} [Monad m] (log : LogRecord → m Unit) (data : Bytes) :
    m (Option Bytes) := do
  match answer data with
  | .ok reply => return some reply
  | .error ignored =>
    log ignored.record
    return none

/-- The correlation id in the bytes of a reply. -/
def replyId? (reply : Bytes) : Option Int :=
  match Packet.decode reply with
  | .ok packet => packet.echoId?
  | .error _ => none

end ScionEcho.Responder
