import ScionEcho.Packet.Echo
import ScionEcho.Seconds

/-!
# Failures

What can end a measurement. Failures of the operating system reach a measurement as failures of
its session.
-/

namespace ScionEcho

/-- A failure that the operating system reports, with its text. -/
structure OsError where
  text : String
  deriving DecidableEq, Repr

/-- What fails in a session. -/
inductive SessionError
  | opening (src dst : Endpoint) (cause : OsError)
  | writing (dst : Endpoint) (cause : OsError)
  | reading (dst : Endpoint) (cause : OsError)
  /-- Another failure, with its text. -/
  | reported (text : String)
  deriving DecidableEq, Repr

def SessionError.message : SessionError → String
  | .opening src dst cause => s!"Failed to open session {src} -> {dst}: {cause.text}"
  | .writing dst cause => s!"Write to {dst} failed: {cause.text}"
  | .reading dst cause => s!"Read from {dst} failed: {cause.text}"
  | .reported text => text

/-- What can end a measurement. -/
inductive Failure
  | transport (cause : SessionError)
  /-- Nothing arrived within so many seconds. -/
  | timedOut (timeout : Float)
  | cancelled (text : String)
  | encode (cause : EncodeError)
  | decode (cause : DecodeError)
  | reply (cause : ReplyError)
  /-- Too few of the probes that were allowed led to a sample. -/
  | budget (samples attempts : Nat) (target : Int)
  | number (cause : NumberError)
  /-- The source of correlation ids has no more. -/
  | noMoreIds
  /-- The operating system reports a failure outside of a session's care. -/
  | os (cause : OsError)

namespace Failure

def message : Failure → String
  | .transport cause => cause.message
  | .timedOut timeout => s!"No reply within {Seconds.shown timeout}s"
  | .cancelled text => text
  | .encode cause => cause.message
  | .decode cause => cause.message
  | .reply cause => cause.message
  | .budget samples attempts target =>
    s!"Exceeded maximum number of attempts: {samples}/{target} samples after {attempts} attempts"
  | .number cause => cause.message
  | .noMoreIds => "pop from empty list"
  | .os cause => cause.text

/-- Whether the program foresees the failure and reports it. A number that does not fit its field
or is beyond the doubles, a failure of the operating system outside of a session, and an exhausted
source of ids are not foreseen. -/
def foreseen : Failure → Bool
  | .encode .fieldOverflow | .number _ | .noMoreIds | .os _ => false
  | _ => true

end Failure

end ScionEcho
