import ScionEcho.Log.Record
import ScionEcho.Probe.Run
import ScionEcho.Responder.Server
import ScionEcho.Session.Datagram

/-!
# Traces

The world around a measurement can be scripted: every reply, failure and delay is then given
beforehand, and what the program does to this world is written down as a list of events. Scripted
parts of the world are states of a monad that also holds the trace.
-/

namespace ScionEcho.Scripted

/-- What a program does to the world around it. -/
inductive Event
  | logged (record : LogRecord)
  /-- A correlation id of so many bits is drawn. -/
  | drawn (bits : Nat)
  | discarded
  | clockRead (ns : Int)
  | sent (data : Bytes)
  /-- A datagram is awaited, so many seconds long, with a cancellation event or without. -/
  | awaited (timeout : Option Float) (cancellable : Bool)
  | opened (src dst : Endpoint) (recvBuffer : Int)
  | started (settings : RunSettings)
  | closed
  | created (family : Family)
  | bound (address : Underlay)
  | connected (address : Underlay)
  | polled (wait : Option Float)
  | timeoutSet (timeout : Option Float)
  | sentTo (data : Bytes) (address : Sender)
  | clientMade (url token organization : String)
  | writerObtained
  | written (bucket line : String)
  | clientClosed

/-- What was done to the world, in order. -/
abbrev Trace := List Event

/-- The first `size` bytes, or all but the last ones if the size is negative. -/
def firstBytes (size : Int) (data : Bytes) : Bytes :=
  if 0 ≤ size then data.take size.toNat else data.take (data.length - size.natAbs)

section

variable {m : Type → Type}

def note [MonadStateOf Trace m] (event : Event) : m Unit := modifyThe Trace (· ++ [event])

def noteLog [MonadStateOf Trace m] (record : LogRecord) : m Unit := note (.logged record)

/-- Fails if there is a text to fail with. -/
def failIf [Monad m] {ε : Type} (cause : String → ε) : Option String → ExceptT ε m Unit
  | none => pure ()
  | some text => throw (cause text)

end

end ScionEcho.Scripted
