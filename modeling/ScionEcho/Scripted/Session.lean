import ScionEcho.Probe.Apparatus
import ScionEcho.Probe.IdSource
import ScionEcho.Scripted.Trace

/-!
# Scripted sessions

A session that answers by a script. Every time a datagram is awaited the next cue is taken: its
delay passes on the clock, and then what it says happens.
-/

namespace ScionEcho.Scripted

/-- What happens while a datagram is awaited. -/
inductive Action
  /-- The reply to the datagram that was sent last. -/
  | reply
  /-- That reply with another id: one that differs in every bit. -/
  | stale
  /-- That reply with the given id. -/
  | replyWithId (id : Int)
  /-- The reply to the datagram with the given number. -/
  | replyTo (index : Nat)
  /-- The run is cancelled, and the reply arrives nevertheless. -/
  | cancelAndReply
  | timeout
  | fail (text : String)
  /-- The run is cancelled, and the wait ends for that reason. -/
  | cancel (text : String)
  | bytes (data : Bytes)
  /-- The bytes of a packet, unless there is no such packet. -/
  | packet (content : Except Failure Packet)
  /-- A signal is delivered, and the reply arrives nevertheless or the wait ends. -/
  | signal (number : Int) (reply : Bool)

/-- An action and the time in nanoseconds that passes before it. -/
structure Cue where
  delay : Int
  action : Action

/-- The state of a scripted session. -/
structure Stage where
  cues : List Cue
  ids : IdSource
  clock : Int := 1000000000
  /-- Whether the cancellation event is set; nothing if there is no such event. -/
  cancelled : Option Bool := none
  /-- The number of datagrams after which sending fails. -/
  failsAfter : Option Nat := none
  /-- The datagrams sent, the last one first. -/
  sent : List Bytes := []

namespace Stage

/-- How a wait ends when it is cancelled, unless a cue says otherwise. -/
def cancelText : String := "Receive cancelled"

/-- The largest size of the packets that a script puts on the wire. -/
def packetLimit : Int := maxPacketLength

/-- The bytes of a packet that may not exist. -/
def encoded : Except Failure Packet → Except Failure Bytes
  | .error cause => .error cause
  | .ok packet => (packet.encode packetLimit).mapError .encode

def replyPacket (request : Bytes) : Except Failure Packet :=
  match Packet.decode request with
  | .error cause => .error (.decode cause)
  | .ok packet =>
    match packet.echoReply? with
    | none => .error (.transport (.reported notEchoRequestMessage))
    | some reply => .ok reply

/-- The reply to a request, in which the id is changed. -/
def replyWith (change : Int → Int) (request : Bytes) : Except Failure Packet := do
  let reply ← replyPacket request
  match Payload.ofInfo (.echo (change (reply.echoId?.getD 0)) 0) with
  | .error cause => .error (.encode cause)
  | .ok payload => .ok { reply with payload }

/-- The id that differs in every bit. -/
def flipped (id : Int) : Int := 0xffffffffffffffff - id

/-- Builds bytes from a datagram that was sent; fails without one. -/
def fromSent (build : Bytes → Except Failure Packet) : Option Bytes → Except Failure Bytes
  | none => .error (.transport (.reported "nothing sent"))
  | some data => encoded (build data)

def cancel (s : Stage) : Stage := { s with cancelled := s.cancelled.map fun _ => true }

/-- What the next cue leads to: the signals that are delivered, how the wait ends, and the stage
after it. -/
def perform (s : Stage) (timeout : Float) :
    Action → List Int × Except Failure Bytes × Stage
  | .reply => ([], fromSent replyPacket s.sent.head?, s)
  | .stale => ([], fromSent (replyWith flipped) s.sent.head?, s)
  | .replyWithId id => ([], fromSent (replyWith fun _ => id) s.sent.head?, s)
  | .replyTo index => ([], fromSent replyPacket s.sent.reverse[index]?, s)
  | .cancelAndReply => ([], fromSent replyPacket s.sent.head?, s.cancel)
  | .timeout => ([], .error (.timedOut timeout), s)
  | .fail text => ([], .error (.transport (.reported text)), s)
  | .cancel text => ([], .error (.cancelled text), s.cancel)
  | .bytes data => ([], .ok data, s)
  | .packet content => ([], encoded content, s)
  | .signal number true => ([number], fromSent replyPacket s.sent.head?, s)
  | .signal number false => ([number], .error (.cancelled cancelText), s)

def await (s : Stage) (timeout : Float) : List Int × Except Failure Bytes × Stage :=
  match s.cues with
  | [] => ([], .error (.transport (.reported "script exhausted")), s)
  | cue :: cues =>
    { s with cues, clock := s.clock + cue.delay }.perform timeout cue.action

section

variable {m : Type → Type} [Monad m] [MonadStateOf Stage m] [MonadStateOf Trace m]

def timeoutFloat : Option Seconds → Except Failure (Option Float)
  | none => .ok none
  | some s => (s.toFloat.mapError .number).map some

/-- Awaits a datagram: the signals that are delivered, and how the wait ends. -/
def receive (timeout : Option Seconds) (cancel : Option Unit) :
    m (List Int × Except Failure Bytes) := do
  match timeoutFloat timeout with
  | .error cause => return ([], .error cause)
  | .ok timeout =>
    let s ← getThe Stage
    note (.awaited timeout cancel.isSome)
    let (signals, outcome, s) := s.await (timeout.getD 0)
    set s
    return (signals, outcome)

def send (data : Bytes) : ExceptT Failure m Unit := do
  let s ← getThe Stage
  if s.failsAfter = some s.sent.length then throw (.transport (.reported "send failed"))
  else
    note (.sent data)
    set { s with sent := data :: s.sent }

/-- Drops waiting datagrams, of which there are never any. -/
def discardPending : ExceptT Failure m Nat := do
  note .discarded
  return 0

def readClock : m Int := do
  let s ← getThe Stage
  note (.clockRead s.clock)
  return s.clock

/-- The next id. A draw from a list is an event of its own. -/
def nextId? : m (Option Int) := do
  let s ← getThe Stage
  if let .listed _ := s.ids then note (.drawn 64)
  match s.ids.draw? with
  | none => return none
  | some (id, ids) =>
    set { s with ids }
    return some id

def isCancelled : m Bool := return (← getThe Stage).cancelled.getD false

/-- What the stage offers to a run. It has one event. -/
def apparatus (src dst : Endpoint) : Apparatus Unit m :=
  { src, dst, discardPending, clock := readClock, send
    drawId := IdSource.drawFrom nextId?
    receive := fun timeout cancel => ExceptT.mk (Prod.snd <$> receive timeout cancel)
    isSet := fun _ => isCancelled
    log := noteLog }

end

/-- Runs a measurement on the stage: how it ends, and what it did. -/
def measure (s : Stage) (src dst : Endpoint) (settings : RunSettings) :
    Except Failure Measurement × Trace :=
  let cancel : Option Unit := s.cancelled.map fun _ => ()
  let run : ExceptT Failure (StateT Stage (StateM Trace)) Measurement :=
    Run.run ((apparatus src dst).surroundings cancel) settings
  let ((outcome, _), trace) := (run.run.run s).run []
  (outcome, trace)

end Stage

end ScionEcho.Scripted
