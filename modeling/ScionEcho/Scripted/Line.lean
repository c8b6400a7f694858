import ScionEcho.Scripted.Trace

/-!
# Scripted lines

A datagram socket on a virtual clock. What arrives, and when, is given beforehand; a wait moves
the clock to the next arrival or to the end of the wait. The cancellation event counts as set from
a given time on.
-/

namespace ScionEcho.Scripted

/-- What makes a socket readable. -/
inductive Arrived
  | datagram (data : Bytes)
  /-- Reading fails. -/
  | readFailure (text : String)
  /-- Already the wait fails. -/
  | waitFailure (text : String)

/-- Something that arrives at a time in seconds. -/
structure Arrival where
  time : Float
  content : Arrived

/-- The state of a scripted line. -/
structure Line where
  now : Float
  arrivals : List Arrival
  /-- When the run is cancelled, if ever. -/
  cancelTime : Option Float := none
  osPort : Int := 0
  bindFailure : Option String := none
  connectFailure : Option String := none
  sendFailure : Option String := none
  /-- The number of waits that are still allowed. -/
  waitsLeft : Nat := 0

namespace Line

/-- The number of waits that are allowed in one step. -/
def waitLimit : Nat := 200

/-- Whether the next arrival comes within the wait. -/
def arrivesWithin (l : Line) (wait : Option Float) (arrival : Arrival) : Bool :=
  match wait with
  | none => true
  | some w => arrival.time ≤ l.now + w

/-- Waits for the next arrival: whether the socket is readable then, and the line after it. -/
def wait (l : Line) (longest : Option Float) : Except OsError Bool × Line :=
  match l.waitsLeft with
  | 0 => (.error ⟨"select limit"⟩, l)
  | left + 1 =>
    let l := { l with waitsLeft := left }
    let passed : Except OsError Bool × Line :=
      match longest with
      | none => (.error ⟨"would block forever"⟩, l)
      | some w => (.ok false, { l with now := l.now + w })
    match l.arrivals with
    | [] => passed
    | arrival :: later =>
      if l.arrivesWithin longest arrival then
        let l := { l with now := if l.now < arrival.time then arrival.time else l.now }
        match arrival.content with
        | .waitFailure text => (.error ⟨text⟩, { l with arrivals := later })
        | _ => (.ok true, l)
      else passed

def take (l : Line) (size : Int) : Except OsError Bytes × Line :=
  match l.arrivals with
  | [] => (.error ⟨"nothing to read"⟩, l)
  | arrival :: later =>
    let l := { l with arrivals := later }
    match arrival.content with
    | .datagram data => (.ok (firstBytes size data), l)
    | .readFailure text | .waitFailure text => (.error ⟨text⟩, l)

section

variable {m : Type → Type} [Monad m] [MonadStateOf Line m] [MonadStateOf Trace m]

/-- The socket, the clock and the cancellation event of the line. -/
def sockets : Sockets Float m :=
  { create := fun family => note (.created family)
    bind := fun address => do
      note (.bound address)
      failIf OsError.mk (← getThe Line).bindFailure
    connect := fun address => do
      note (.connected address)
      failIf OsError.mk (← getThe Line).connectFailure
    localPort := return (← getThe Line).osPort
    send := fun data => do
      note (.sent data)
      failIf OsError.mk (← getThe Line).sendFailure
    awaitReadable := fun longest => ExceptT.mk do
      note (.polled longest)
      modifyGetThe Line fun l => l.wait longest
    receive := fun size => ExceptT.mk (modifyGetThe Line fun l => l.take size)
    close := note .closed
    now := return (← getThe Line).now
    cancelled := do
      let l ← getThe Line
      return l.cancelTime.any (· ≤ l.now)
    log := noteLog }

end

/-! ### Steps of a session -/

/-- What is done with an open session. -/
inductive Step
  | send (data : Bytes) (failure : Option String)
  | receive (timeout : Option Seconds) (cancellable : Bool)
  | discard
  | close
  /-- The session is used as the resource of a block, which closes it at its end. -/
  | block
  /-- Time passes. -/
  | advance (time : Float)

/-- What a step results in. -/
inductive Answer
  | done
  | flag (value : Bool)
  | count (n : Nat)
  | data (bytes : Bytes)

abbrev LineM := StateT Line (StateM Trace)

/-- Awaits a datagram. One poll more than the line allows is enough for a decision. -/
def receiveStep (s : DatagramSession) (timeout : Option Seconds) (cancellable : Bool) :
    LineM (Except Failure Answer) := do
  let interval := if cancellable then some DatagramSession.pollInterval else none
  return (← (DatagramSession.receiveBytes sockets s interval timeout (waitLimit + 1)).run).map .data

/-- Drops waiting datagrams. One poll more than the line allows is enough for a decision. -/
def discardStep (s : DatagramSession) : LineM (Except Failure Answer) := do
  return (← (DatagramSession.discard sockets s (waitLimit + 1)).run).map .count

def step (s : DatagramSession) : Step → LineM (Except Failure Answer)
  | .send data failure => do
    modifyThe Line fun l => { l with sendFailure := failure }
    return (← (DatagramSession.send sockets s data).run).map fun _ => .done
  | .receive timeout cancellable => receiveStep s timeout cancellable
  | .discard => discardStep s
  | .close => do
    DatagramSession.close sockets s
    return .ok .done
  | .block => do
    DatagramSession.close sockets s
    return .ok (.flag true)
  | .advance time => do
    modifyThe Line fun l => { l with now := l.now + time }
    return .ok .done

/-- What a step led to: its result, the time after it, and what was done. -/
structure Report (α : Type) where
  result : Except Failure α
  now : Float
  trace : Trace

/-- Runs a part of a script, with all the waits that are allowed in it. -/
def report {α : Type} (act : LineM (Except Failure α)) (l : Line) : Report α × Line :=
  let ((result, l), trace) := (act.run { l with waitsLeft := waitLimit }).run []
  (⟨result, l.now, trace⟩, l)

/-- Does all steps. The passing of time is not reported. -/
def steps (s : DatagramSession) : List Step → Line → List (Report Answer)
  | [], _ => []
  | next :: rest, l =>
    let (r, l) := report (step s next) l
    match next with
    | .advance _ => steps s rest l
    | _ => r :: steps s rest l

/-- Opens a session and does all steps, which are left out if the session cannot be opened. -/
def session (l : Line) (src dst : Endpoint) (recvBuffer : Int) (script : List Step) :
    Report DatagramSession × List (Report Answer) :=
  let (opened, l) := report (DatagramSession.open sockets src dst recvBuffer).run l
  match opened.result with
  | .error _ => (opened, [])
  | .ok s => (opened, steps s script l)

end Line

end ScionEcho.Scripted
