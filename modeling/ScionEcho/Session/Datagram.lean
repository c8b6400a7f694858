import ScionEcho.Log.Record
import ScionEcho.Session.Failure

/-!
# Datagram sessions

A session carries packets between two endpoints over a connected datagram socket. What it needs of
the operating system is a record of operations in a monad `m`. Times have a type `T` of their own,
of which only addition, subtraction and comparison are used: a program measures them in doubles,
and statements about waiting can be made in exact arithmetic.

A wait may take any number of polls. The functions that wait therefore take the number of polls
that they may make, and say so when they are still waiting after the last one.
-/

namespace ScionEcho

inductive Family
  | inet
  | inet6
  deriving DecidableEq, Repr

def Family.ofHost : Host → Family
  | .v4 _ => .inet
  | .v6 .. => .inet6

/-- A datagram socket, a clock and a cancellation event, as the operating system offers them. -/
structure Sockets (T : Type) (m : Type → Type) where
  create : Family → ExceptT OsError m Unit
  bind : Underlay → ExceptT OsError m Unit
  connect : Underlay → ExceptT OsError m Unit
  localPort : ExceptT OsError m Int
  send : Bytes → ExceptT OsError m Unit
  /-- Waits until a datagram can be read, at most as long as given; whether one can. -/
  awaitReadable : Option T → ExceptT OsError m Bool
  /-- Takes a datagram, of which at most so many bytes are kept. -/
  receive : Int → ExceptT OsError m Bytes
  close : m Unit
  now : m T
  cancelled : m Bool
  log : LogRecord → m Unit

structure DatagramSession where
  src : Endpoint
  dst : Endpoint
  recvBuffer : Int
  deriving DecidableEq, Repr

namespace DatagramSession

def loggerName : String := "scionlat.net.transport"

/-- The size of a datagram that is read whole unless the caller says otherwise. -/
def defaultRecvBuffer : Nat := 2500

/-- How a wait for a datagram ends. -/
inductive Received (T : Type)
  | data (bytes : Bytes)
  | timedOut (timeout : T)
  | cancelled
  | failed (cause : OsError)
  /-- All polls are made and nothing is decided. -/
  | waiting
  deriving DecidableEq, Repr

/-- How the dropping of waiting datagrams ends. -/
inductive Drained
  | empty (dropped : Nat)
  | failed (cause : OsError)
  /-- All polls are made and the socket is still readable. -/
  | draining
  deriving DecidableEq, Repr

section

variable {T : Type} {m : Type → Type} [Monad m]

/-- Opens a session. A source port of 0 is replaced by the port that the operating system
chooses. A socket that cannot be bound and connected is closed. -/
def «open» (k : Sockets T m) (src dst : Endpoint) (recvBuffer : Int) :
    ExceptT Failure m DatagramSession := do
  ExceptT.adapt .os (k.create (.ofHost src.host))
  let prepared ← ExceptT.lift (prepare k src dst).run
  match prepared with
  | .error cause =>
    ExceptT.lift k.close
    throw (.transport (.opening src dst cause))
  | .ok () =>
    let port ← ExceptT.adapt .os k.localPort
    let session : DatagramSession := ⟨src.withPort port, dst, recvBuffer⟩
    ExceptT.lift (k.log ⟨loggerName, .debug, s!"Session opened {session.src} -> {dst}"⟩)
    return session
where
  /-- Binds and connects a new socket. -/
  prepare (k : Sockets T m) (src dst : Endpoint) : ExceptT OsError m Unit := do
    k.bind src.underlay
    k.connect dst.underlay

def send (k : Sockets T m) (s : DatagramSession) (data : Bytes) : ExceptT Failure m Unit :=
  ExceptT.adapt (fun cause => .transport (.writing s.dst cause)) (k.send data)

def close (k : Sockets T m) (s : DatagramSession) : m Unit := do
  k.close
  k.log ⟨loggerName, .debug, s!"Session closed {s.src} -> {s.dst}"⟩

/-- Whether the wait is cancelled. The event is looked at only if there is an interval for that. -/
def isCancelled (k : Sockets T m) (interval : Option T) : m Bool :=
  if interval.isSome then k.cancelled else pure false

variable [OfNat T 0] [Add T] [Sub T] [LT T] [LE T] [DecidableLT T] [DecidableLE T]

/-- The longest wait of one poll: the poll interval if the wait can be cancelled, and no longer
than what remains until the deadline. -/
def pollWait (interval remaining : Option T) : Option T :=
  match interval, remaining with
  | none, r => r
  | some i, none => some i
  | some i, some r => some (if r < i then r else i)

/-- What precedes a poll: the cancellation event is looked at, if there is an interval for that,
and then the deadline, given with the timeout that it stands for. Either may end the wait;
otherwise the result is the longest wait of the poll. -/
def beforePoll (k : Sockets T m) (interval : Option T) (deadline : Option (T × T)) :
    m (Except (Received T) (Option T)) := do
  if ← isCancelled k interval then return .error .cancelled
  match deadline with
  | none => return .ok (pollWait interval none)
  | some (timeout, deadline) =>
    let remaining := deadline - (← k.now)
    if remaining ≤ 0 then return .error (.timedOut timeout)
    else return .ok (pollWait interval (some remaining))

/-- One poll, and the reading of the datagram that it finds. -/
def poll (k : Sockets T m) (s : DatagramSession) (wait : Option T) : m (Option (Received T)) := do
  match ← (k.awaitReadable wait).run with
  | .error cause => return some (.failed cause)
  | .ok false => return none
  | .ok true =>
    match ← (k.receive s.recvBuffer).run with
    | .error cause => return some (.failed cause)
    | .ok bytes => return some (.data bytes)

/-- Waits for a datagram in at most `polls` polls. -/
def await (k : Sockets T m) (s : DatagramSession) (interval : Option T)
    (deadline : Option (T × T)) : (polls : Nat) → m (Received T)
  | 0 => pure .waiting
  | polls + 1 => do
    match ← beforePoll k interval deadline with
    | .error ended => return ended
    | .ok wait =>
      match ← poll k s wait with
      | some ended => return ended
      | none => await k s interval deadline polls

/-- Waits for a datagram: for ever, or until the timeout has passed. With an interval, a wait
ends at most so long after the cancellation event is set. -/
def receive (k : Sockets T m) (s : DatagramSession) (interval timeout : Option T) (polls : Nat) :
    m (Received T) := do
  match timeout with
  | none => await k s interval none polls
  | some t =>
    let start ← k.now
    await k s interval (some (t, start + t)) polls

/-- Drops waiting datagrams in at most `polls` polls without waiting, after `dropped` of them. -/
def drain (k : Sockets T m) (s : DatagramSession) : (polls dropped : Nat) → m Drained
  | 0, _ => pure .draining
  | polls + 1, dropped => do
    match ← (k.awaitReadable (some 0)).run with
    | .error cause => return .failed cause
    | .ok false => return .empty dropped
    | .ok true =>
      match ← (k.receive s.recvBuffer).run with
      | .error cause => return .failed cause
      | .ok _ => drain k s polls (dropped + 1)

/-- Drops every waiting datagram and reports how many there were, if any. -/
def discardPending (k : Sockets T m) (s : DatagramSession) (polls : Nat) : m Drained := do
  let ended ← drain k s polls 0
  if let .empty dropped := ended then
    if dropped ≠ 0 then
      k.log ⟨loggerName, .debug, s!"Discarded {dropped} late datagrams from {s.dst}"⟩
  return ended

end

/-! ### Sessions timed in doubles -/

/-- How often a wait that can be cancelled looks at the cancellation event. -/
def pollInterval : Float := 0.1

/-- The failure that the end of a wait stands for, with the datagram otherwise. A wait that is not
decided has no failure of its own. -/
def Received.toExcept (s : DatagramSession) : Received Float → Option (Except Failure Bytes)
  | .data bytes => some (.ok bytes)
  | .timedOut timeout => some (.error (.timedOut timeout))
  | .cancelled => some (.error (.cancelled "Receive cancelled"))
  | .failed cause => some (.error (.transport (.reading s.dst cause)))
  | .waiting => none

/-- The failure that the end of a drain stands for, with the count otherwise. -/
def Drained.toExcept (s : DatagramSession) : Drained → Option (Except Failure Nat)
  | .empty dropped => some (.ok dropped)
  | .failed cause => some (.error (.transport (.reading s.dst cause)))
  | .draining => none

/-- A failure for the case that a wait outlives all polls. -/
def outlived : Failure := .os ⟨"the wait did not end"⟩

section

variable {m : Type → Type} [Monad m]

/-- Waits for a datagram in at most `polls` polls. With an interval, the wait can be cancelled. -/
def receiveBytes (k : Sockets Float m) (s : DatagramSession) (interval : Option Float)
    (timeout : Option Seconds) (polls : Nat) : ExceptT Failure m Bytes := do
  let timeout ← ExceptT.mk (pure ((timeout.mapM Seconds.toFloat).mapError .number))
  let ended ← ExceptT.lift (receive k s interval timeout polls)
  ExceptT.mk (pure ((ended.toExcept s).getD (.error outlived)))

/-- Drops every waiting datagram in at most `polls` polls, and counts them. -/
def discard (k : Sockets Float m) (s : DatagramSession) (polls : Nat) : ExceptT Failure m Nat := do
  let ended ← ExceptT.lift (discardPending k s polls)
  ExceptT.mk (pure ((ended.toExcept s).getD (.error outlived)))

end

end DatagramSession

end ScionEcho
