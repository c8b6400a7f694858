import ScionEcho.Machine.Address
import Std.Async.Timer
import Std.Async.UDP

/-!
# Datagram sockets of the operating system

The sockets that sessions and responders use when they run for real. A wait for a datagram takes it
at once and keeps it until it is asked for.
-/

namespace ScionEcho.Machine

open Std.Async Std.Net

/-- A socket, the datagram that was taken but not asked for yet, and the timeout of a wait. -/
structure Wire where
  socket : IO.Ref (Option UDP.Socket)
  taken : IO.Ref (Option (Bytes × Sender))
  timeout : IO.Ref (Option Float)

namespace Wire

def largest : UInt64 := 65536

/-- Runs an action, whose failure is one of the operating system. -/
def guarded {α : Type} (act : IO α) : ExceptT OsError IO α :=
  ExceptT.mk do
    try return .ok (← act)
    catch e => return .error ⟨toString e⟩

/-- A wire without a socket. -/
def new : IO Wire := do
  return ⟨← IO.mkRef none, ← IO.mkRef none, ← IO.mkRef none⟩

def get (w : Wire) : IO UDP.Socket := do
  match ← w.socket.get with
  | some socket => return socket
  | none => throw (IO.userError "the socket is closed")

/-- An address that the operating system can use. -/
def usable : Option SocketAddress → IO SocketAddress
  | some address => return address
  | none => throw (IO.userError "the address cannot be used")

def create (w : Wire) : ExceptT OsError IO Unit :=
  guarded do w.socket.set (some (← UDP.Socket.mk))

def bind (w : Wire) (u : Underlay) : ExceptT OsError IO Unit :=
  guarded do (← w.get).bind (← usable (ofUnderlay? u))

def connect (w : Wire) (u : Underlay) : ExceptT OsError IO Unit :=
  guarded do (← w.get).connect (← usable (ofUnderlay? u))

def localPort (w : Wire) : ExceptT OsError IO Int :=
  guarded do return ((← (← w.get).getSockName).port.toNat : Int)

/-- Sends a datagram, to the connected address or to another one. -/
def send (w : Wire) (data : Bytes) (address : Option SocketAddress) : ExceptT OsError IO Unit :=
  guarded do ((← w.get).send ⟨data.toArray⟩ address).block

/-- The milliseconds of a wait, at least one. -/
def milliseconds (wait : Float) : Nat := max 1 (wait * 1000).ceil.toUInt64.toNat

/-- Takes a datagram within the wait, if one comes. -/
def takeWithin (socket : UDP.Socket) (wait : Option Float) :
    Async (Option (ByteArray × Option SocketAddress)) := do
  let arrival := Selectable.case (socket.recvSelector largest) fun found => return some found
  match wait with
  | none => Selectable.one #[arrival]
  | some wait =>
    let timer ← Selector.sleep (.ofNat (milliseconds wait))
    Selectable.one #[arrival, .case timer fun _ => return none]

/-- Waits until a datagram can be asked for; whether one can. -/
def awaitReadable (w : Wire) (wait : Option Float) : ExceptT OsError IO Bool :=
  guarded do
    if (← w.taken.get).isSome then return true
    match ← (takeWithin (← w.get) wait).block with
    | none => return false
    | some (data, address) =>
      w.taken.set (some (data.toList, address.elim ⟨"", []⟩ senderOf))
      return true

/-- The datagram that was taken, cut off at a size. -/
def receive (w : Wire) (size : Int) : ExceptT OsError IO (Bytes × Sender) :=
  guarded do
    match ← w.taken.get with
    | none => throw (IO.userError "no datagram was taken")
    | some (data, sender) =>
      w.taken.set none
      return (data.take size.toNat, sender)

def close (w : Wire) : IO Unit := do
  w.taken.set none
  w.socket.set none

end Wire

def monotonicSeconds : IO Float := do return (← IO.monoNanosNow).toFloat / 1000000000

/-- What the operating system offers to a session. -/
def sockets (w : Wire) (cancelled : IO Bool) (log : LogRecord → IO Unit) : Sockets Float IO :=
  { create := fun _ => w.create
    bind := w.bind
    connect := w.connect
    localPort := w.localPort
    send := fun data => w.send data none
    awaitReadable := w.awaitReadable
    receive := fun size => Prod.fst <$> w.receive size
    close := w.close
    now := monotonicSeconds
    cancelled, log }

end ScionEcho.Machine
