import ScionEcho.CommandLine.ResponderCommand
import ScionEcho.CommandLine.ClientCommand
import ScionEcho.Machine.Database
import ScionEcho.Machine.Datagrams
import ScionEcho.Machine.Signals
import ScionEcho.Machine.Terminal
import ScionEcho.Probe.IdSource

/-!
# The worlds of the commands

What the operating system offers to the two commands when they run for real.
-/

namespace ScionEcho.Machine

/-- More polls than a machine makes in its life. -/
def forever : Nat := 0x4000000000000000

/-- The open session of a wire; fails without one. -/
def openSession (session : IO.Ref (Option DatagramSession)) :
    ExceptT Failure IO DatagramSession := do
  match ← ExceptT.lift (m := IO) session.get with
  | some s => return s
  | none => throw (.os ⟨"the session is closed"⟩)

/-- Waits for a datagram. Every wait can be cancelled. -/
def receiveOver (k : Sockets Float IO) (session : IO.Ref (Option DatagramSession))
    (timeout : Option Seconds) : ExceptT Failure IO Bytes := do
  let s ← openSession session
  DatagramSession.receiveBytes k s (some DatagramSession.pollInterval) timeout forever

/-- Sessions over a wire. -/
def peer (wire : Wire) (session : IO.Ref (Option DatagramSession)) (watch : Watch)
    (log : LogRecord → IO Unit) : Peer IO :=
  let k := sockets wire watch.interrupts log
  { connect := fun src dst recvBuffer => do
      let s ← DatagramSession.open k src dst recvBuffer
      session.set (some s)
      return (s.src, s.dst)
    discardPending := do DatagramSession.discard k (← openSession session) forever
    send := fun data => do DatagramSession.send k (← openSession session) data
    receive := fun timeout => do
      let outcome ← (receiveOver k session timeout).run
      return (← watch.takeDelivered, outcome)
    close := do
      if let some s ← session.get then DatagramSession.close k s
      session.set none }

/-- The next id of a source that is kept in a reference. -/
def nextId? (ids : IO.Ref IdSource) : IO (Option Int) := do
  match (← ids.get).draw? with
  | none => return none
  | some (id, next) =>
    ids.set next
    return some id

def clientWorld : IO (ClientWorld IO) := do
  let wire ← Wire.new
  let session ← IO.mkRef none
  let watch ← Watch.new
  let account ← IO.mkRef none
  let seed ← IO.getRandomBytes 32
  let ids ← IO.mkRef (IdSource.ofSeed (Bytes.toNat seed.toList))
  return {
    console := ← console
    peer := peer wire session watch
    drawId := IdSource.drawFrom (nextId? ids)
    clock := return ((← IO.monoNanosNow) : Int)
    cancelled := watch.cancelled.get
    cancel := watch.cancelled.set true
    installHandlers := watch.start
    restoreHandlers := watch.stop
    observe := fun _ => pure ()
    influx := databaseClient account }

/-- Waits for a datagram, as long as the timeout of the wire says. -/
def receiveFrom (wire : Wire) (size : Int) : IO (Except OsError (Option (Bytes × Sender))) := do
  match ← (wire.awaitReadable (← wire.timeout.get)).run with
  | .error cause => return .error cause
  | .ok false => return .ok none
  | .ok true => return (← (wire.receive size).run).map some

def responderWorld : IO (ResponderWorld IO) := do
  let wire ← Wire.new
  let watch ← Watch.new
  return {
    console := ← console
    socket := {
      create := fun _ => wire.create
      bind := wire.bind
      localPort := wire.localPort
      setTimeout := wire.timeout.set
      receive := fun size => do
        let outcome ← receiveFrom wire size
        return (← watch.takeDelivered, outcome)
      send := fun data sender => wire.send data (ofSender? sender)
      close := wire.close }
    cancelled := watch.cancelled.get
    cancel := watch.cancelled.set true
    installHandlers := watch.start }

end ScionEcho.Machine
