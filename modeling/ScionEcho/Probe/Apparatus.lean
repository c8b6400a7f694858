import ScionEcho.Probe.Run

/-!
# What a run is built from

A run is given a session, a source of ids and a clock, and maybe an event. Once the event is set no
further attempt is begun. Every wait is given the event as well, so that the session can cut it
short.
-/

namespace ScionEcho

/-- A session with all that a run over it needs. An `E` is an event that can be set. -/
structure Apparatus (E : Type) (m : Type → Type) where
  /-- The endpoints of the session. -/
  src : Endpoint
  dst : Endpoint
  drawId : ExceptT Failure m Int
  discardPending : ExceptT Failure m Nat
  clock : m Int
  send : Bytes → ExceptT Failure m Unit
  /-- Waits for a datagram, for so many seconds or for as long as it takes, and at most until the
  event is set, if there is one. -/
  receive : Option Seconds → Option E → ExceptT Failure m Bytes
  isSet : E → m Bool
  log : LogRecord → m Unit

/-- What a run finds around it that is given up once the event is set, if there is one. -/
def Apparatus.surroundings {E : Type} {m : Type → Type} [Monad m] (a : Apparatus E m)
    (cancel : Option E) : Surroundings m where
  src := a.src
  dst := a.dst
  drawId := a.drawId
  discardPending := a.discardPending
  clock := a.clock
  send := a.send
  receive timeout := a.receive timeout cancel
  cancelled :=
    match cancel with
    | none => pure false
    | some event => a.isSet event
  log := a.log

end ScionEcho
