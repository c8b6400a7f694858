import ScionEcho.Proofs.Probe.Frame
import ScionEcho.Responder.Dispatch

/-!
# Runs across an unreliable network

A run sends its requests across a network to a responder, and the answers come back across the
same network into the queue that the run reads. The network may keep a datagram for as long as it
likes, lose it, repeat it, and deliver datagrams in any order; it makes none up and changes none.
What it does, and what the clock and the operating system do, is decided from outside, turn by
turn: before each call of the run, the network makes any number of moves.
-/

namespace ScionEcho.Exchange

/-- Where a datagram is headed. -/
inductive Heading
  | responder
  | client
  deriving DecidableEq, Repr

/-- A datagram, with the number of the attempt whose request it is or answers. Neither the network
nor the endpoints look at that number. -/
structure Datagram where
  heading : Heading
  origin : Nat
  bytes : Bytes
  deriving DecidableEq, Repr

/-- What happens at the client. Its attempts are numbered from 1. -/
inductive Event
  /-- The queue is emptied in an attempt. -/
  | discarded (attempt : Nat)
  | sent (attempt : Nat) (request : Bytes)
  /-- A datagram reaches the queue. -/
  | arrived (datagram : Datagram)
  /-- A datagram is taken from the queue in an attempt. -/
  | received (attempt : Nat) (datagram : Datagram)
  deriving DecidableEq, Repr

/-- The network, the queue of the client, the number of ids that were drawn, and what happened. -/
structure World where
  inFlight : List Datagram := []
  queue : List Datagram := []
  drawn : Nat := 0
  events : List Event := []
  /-- The number of calls that were made. -/
  time : Nat := 0
  deriving DecidableEq, Repr

/-- What the network does to the datagram at a place among those in flight. -/
inductive Move
  | lose (place : Nat)
  | duplicate (place : Nat)
  | deliver (place : Nat)
  deriving DecidableEq, Repr

/-- What is decided from outside about one call of the run. -/
structure Turn where
  /-- The moves of the network before the call. -/
  moves : List Move := []
  /-- The reading of the clock. -/
  reading : Int := 0
  /-- The failure of the call. -/
  failure : Option Failure := none
  /-- Whether the run is to be given up. -/
  cancelled : Bool := false

/-- All that is decided from outside: the turns, by the time of the call, and the ids, by the number
of the attempt. -/
structure Schedule where
  turns : Nat → Turn
  ids : Nat → Int

/-- The responder answers what reaches it. -/
def answers (d : Datagram) : List Datagram :=
  match Responder.answer d.bytes with
  | .ok reply => [⟨.client, d.origin, reply⟩]
  | .error _ => []

namespace World

/-- A move of the network. -/
def move (world : World) : Move → World
  | .lose place => { world with inFlight := world.inFlight.eraseIdx place }
  | .duplicate place =>
    { world with inFlight := world.inFlight[place]?.toList ++ world.inFlight }
  | .deliver place =>
    match world.inFlight[place]? with
    | none => world
    | some d =>
      let others := world.inFlight.eraseIdx place
      match d.heading with
      | .responder => { world with inFlight := answers d ++ others }
      | .client =>
        { world with
          inFlight := others
          queue := world.queue ++ [d]
          events := world.events ++ [.arrived d] }

/-- The world when a call is made: the network has made its moves. -/
def pass (schedule : Schedule) (world : World) : World :=
  let moved := (schedule.turns world.time).moves.foldl move world
  { moved with time := world.time + 1 }

/-! ### The calls of a run -/

/-- The next id is drawn. -/
def draw (schedule : Schedule) (world : World) : Except Failure Int × World :=
  (.ok (schedule.ids (world.drawn + 1)), { world with drawn := world.drawn + 1 })

/-- The queue is emptied. -/
def discard (world : World) : Except Failure Nat × World :=
  (.ok world.queue.length,
    { world with queue := [], events := world.events ++ [.discarded world.drawn] })

/-- A request is given to the network. -/
def send (request : Bytes) (world : World) : Except Failure Unit × World :=
  (.ok (), { world with
    inFlight := ⟨.responder, world.drawn, request⟩ :: world.inFlight
    events := world.events ++ [.sent world.drawn request] })

/-- A wait ends with the first datagram of the queue. Where there is none after the moves of the
turn, the wait times out, also if it could go on for ever. -/
def receive (world : World) : Except Failure Bytes × World :=
  match world.queue with
  | [] => (.error (.timedOut 0), world)
  | d :: queue => (.ok d.bytes, { world with
      queue
      events := world.events ++ [.received world.drawn d] })

end World

/-- A call that its turn may let fail, after the moves of the network. -/
def call {α : Type} (schedule : Schedule) (f : World → Except Failure α × World) :
    ExceptT Failure (StateM World) α :=
  ExceptT.mk fun world =>
    match (schedule.turns world.time).failure with
    | some cause => (.error cause, world.pass schedule)
    | none => f (world.pass schedule)

/-- What a run finds around it. -/
def surroundings (schedule : Schedule) (src dst : Endpoint) : Surroundings (StateM World) where
  src
  dst
  drawId := call schedule (World.draw schedule)
  discardPending := call schedule World.discard
  clock world := ((schedule.turns world.time).reading, world.pass schedule)
  send request := call schedule (World.send request)
  receive _ := call schedule World.receive
  cancelled world := ((schedule.turns world.time).cancelled, world.pass schedule)
  log _ world := ((), world.pass schedule)

end ScionEcho.Exchange
