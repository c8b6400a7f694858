import Std.Async.Signal

/-!
# Signals of the operating system

While a watch is on, an interrupt or a request to terminate is kept until the command asks for it,
and does not end the program.
-/

namespace ScionEcho.Machine

open Std.Async

/-- The signals that were delivered and not asked for yet, and whether the command is to end. -/
structure Watch where
  delivered : IO.Ref (List Int)
  cancelled : IO.Ref Bool
  waiters : IO.Ref (List Signal.Waiter)

namespace Watch

/-- A watch that is off. -/
def new : IO Watch := do
  return ⟨← IO.mkRef [], ← IO.mkRef false, ← IO.mkRef []⟩

/-- Waits for one signal in the background. -/
def await (w : Watch) (signal : Signal) (number : Int) : IO Unit := do
  let waiter ← Signal.Waiter.mk signal false
  let arrived ← waiter.wait
  let _ ← IO.mapTask (fun _ => w.delivered.modify (· ++ [number])) arrived
  w.waiters.modify (waiter :: ·)

def start (w : Watch) : IO Unit := do
  w.await .sigint 2
  w.await .sigterm 15

def stop (w : Watch) : IO Unit := do
  for waiter in ← w.waiters.get do
    waiter.stop
  w.waiters.set []

/-- The signals that were delivered since the last time. -/
def takeDelivered (w : Watch) : IO (List Int) := w.delivered.modifyGet fun found => (found, [])

/-- Whether a wait is to end. -/
def interrupts (w : Watch) : IO Bool := do
  return (← w.cancelled.get) || !(← w.delivered.get).isEmpty

end Watch

end ScionEcho.Machine
