import ScionEcho.Probe.Twister
import ScionEcho.Session.Failure

/-!
# Sources of correlation ids

The ids of probes come from a seeded generator, or from a list that ends.
-/

namespace ScionEcho

inductive IdSource
  | generator (state : Twister)
  | listed (ids : List Int)

namespace IdSource

def ofSeed (seed : Int) : IdSource := .generator (.ofSeed seed)

/-- Draws the next id; nothing if a list has ended. -/
def draw? : IdSource → Option (Int × IdSource)
  | .generator state =>
    let (id, state) := state.draw64
    some (id, .generator state)
  | .listed [] => none
  | .listed (id :: ids) => some (id, .listed ids)

/-- Draws an id from wherever the source is kept, if that has a next one. -/
def drawFrom {m : Type → Type} [Monad m] (next? : m (Option Int)) : ExceptT Failure m Int := do
  match ← ExceptT.lift next? with
  | none => throw .noMoreIds
  | some id => return id

/-- The requests for the next `count` probes. -/
def requests : (count : Nat) → IdSource → Except Failure (List EchoRequest)
  | 0, _ => .ok []
  | count + 1, source =>
    match source.draw? with
    | none => .error .noMoreIds
    | some (id, source) => (requests count source).map (⟨id, 0⟩ :: ·)

end IdSource

end ScionEcho
