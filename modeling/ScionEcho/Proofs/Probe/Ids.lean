import ScionEcho.Probe.IdSource
import ScionEcho.Proofs.Wire.WellFormed

/-!
# Ids of a generator

The ids that a generator gives out, one after another. Whatever it was seeded with, each of them
fits the field that requests have for it.
-/

namespace ScionEcho

namespace Twister

/-- The ids that a generator gives out, by their number. -/
def ids (t : Twister) : Nat → Nat
  | 0 => t.draw64.1
  | n + 1 => t.draw64.2.ids n

lemma fitsIn_draw64 (t : Twister) : FitsIn 8 t.draw64.1 :=
  ⟨Int.natCast_nonneg _, Int.ofNat_lt.mpr t.draw64_lt⟩

lemma fitsIn_ids (t : Twister) (n : Nat) : FitsIn 8 (t.ids n) := by
  induction n generalizing t with
  | zero => exact t.fitsIn_draw64
  | succ n ih => exact ih t.draw64.2

end Twister

namespace IdSource

lemma draw?_generator (t : Twister) :
    (generator t).draw? = some ((t.ids 0 : Int), generator t.draw64.2) := rfl

/-- A generator has an id for every probe, and requests carry them in their order. -/
theorem requests_generator (t : Twister) (count : Nat) :
    (generator t).requests count = .ok ((List.range count).map fun n => ⟨t.ids n, 0⟩) := by
  induction count generalizing t with
  | zero => rfl
  | succ count ih =>
    rw [requests, draw?_generator]
    dsimp only
    rw [ih, List.range_succ_eq_map, List.map_cons, List.map_map]
    rfl

end IdSource

end ScionEcho
