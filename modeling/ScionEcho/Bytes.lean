/-!
# Byte strings

Byte strings, whole numbers in network byte order, and the text in which byte strings are shown.
-/

namespace ScionEcho

/-- A string of bytes, first byte first. -/
abbrev Bytes := List UInt8

namespace Bytes

/-- The number that the bytes denote in network byte order. -/
def toNat (bytes : Bytes) : Nat := bytes.foldl (fun n b => 256 * n + b.toNat) 0

/-- The last `width` bytes of a number in network byte order. -/
def ofNat : Nat → Nat → Bytes
  | 0, _ => []
  | width + 1, n => ofNat width (n / 256) ++ [UInt8.ofNat n]

/-- The number in a field of `width` bytes that starts at byte `offset`. -/
def field (bytes : Bytes) (offset width : Nat) : Nat := toNat ((bytes.drop offset).take width)

def fieldCount (width : Nat) : Nat := Nat.pow 256 width

/-- An unsigned field of `width` bytes; nothing if the number does not fit. -/
def unsigned? (width : Nat) (n : Int) : Option Bytes :=
  if 0 ≤ n ∧ n < fieldCount width then some (ofNat width n.toNat) else none

def zeros (width : Nat) : Bytes := List.replicate width 0

@[simp] theorem length_ofNat (width n : Nat) : (ofNat width n).length = width := by
  induction width generalizing n with
  | zero => rfl
  | succ width ih => simp [ofNat, ih]

theorem toNat_append_singleton (bytes : Bytes) (b : UInt8) :
    toNat (bytes ++ [b]) = 256 * toNat bytes + b.toNat := by
  simp [toNat]

theorem fieldCount_succ (width : Nat) : fieldCount (width + 1) = 256 * fieldCount width := by
  exact Nat.mul_comm _ _

theorem toNat_ofNat (width n : Nat) : toNat (ofNat width n) = n % fieldCount width := by
  induction width generalizing n with
  | zero => simp [ofNat, toNat, fieldCount, Nat.mod_one]
  | succ width ih =>
    rw [ofNat, toNat_append_singleton, ih, fieldCount_succ, Nat.mod_mul]
    simp
    omega

end Bytes

end ScionEcho
