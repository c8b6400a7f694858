import Mathlib.Data.Int.Bitwise
import Mathlib.Tactic.LinearCombination
import ScionEcho.Proofs.Wire.RoundTrip

/-!
# ISD-AS pairs as words

The number of a pair is its ISD, moved up by 48 bits, joined bit by bit with its AS. Both are
integers in two's complement, so that a negative ISD has ones in all high bits. Below an ISD that
was moved up there are only zeros: nothing is carried when an AS of 48 bits is joined with it, and
a shift and a mask take the two apart again.
-/

namespace ScionEcho

/-! ### Bits of integers -/

namespace Bits

/-- The bits of a number that another has not, and those that it has, make up the number. -/
lemma ldiff_add_land (a b : Nat) : a.ldiff b + (a &&& b) = a := by
  induction a using Nat.binaryRec generalizing b with
  | zero => simp [Nat.ldiff]
  | bit x a ih =>
    obtain ⟨y, b, rfl⟩ : ∃ y c, b = Nat.bit y c := ⟨b.bodd, b.div2, b.bit_bodd_div2.symm⟩
    have hrest := ih b
    rw [Nat.ldiff_bit, Nat.land_bit, Nat.bit_val, Nat.bit_val, Nat.bit_val]
    cases x <;> cases y <;> simp <;> omega

lemma ldiff_eq_sub (a b : Nat) : a.ldiff b = a - (a &&& b) := by
  have hsplit := ldiff_add_land a b
  omega

lemma exists_eq_bit (n : Int) : ∃ b c, n = Int.bit b c := ⟨n.bodd, n.div2, n.bit_decomp.symm⟩

/-- The lowest bit stays below when the others are split. -/
lemma bit_split (b : Bool) (n : Int) (k : Nat) :
    Int.bit b n / 2 ^ (k + 1) = n / 2 ^ k ∧ Int.bit b n % 2 ^ (k + 1) = Int.bit b (n % 2 ^ k) := by
  have hpos : (0 : Int) < 2 ^ k := Int.pow_pos (by decide)
  have hnonneg : 0 ≤ n % 2 ^ k := Int.emod_nonneg n hpos.ne'
  have hlt : n % 2 ^ k < 2 ^ k := Int.emod_lt_of_pos n hpos
  have hdouble : (2 : Int) ^ (k + 1) = 2 * 2 ^ k := by ring
  rw [Int.ediv_emod_unique (Int.pow_pos (by decide))]
  refine ⟨?_, ?_, ?_⟩
  · have hsplit := Int.emod_add_mul_ediv n (2 ^ k)
    rw [Int.bit_val, Int.bit_val, hdouble]
    linear_combination 2 * hsplit
  · rw [Int.bit_val]
    cases b <;> simp <;> omega
  · rw [Int.bit_val, hdouble]
    cases b <;> simp <;> omega

/-- Joined with a number, one that ends in zeros leaves the low bits of that number alone. -/
lemma lor_mul_two_pow (m n : Int) (k : Nat) :
    Int.lor (m * 2 ^ k) n = Int.lor m (n / 2 ^ k) * 2 ^ k + n % 2 ^ k := by
  induction k generalizing n with
  | zero => simp
  | succ k ih =>
    -- The lowest bit of `n` meets a zero, so that it is what it was and nothing is carried.
    obtain ⟨b, n, rfl⟩ := exists_eq_bit n
    obtain ⟨hdiv, hmod⟩ := bit_split b n k
    have hzeros : m * 2 ^ (k + 1) = Int.bit false (m * 2 ^ k) := by
      rw [Int.bit_val]
      simp
      ring
    calc Int.lor (m * 2 ^ (k + 1)) (Int.bit b n)
        = Int.bit b (Int.lor (m * 2 ^ k) n) := by rw [hzeros, Int.lor_bit, Bool.false_or]
      _ = Int.bit b (Int.lor m (n / 2 ^ k) * 2 ^ k + n % 2 ^ k) := by rw [ih]
      _ = Int.lor m (n / 2 ^ k) * 2 ^ (k + 1) + Int.bit b (n % 2 ^ k) := by
        rw [Int.bit_val, Int.bit_val]
        ring
      _ = Int.lor m (Int.bit b n / 2 ^ (k + 1)) * 2 ^ (k + 1) + Int.bit b n % 2 ^ (k + 1) := by
        rw [hdiv, hmod]

/-- A mask of ones keeps the remainder, of a negative number too. -/
lemma land_two_pow_sub_one (n : Int) (k : Nat) : Int.land n (2 ^ k - 1) = n % 2 ^ k := by
  induction k generalizing n with
  | zero => cases n <;> simp [Int.land, Nat.ldiff]
  | succ k ih =>
    obtain ⟨b, n, rfl⟩ := exists_eq_bit n
    have hones : (2 : Int) ^ (k + 1) - 1 = Int.bit true (2 ^ k - 1) := by
      rw [Int.bit_val]
      simp
      ring
    rw [hones, Int.land_bit, Bool.and_true, ih, (bit_split b n k).2]

end Bits

namespace IsdAs

open Bits Bytes Wire

/-! ### Words bit by bit -/

/-- The bits of integers are joined by way of the naturals that stand for them. -/
lemma bitOr_eq_lor (m n : Int) : bitOr m n = Int.lor m n := by
  cases m <;> cases n <;> simp [bitOr, Int.lor, ldiff_eq_sub]

lemma toInt_eq_lor (ia : IsdAs) : ia.toInt = Int.lor (ia.isd <<< (48 : Nat)) ia.asn := by
  rw [Int.shiftLeft_eq, lor_mul_two_pow, toInt, bitOr_eq_lor]
  rfl

lemma ofInt_eq_land (n : Int) : ofInt n = ⟨n >>> (48 : Nat), Int.land n (2 ^ 48 - 1)⟩ := by
  rw [Int.shiftRight_eq_div_pow, land_two_pow_sub_one]
  rfl

/-! ### Words and pairs -/

/-- Below an AS of 48 bits, the sign and the size of a word are those of the ISD. -/
lemma toInt_bounds_iff {ia : IsdAs} (hasn : 0 ≤ ia.asn) (hlt : ia.asn < 2 ^ 48) :
    0 ≤ ia.toInt ∧ ia.toInt < 2 ^ 64 ↔ 0 ≤ ia.isd ∧ ia.isd < 2 ^ 16 := by
  rw [toInt_eq_add hasn hlt]
  omega

lemma eq_of_toInt_eq {a b : IsdAs} (ha : a.InRange) (hb : b.InRange) (h : a.toInt = b.toInt) :
    a = b := by
  rw [← ofInt_toInt ha, ← ofInt_toInt hb, h]

/-- The word of a pair is the ISD, moved up, joined bit by bit with the AS, and a shift and a mask
take it apart. Every integer is the word of exactly one pair with an AS of 48 bits. It is a word of
64 bits exactly if the ISD has 16, and pairs in range that are written as the same word, or as the
same eight bytes, are equal. -/
theorem word_exact :
    (∀ ia : IsdAs, ia.toInt = Int.lor (ia.isd <<< (48 : Nat)) ia.asn) ∧
    (∀ n : Int, ofInt n = ⟨n >>> (48 : Nat), Int.land n (2 ^ 48 - 1)⟩) ∧
    (∀ n : Int, (ofInt n).toInt = n ∧ 0 ≤ (ofInt n).asn ∧ (ofInt n).asn < 2 ^ 48) ∧
    (∀ isd asn : Int, 0 ≤ asn → asn < 2 ^ 48 →
      ofInt (toInt ⟨isd, asn⟩) = ⟨isd, asn⟩ ∧
      (0 ≤ toInt ⟨isd, asn⟩ ∧ toInt ⟨isd, asn⟩ < 2 ^ 64 ↔ 0 ≤ isd ∧ isd < 2 ^ 16)) ∧
    (∀ a b : IsdAs, a.InRange → b.InRange → (a.toInt = b.toInt → a = b) ∧
      ∃ bytes, unsigned? 8 a.toInt = some bytes ∧
        (unsigned? 8 b.toInt = some bytes → a = b)) := by
  refine ⟨toInt_eq_lor, ofInt_eq_land, fun n => ⟨toInt_ofInt n, asn_ofInt_bounds n⟩, ?_, ?_⟩
  · intro isd asn hasn hlt
    exact ⟨ofInt_toInt_of_asn hasn hlt, toInt_bounds_iff hasn hlt⟩
  · intro a b ha hb
    obtain ⟨bytes, hbytes⟩ := exists_unsigned?_of_fitsIn ha.fitsIn
    refine ⟨eq_of_toInt_eq ha hb, bytes, hbytes, fun hsame => eq_of_toInt_eq ha hb ?_⟩
    rw [← toNat_of_unsigned? hbytes, ← toNat_of_unsigned? hsame]

/-- A pair below zero, whose word is below zero too, and two pairs in range. -/
theorem word_exact_negative :
    ((0 : Int) ≤ 0xffaa00001101 ∧ (0xffaa00001101 : Int) < 2 ^ 48) ∧
    ofInt (toInt ⟨-3, 0xffaa00001101⟩) = ⟨-3, 0xffaa00001101⟩ ∧
    ¬ (0 ≤ toInt ⟨-3, 0xffaa00001101⟩ ∧ toInt ⟨-3, 0xffaa00001101⟩ < 2 ^ 64) ∧
    InRange ⟨17, 0xffaa00001101⟩ ∧ InRange ⟨16, 0xffaa00001101⟩ ∧
    toInt ⟨17, 0xffaa00001101⟩ ≠ toInt ⟨16, 0xffaa00001101⟩ := by
  obtain ⟨-, -, -, hpair, hrange⟩ := word_exact
  obtain ⟨hback, hbounds⟩ := hpair (-3) 0xffaa00001101 (by decide) (by decide)
  have hfirst : InRange ⟨17, 0xffaa00001101⟩ := by constructor <;> decide
  have hsecond : InRange ⟨16, 0xffaa00001101⟩ := by constructor <;> decide
  refine ⟨by decide, hback, fun h => ?_, hfirst, hsecond, fun h => ?_⟩
  · exact absurd (hbounds.mp h) (by decide)
  · exact absurd ((hrange _ _ hfirst hsecond).1 h) (by decide)

end IsdAs

end ScionEcho
