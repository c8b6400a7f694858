import Mathlib.Data.List.Basic
import Mathlib.Data.List.Induction
import Mathlib.Data.List.TakeWhile
import Mathlib.Tactic.Ring
import ScionEcho.Numeral.Natural
import ScionEcho.Text.Hex

/-!
# Numerals that are read back

A number that is written in base 10 or 16 is read again as itself. In base 10 more is read than is
written: the decimal digits of any script make a numeral, if they are not too many.
-/

namespace ScionEcho

open Text

/-! ### Base 16 -/

namespace Text

lemma hexValue?_digitChar {d : Nat} (h : d < 16) : hexValue? d.digitChar = some d := by
  revert d
  decide

lemma isHex_digitChar {d : Nat} (h : d < 16) : isHex d.digitChar = true := by
  rw [isHex, hexValue?_digitChar h]
  rfl

lemma isHex_of_isDigit {c : Char} (h : c.isDigit = true) : isHex c = true := by
  have hrange : '0' ≤ c ∧ c ≤ '9' := by simpa [Char.isDigit, Char.le_def] using h
  simp [isHex, hexValue?, hrange]

/-- The digits lie between a zero and a small f. -/
lemma bounds_of_isHex {c : Char} (h : isHex c = true) : '0' ≤ c ∧ c ≤ 'f' := by
  have h9 : '9' ≤ 'f' := by decide
  have hF : 'F' ≤ 'f' := by decide
  have ha : '0' ≤ 'a' := by decide
  have hA : '0' ≤ 'A' := by decide
  rw [isHex, hexValue?] at h
  split_ifs at h with hdigit hlower hupper
  · simp only [Bool.and_eq_true, decide_eq_true_eq] at hdigit
    exact ⟨hdigit.1, Char.le_trans hdigit.2 h9⟩
  · simp only [Bool.and_eq_true, decide_eq_true_eq] at hlower
    exact ⟨Char.le_trans ha hlower.1, hlower.2⟩
  · simp only [Bool.and_eq_true, decide_eq_true_eq] at hupper
    exact ⟨Char.le_trans hA hupper.1, Char.le_trans hupper.2 hF⟩
  · cases h

lemma isHex_of_mem_hexDigits {n : Nat} {c : Char} (h : c ∈ hexDigits n) : isHex c = true := by
  rw [hexDigits] at h
  induction n using Nat.base_induction 16 (by decide) with
  | single d hd =>
    rw [Nat.toDigits_of_lt_base hd, List.mem_singleton] at h
    rw [h, isHex_digitChar hd]
  | digit n d hd hn ih =>
    rw [← Nat.toDigits_append_toDigits (by decide) hn hd, Nat.toDigits_of_lt_base hd,
      List.mem_append, List.mem_singleton] at h
    rcases h with h | rfl
    · exact ih h
    · exact isHex_digitChar hd

lemma hexNumber_append_singleton (cs : List Char) (c : Char) :
    hexNumber (cs ++ [c]) = 16 * hexNumber cs + (hexValue? c).getD 0 := by
  simp [hexNumber]

@[simp] lemma hexNumber_hexDigits (n : Nat) : hexNumber (hexDigits n) = n := by
  rw [hexDigits]
  induction n using Nat.base_induction 16 (by decide) with
  | single d hd =>
    rw [Nat.toDigits_of_lt_base hd]
    simp [hexNumber, hexValue?_digitChar hd]
  | digit n d hd hn ih =>
    rw [← Nat.toDigits_append_toDigits (by decide) hn hd, Nat.toDigits_of_lt_base hd,
      hexNumber_append_singleton, ih, hexValue?_digitChar hd, Option.getD_some]

lemma hexValue?_lt {c : Char} {d : Nat} (h : hexValue? c = some d) : d < 16 := by
  have h0 : ('0' : Char).toNat = 48 := rfl
  have h9 : ('9' : Char).toNat = 57 := rfl
  have ha : ('a' : Char).toNat = 97 := rfl
  have hf : ('f' : Char).toNat = 102 := rfl
  have hA : ('A' : Char).toNat = 65 := rfl
  have hF : ('F' : Char).toNat = 70 := rfl
  simp only [hexValue?, Bool.and_eq_true, decide_eq_true_eq, Char.le_def, UInt32.le_iff_toNat_le,
    Char.toNat_val] at h
  split_ifs at h with hdigit hlower hupper <;> rw [Option.some.injEq] at h <;> omega

/-- Each digit adds four bits. -/
lemma hexNumber_lt (cs : List Char) : hexNumber cs < 16 ^ cs.length := by
  induction cs using List.reverseRecOn with
  | nil => decide
  | append_singleton cs c ih =>
    have hdigit : (hexValue? c).getD 0 < 16 := by
      cases h : hexValue? c with
      | none => decide
      | some d => exact hexValue?_lt h
    rw [hexNumber_append_singleton, List.length_append, List.length_singleton, Nat.pow_succ]
    omega

@[simp] lemma hexDigits_ne_nil (n : Nat) : hexDigits n ≠ [] := Nat.toDigits_ne_nil

lemma length_hexDigits_le {n width : Nat} (hwidth : 0 < width) (h : n < 16 ^ width) :
    (hexDigits n).length ≤ width :=
  (Nat.length_toDigits_le_iff (by decide) hwidth).mpr h

/-- What stands beside numbers in base 16 is told apart from their digits. -/
lemma notMem_hexDigits {c : Char} (h : isHex c = false) (n : Nat) : c ∉ hexDigits n := by
  intro hmem
  rw [isHex_of_mem_hexDigits hmem] at h
  cases h

/-- One to four hexadecimal digits. -/
structure HexGroup (cs : List Char) : Prop where
  ne_nil : cs ≠ []
  length_le : cs.length ≤ 4
  digits : ∀ c ∈ cs, isHex c = true

lemma hexGroup_hexDigits {n : Nat} (h : n < 16 ^ 4) : HexGroup (hexDigits n) :=
  ⟨hexDigits_ne_nil n, length_hexDigits_le (by decide) h, fun _ => isHex_of_mem_hexDigits⟩

/-- Written numbers can be joined with colons. -/
lemma hexPieces (ns : List Nat) : ∀ piece ∈ ns.map hexDigits, piece ≠ [] ∧ ':' ∉ piece := by
  intro piece hpiece
  obtain ⟨n, -, rfl⟩ := List.mem_map.mp hpiece
  exact ⟨hexDigits_ne_nil n, notMem_hexDigits rfl n⟩

end Text

/-! ### Base 10 -/

namespace Numeral

/-- Reading succeeds on the nonempty texts of decimal digits that are not too long. -/
lemma readNat_eq_ok_iff {cs : List Char} {n : Nat} :
    readNat cs = .ok n ↔
      cs ≠ [] ∧ (∀ c ∈ cs, isDecimal c = true) ∧ cs.length ≤ maxDigits ∧ value cs = n := by
  rw [readNat]
  by_cases hall : ∀ c ∈ cs, isDecimal c = true
  · rw [List.takeWhile_eq_self_iff.mpr hall]
    by_cases hlong : maxDigits < cs.length
    · rw [if_pos hlong]
      simp
      omega
    · rw [if_neg hlong]
      cases cs with
      | nil => simp
      | cons c cs =>
        rw [if_neg (by simp), Except.ok.injEq]
        exact ⟨fun hvalue => ⟨by simp, hall, by omega, hvalue⟩, fun h => h.2.2.2⟩
  · have hprefix : cs.takeWhile isDecimal <+: cs := List.takeWhile_prefix isDecimal
    have hshort : (cs.takeWhile isDecimal).length < cs.length := by
      refine Nat.lt_of_le_of_ne hprefix.length_le fun heq => hall ?_
      rw [← List.takeWhile_eq_self_iff]
      exact hprefix.eq_of_length heq
    simp only [hall, false_and, and_false, iff_false]
    split_ifs <;> simp_all

lemma allDigits_of_isDecimal {cs : List Char} (hne : cs ≠ [])
    (h : ∀ c ∈ cs, isDecimal c = true) : allDigits cs = true := by
  simp only [allDigits, Bool.and_eq_true, List.all_eq_true]
  exact ⟨by simpa using hne, fun c hc => by simp [isDigit, h c hc]⟩

lemma isDecimal_of_mem_toDigits {n : Nat} {c : Char} (h : c ∈ Nat.toDigits 10 n) :
    isDecimal c = true :=
  isDecimal_of_isDigit (Nat.isDigit_of_mem_toDigits (by decide) (by decide) h)

/-- What stands beside numbers in base 10 is told apart from their digits. -/
lemma notMem_toDigits {c : Char} (h : c.isDigit = false) (n : Nat) : c ∉ Nat.toDigits 10 n := by
  intro hmem
  rw [Nat.isDigit_of_mem_toDigits (by decide) (by decide) hmem] at h
  cases h

lemma value_eq_ofDigitChars {cs : List Char} (h : ∀ c ∈ cs, c.isDigit = true) :
    value cs = Nat.ofDigitChars 10 cs 0 := by
  rw [value, Nat.ofDigitChars_eq_foldl]
  refine List.foldl_ext _ _ _ fun n c hc => ?_
  simp [decimalDigit?, h c hc]

/-- A number that is written in base 10 is read as itself. -/
lemma readNat_toDigits {n : Nat} (h : n < 10 ^ maxDigits) : readNat (Nat.toDigits 10 n) = .ok n := by
  refine readNat_eq_ok_iff.mpr ⟨Nat.toDigits_ne_nil, fun c => isDecimal_of_mem_toDigits, ?_, ?_⟩
  · exact (Nat.length_toDigits_le_iff (by decide) (by decide)).mpr h
  · rw [value_eq_ofDigitChars fun c => Nat.isDigit_of_mem_toDigits (by decide) (by decide),
      Nat.ofDigitChars_ten_toDigits]

end Numeral

end ScionEcho
