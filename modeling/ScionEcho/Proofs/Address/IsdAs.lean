import ScionEcho.Address.IsdAs
import ScionEcho.Proofs.Text.Digits
import ScionEcho.Proofs.Text.Splitting
import ScionEcho.Proofs.Wire.WellFormed

/-!
# ISD-AS pairs as texts

The text of a pair in range is read as the pair, in decimal up to `2 ^ 32 - 1` and in three groups
above. Whatever is read is in range.
-/

namespace ScionEcho.IsdAs

open Text Address Numeral

/-! ### Decimal parts -/

/-- What is read in decimal is a numeral within the limit. -/
lemma readDecimal_eq_ok_iff {refused : ParseError} {limit n : Nat} {cs : List Char} :
    readDecimal refused limit cs = .ok n ↔ readNat cs = .ok n ∧ n ≤ limit := by
  rw [readDecimal]
  constructor
  · intro h
    split_ifs at h with hdigits
    split at h
    · cases h
    · next m hm =>
      split_ifs at h with hlimit
      obtain rfl := Except.ok.inj h
      exact ⟨hm, by omega⟩
  · rintro ⟨hn, hlimit⟩
    obtain ⟨hne, hall, -, -⟩ := readNat_eq_ok_iff.mp hn
    rw [allDigits_of_isDecimal hne hall, hn, if_neg (by simp)]
    dsimp only
    rw [if_neg (by omega)]

lemma readDecimal_toDigits {n limit : Nat} (refused : ParseError) (h : n ≤ limit)
    (hlimit : limit < 10 ^ 10) : readDecimal refused limit (Nat.toDigits 10 n) = .ok n := by
  have hmax : 10 ^ 10 ≤ 10 ^ maxDigits := Nat.pow_le_pow_right (by decide) (by decide)
  exact readDecimal_eq_ok_iff.mpr ⟨readNat_toDigits (by omega), h⟩

/-! ### Groups -/

/-- What the reader passes over behind a group: nothing, or a line feed. -/
def lineEnds : List (List Char) := [[], ['\n']]

lemma mem_lineEnds {cs : List Char} : cs ∈ lineEnds ↔ cs = [] ∨ cs = ['\n'] := by
  simp [lineEnds]

lemma isGroup_iff {cs : List Char} :
    isGroup cs = true ↔ ∃ ds rest, cs = ds ++ rest ∧ HexGroup ds ∧ rest ∈ lineEnds := by
  have hgroup : ∀ ds : List Char,
      (decide (1 ≤ ds.length) && decide (ds.length ≤ 4) && ds.all isHex) = true ↔ HexGroup ds := by
    intro ds
    simp only [Bool.and_eq_true, decide_eq_true_eq, List.all_eq_true]
    exact ⟨fun ⟨⟨hne, hle⟩, hall⟩ => ⟨List.length_pos_iff.mp hne, hle, hall⟩,
      fun ⟨hne, hle, hall⟩ => ⟨⟨List.length_pos_iff.mpr hne, hle⟩, hall⟩⟩
  rw [isGroup, hgroup]
  constructor
  · intro h
    split_ifs at h with hlast
    · obtain ⟨ds, rfl⟩ := List.getLast?_eq_some_iff.mp hlast
      rw [List.dropLast_concat] at h
      exact ⟨ds, ['\n'], rfl, h, mem_lineEnds.mpr (.inr rfl)⟩
    · exact ⟨cs, [], (List.append_nil cs).symm, h, mem_lineEnds.mpr (.inl rfl)⟩
  · rintro ⟨ds, rest, rfl, hds, hrest⟩
    rcases mem_lineEnds.mp hrest with rfl | rfl
    · rw [List.append_nil, if_neg]
      · exact hds
      · intro hlast
        cases hds.digits _ (List.mem_of_getLast? hlast)
    · rw [if_pos (by simp), List.dropLast_concat]
      exact hds

lemma isGroup_hexDigits {n : Nat} (h : n < 16 ^ 4) : isGroup (hexDigits n) = true :=
  isGroup_iff.mpr ⟨_, [], (List.append_nil _).symm, hexGroup_hexDigits h,
    mem_lineEnds.mpr (.inl rfl)⟩

/-- The value of a group is that of its digits. -/
lemma groupValue_append {ds rest : List Char} (hds : HexGroup ds) (hrest : rest ∈ lineEnds) :
    groupValue (ds ++ rest) = hexNumber ds := by
  have hnone : rest.filter isHex = [] := by
    rcases mem_lineEnds.mp hrest with rfl | rfl <;> rfl
  rw [groupValue, List.filter_append, List.filter_eq_self.mpr hds.digits, hnone, List.append_nil]

lemma groupValue_hexDigits (n : Nat) : groupValue (hexDigits n) = n := by
  rw [groupValue, List.filter_eq_self.mpr fun c => isHex_of_mem_hexDigits, hexNumber_hexDigits]

lemma groupValue_lt {cs : List Char} (h : isGroup cs = true) : groupValue cs < 16 ^ 4 := by
  obtain ⟨ds, rest, rfl, hds, hrest⟩ := isGroup_iff.mp h
  rw [groupValue_append hds hrest]
  exact (hexNumber_lt ds).trans_le (Nat.pow_le_pow_right (by decide) hds.length_le)

lemma colon_notMem_of_isGroup {cs : List Char} (h : isGroup cs = true) : ':' ∉ cs := by
  obtain ⟨ds, rest, rfl, hds, hrest⟩ := isGroup_iff.mp h
  intro hcolon
  rcases List.mem_append.mp hcolon with hcolon | hcolon
  · cases hds.digits _ hcolon
  · rcases mem_lineEnds.mp hrest with rfl | rfl <;> simp at hcolon

lemma join_groups (a b c : List Char) : join ':' [a, b, c] = a ++ ':' :: (b ++ ':' :: c) := by
  rw [join_cons_cons, join_cons_cons]
  simp [join]

/-- A text with colons is read as three groups between them, which make a number of 48 bits. -/
lemma readAs_eq_ok_iff_groups {text cs : List Char} {n : Nat} (hcolon : ':' ∈ cs) :
    readAs text cs = .ok n ↔ ∃ a b c, cs = a ++ ':' :: (b ++ ':' :: c) ∧
      (isGroup a = true ∧ isGroup b = true ∧ isGroup c = true) ∧
      2 ^ 32 * groupValue a + 2 ^ 16 * groupValue b + groupValue c = n := by
  rw [readAs, if_neg (not_not.mpr hcolon)]
  dsimp only
  constructor
  · intro h
    split_ifs at h with hgroups
    simp only [Bool.and_eq_true, decide_eq_true_eq, List.all_eq_true] at hgroups
    obtain ⟨hthree, hall⟩ := hgroups
    match hsplit : splitOn ':' cs, hthree with
    | [a, b, c], _ =>
      rw [hsplit] at h hall
      refine ⟨a, b, c, ?_, ⟨hall a (by simp), hall b (by simp), hall c (by simp)⟩, ?_⟩
      · rw [← join_groups, ← hsplit, join_splitOn]
      · rw [← Except.ok.inj h]
        simp only [List.foldl_cons, List.foldl_nil]
        omega
  · rintro ⟨a, b, c, rfl, ⟨ha, hb, hc⟩, rfl⟩
    have hsplit : splitOn ':' (a ++ ':' :: (b ++ ':' :: c)) = [a, b, c] := by
      rw [← join_groups]
      refine splitOn_join (by simp) fun piece hpiece => colon_notMem_of_isGroup ?_
      simp only [List.mem_cons, List.not_mem_nil, or_false] at hpiece
      rcases hpiece with rfl | rfl | rfl <;> assumption
    have hall : [a, b, c].all isGroup = true := by
      rw [List.all_cons, List.all_cons, List.all_cons, ha, hb, hc]
      rfl
    rw [hsplit, if_pos (by rw [hall]; rfl), Except.ok.injEq]
    simp only [List.foldl_cons, List.foldl_nil]
    omega

/-- Three groups are read as the number of 48 bits that they make together. -/
lemma readAs_groups (text : List Char) {a b c : Nat} (ha : a < 16 ^ 4) (hb : b < 16 ^ 4)
    (hc : c < 16 ^ 4) :
    readAs text (join ':' [hexDigits a, hexDigits b, hexDigits c]) =
      .ok (16 ^ 8 * a + 16 ^ 4 * b + c) := by
  rw [join_groups, readAs_eq_ok_iff_groups (by simp)]
  refine ⟨_, _, _, rfl, ⟨isGroup_hexDigits ha, isGroup_hexDigits hb, isGroup_hexDigits hc⟩, ?_⟩
  rw [groupValue_hexDigits, groupValue_hexDigits, groupValue_hexDigits]
  omega

lemma lt_of_readAs {text cs : List Char} {n : Nat} (h : readAs text cs = .ok n) : n < 2 ^ 48 := by
  by_cases hcolon : ':' ∈ cs
  · obtain ⟨a, b, c, -, ⟨ha, hb, hc⟩, rfl⟩ := (readAs_eq_ok_iff_groups hcolon).mp h
    have ha := groupValue_lt ha
    have hb := groupValue_lt hb
    have hc := groupValue_lt hc
    omega
  · rw [readAs, if_pos hcolon, readDecimal_eq_ok_iff] at h
    have hmax : maxDecimalAs = 2 ^ 32 - 1 := rfl
    omega

/-! ### Pairs -/

lemma toList_toString_natCast (n : Nat) : (toString (n : Int)).toList = Nat.toDigits 10 n :=
  Nat.toList_repr

/-- The part of a text that names the AS. -/
def asChars (asn : Int) : List Char :=
  if asn ≤ maxDecimalAs then (toString asn).toList
  else
    let n := asn.toNat
    join ':' [hexDigits (n / 0x100000000), hexDigits (n / 0x10000 % 0x10000),
      hexDigits (n % 0x10000)]

lemma toChars_natCast (a : Nat) (asn : Int) :
    toChars ⟨a, asn⟩ = Nat.toDigits 10 a ++ '-' :: asChars asn := by
  rw [← toList_toString_natCast]
  rfl

lemma readAs_asChars (text : List Char) {n : Nat} (h : n < 2 ^ 48) :
    readAs text (asChars n) = .ok n := by
  rw [asChars]
  split_ifs with hdecimal
  · have hcolon : ':' ∉ Nat.toDigits 10 n := notMem_toDigits rfl n
    rw [toList_toString_natCast, readAs, if_pos hcolon]
    exact readDecimal_toDigits _ (by exact_mod_cast hdecimal) (by decide)
  · dsimp only
    rw [Int.toNat_natCast, readAs_groups text (by omega) (by omega) (by omega)]
    congr 1
    omega

lemma asChars_ne_nil {n : Nat} (h : n < 2 ^ 48) : asChars n ≠ [] := by
  intro hnil
  have hread := readAs_asChars [] h
  rw [hnil] at hread
  cases hread

lemma exists_natCast_of_inRange {ia : IsdAs} (h : ia.InRange) :
    ∃ a n : Nat, ia = ⟨a, n⟩ ∧ a ≤ maxIsd ∧ n < 2 ^ 48 := by
  obtain ⟨isd, asn⟩ := ia
  obtain ⟨hisd, hisdLt, hasn, hasnLt⟩ := h
  obtain ⟨a, rfl⟩ := Int.eq_ofNat_of_zero_le hisd
  obtain ⟨n, rfl⟩ := Int.eq_ofNat_of_zero_le hasn
  dsimp only at hisdLt hasnLt
  have hmax : maxIsd = 2 ^ 16 - 1 := rfl
  exact ⟨a, n, rfl, by omega, by omega⟩

lemma toChars_ne_nil {ia : IsdAs} : ia.toChars ≠ [] := by
  rw [toChars]
  simp

/-- The text of a pair in range is read as the pair. -/
theorem read_toChars {ia : IsdAs} (h : ia.InRange) : read ia.toChars = .ok ia := by
  obtain ⟨a, n, rfl, ha, hn⟩ := exists_natCast_of_inRange h
  rw [read, toChars_natCast, cut_append_cons (notMem_toDigits rfl a)]
  dsimp only
  rw [if_neg (by simp [asChars_ne_nil hn]), readDecimal_toDigits _ ha (by decide), ok_bind,
    readAs_asChars _ hn, ok_bind]
  rfl

lemma isHex_of_mem_asChars {n : Nat} {c : Char} (h : c ∈ asChars n) : isHex c = true ∨ c = ':' := by
  rw [asChars] at h
  split_ifs at h with hdecimal
  · rw [toList_toString_natCast] at h
    exact .inl (isHex_of_isDigit (Nat.isDigit_of_mem_toDigits (by decide) (by decide) h))
  · rcases eq_or_ne c ':' with hcolon | hcolon
    · exact .inr hcolon
    · obtain ⟨piece, hpiece, hc⟩ := exists_mem_of_mem_join h hcolon
      simp only [List.mem_cons, List.not_mem_nil, or_false] at hpiece
      rcases hpiece with rfl | rfl | rfl <;> exact .inl (isHex_of_mem_hexDigits hc)

/-- Digits, the hyphen and colons make up the text of a pair. -/
lemma isHex_of_mem_toChars {ia : IsdAs} (h : ia.InRange) {c : Char} (hc : c ∈ ia.toChars) :
    isHex c = true ∨ c = '-' ∨ c = ':' := by
  obtain ⟨a, n, rfl, -, -⟩ := exists_natCast_of_inRange h
  rw [toChars_natCast, List.mem_append, List.mem_cons] at hc
  rcases hc with hc | hc | hc
  · exact .inl (isHex_of_isDigit (Nat.isDigit_of_mem_toDigits (by decide) (by decide) hc))
  · exact .inr (.inl hc)
  · exact (isHex_of_mem_asChars hc).imp_right .inr

/-- A pair that was read is in range. -/
theorem inRange_of_read {text : List Char} {ia : IsdAs} (h : read text = .ok ia) : ia.InRange := by
  rw [read] at h
  split at h
  · next isdText asText hcut =>
    split_ifs at h with hempty
    obtain ⟨isd, hisd, h⟩ := bind_eq_ok_iff.mp h
    obtain ⟨asn, hasn, h⟩ := bind_eq_ok_iff.mp h
    obtain rfl := Except.ok.inj h
    obtain ⟨-, hlimit⟩ := readDecimal_eq_ok_iff.mp hisd
    have hmax : maxIsd = 2 ^ 16 - 1 := rfl
    have hlt := lt_of_readAs hasn
    constructor <;> dsimp only <;> omega
  · cases h

end ScionEcho.IsdAs
