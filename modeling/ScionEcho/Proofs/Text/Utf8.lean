import Mathlib.Tactic.Common
import ScionEcho.Text.Utf8

/-!
# Texts in UTF-8

Bytes are read as a text exactly if they are its bytes in UTF-8. So each text is read back, and
whatever else is met is refused: no bytes but the shortest ones stand for a character, and none
for a surrogate.
-/

namespace ScionEcho.Text

/-- The bytes of a text in UTF-8. -/
def utf8 (text : List Char) : Bytes := text.flatMap String.utf8EncodeChar

variable {b : UInt8} {bs : Bytes} {c : Char} {text : List Char}

/-! ### First bytes -/

lemma lead?_one (h : b.toNat < 0x80) : lead? b = some (0, b.toNat, 0, 0) := by
  rw [lead?, if_pos (UInt8.lt_iff_toNat_lt.mpr h)]

lemma lead?_two (h : 0xc2 ≤ b.toNat) (h' : b.toNat < 0xe0) :
    lead? b = some (1, b.toNat - 0xc0, 0x80, 0xbf) := by
  simp only [lead?, UInt8.lt_iff_toNat_lt, UInt8.reduceToNat]
  rw [if_neg (by omega), if_neg (by omega), if_pos h']

lemma lead?_three (h : 0xe0 ≤ b.toNat) (h' : b.toNat < 0xf0) :
    lead? b = some (2, b.toNat - 0xe0, if b.toNat = 0xe0 then 0xa0 else 0x80,
      if b.toNat = 0xed then 0x9f else 0xbf) := by
  simp only [lead?, UInt8.lt_iff_toNat_lt, ← UInt8.toNat_inj, UInt8.reduceToNat]
  rw [if_neg (by omega), if_neg (by omega), if_neg (by omega), if_pos h']

lemma lead?_four (h : 0xf0 ≤ b.toNat) (h' : b.toNat < 0xf5) :
    lead? b = some (3, b.toNat - 0xf0, if b.toNat = 0xf0 then 0x90 else 0x80,
      if b.toNat = 0xf4 then 0x8f else 0xbf) := by
  simp only [lead?, UInt8.lt_iff_toNat_lt, ← UInt8.toNat_inj, UInt8.reduceToNat]
  rw [if_neg (by omega), if_neg (by omega), if_neg (by omega), if_neg (by omega), if_pos h']

/-- With other bytes no character starts. -/
lemma lead?_none (h : 0x80 ≤ b.toNat) (h' : b.toNat < 0xc2 ∨ 0xf5 ≤ b.toNat) : lead? b = none := by
  simp only [lead?, UInt8.lt_iff_toNat_lt, UInt8.reduceToNat]
  rw [if_neg (by omega)]
  rcases h' with h' | h'
  · rw [if_pos h']
  · rw [if_neg (by omega), if_neg (by omega), if_neg (by omega), if_neg (by omega)]

/-! ### Bytes that continue a character -/

@[simp] lemma continued_zero (low high : UInt8) (bs : Bytes) : continued 0 low high bs = 0 := by
  cases bs <;> rfl

lemma continued_succ_eq_iff {missing : Nat} {low high : UInt8} :
    continued (missing + 1) low high bs = missing + 1 ↔
      ∃ next rest, bs = next :: rest ∧ low ≤ next ∧ next ≤ high ∧
        continued missing 0x80 0xbf rest = missing := by
  cases bs with
  | nil => simp [continued]
  | cons next rest =>
    rw [continued]
    split_ifs with hnext
    · simp only [Bool.and_eq_true, decide_eq_true_eq] at hnext
      simp [hnext]
      omega
    · simp only [Bool.and_eq_true, decide_eq_true_eq] at hnext
      simp only [List.cons.injEq]
      constructor
      · intro h
        cases h
      · rintro ⟨_, _, ⟨rfl, rfl⟩, hlow, hhigh, -⟩
        exact absurd ⟨hlow, hhigh⟩ hnext

lemma continued_cons {tail rest : Bytes} {low high next : UInt8} (hnext : low ≤ next ∧ next ≤ high)
    (htail : continued tail.length 0x80 0xbf (tail ++ rest) = tail.length) :
    continued (next :: tail).length low high (next :: tail ++ rest) = (next :: tail).length :=
  continued_succ_eq_iff.mpr ⟨next, tail ++ rest, rfl, hnext.1, hnext.2, htail⟩

/-! ### Characters -/

/-- The number that the bytes behind a first byte add up to, with the share of the first byte. -/
def codeFrom (share : Nat) (bs : Bytes) : Nat :=
  bs.foldl (fun n b => 64 * n + (b.toNat - 0x80)) share

lemma codeFrom_nil (share : Nat) : codeFrom share [] = share := rfl

lemma codeFrom_cons (share : Nat) (next : UInt8) (tail : Bytes) :
    codeFrom share (next :: tail) = codeFrom (64 * share + (next.toNat - 0x80)) tail := by
  rw [codeFrom, List.foldl_cons, ← codeFrom]

lemma decodeChar_eq_ok_iff {more : Nat} :
    decodeChar b bs = .ok (c, more) ↔ ∃ share low high,
      lead? b = some (more, share, low, high) ∧ continued more low high bs = more ∧
        c = Char.ofNat (codeFrom share (bs.take more)) := by
  rw [decodeChar]
  constructor
  · intro h
    split at h
    next => cases h
    next missing share low high hlead =>
      dsimp only at h
      split_ifs at h with hfound
      cases h
      exact ⟨share, low, high, hlead, hfound, rfl⟩
  · rintro ⟨share, low, high, hlead, hfound, rfl⟩
    rw [hlead]
    dsimp only
    rw [if_pos hfound]
    rfl

lemma decodeChar_append {tail rest : Bytes} {share : Nat} {low high : UInt8}
    (hlead : lead? b = some (tail.length, share, low, high))
    (hcontinued : continued tail.length low high (tail ++ rest) = tail.length)
    (hcode : codeFrom share tail = c.toNat) :
    decodeChar b (tail ++ rest) = .ok (c, tail.length) := by
  refine decodeChar_eq_ok_iff.mpr ⟨share, low, high, hlead, hcontinued, ?_⟩
  rw [List.take_left, hcode, Char.ofNat_toNat]

lemma toNat_ofNat_of_lt {n : Nat} (h : n < 0x100) : (UInt8.ofNat n).toNat = n := by
  rw [UInt8.toNat_ofNat', Nat.mod_eq_of_lt h]

lemma between_iff {low high : UInt8} {n : Nat} (h : n < 0x100) :
    low ≤ UInt8.ofNat n ∧ UInt8.ofNat n ≤ high ↔ low.toNat ≤ n ∧ n ≤ high.toNat := by
  rw [UInt8.le_iff_toNat_le, UInt8.le_iff_toNat_le, toNat_ofNat_of_lt h]

/-- A character is read from its bytes, whatever follows. -/
lemma decodeChar_utf8EncodeChar (c : Char) (rest : Bytes) :
    ∃ b tail, String.utf8EncodeChar c = b :: tail ∧
      decodeChar b (tail ++ rest) = .ok (c, tail.length) := by
  have hvalid : c.toNat < 0xd800 ∨ 0xdfff < c.toNat ∧ c.toNat < 0x110000 := c.valid
  have hval : c.val.toNat = c.toNat := rfl
  have hnext (n : Nat) : (0x80 : UInt8) ≤ UInt8.ofNat (n % 64 + 128) ∧
      UInt8.ofNat (n % 64 + 128) ≤ 0xbf := by
    rw [between_iff (by omega)]
    simp
    omega
  have hshare (n : Nat) : (UInt8.ofNat (n % 64 + 128)).toNat - 128 = n % 64 := by
    rw [toNat_ofNat_of_lt (by omega)]
    omega
  simp only [String.utf8EncodeChar, hval]
  split_ifs with hone htwo hthree
  · have hlead := toNat_ofNat_of_lt (n := c.toNat) (by omega)
    exact ⟨_, _, rfl, decodeChar_append (lead?_one (by omega)) (continued_zero ..) hlead⟩
  · have hlead := toNat_ofNat_of_lt (n := c.toNat / 64 % 32 + 192) (by omega)
    refine ⟨_, _, rfl, decodeChar_append (lead?_two (by omega) (by omega))
      (continued_cons (hnext _) (continued_zero ..)) ?_⟩
    rw [codeFrom_cons, codeFrom_nil, hshare, hlead]
    omega
  · have hlead := toNat_ofNat_of_lt (n := c.toNat / 4096 % 16 + 224) (by omega)
    refine ⟨_, _, rfl, decodeChar_append (lead?_three (by omega) (by omega))
      (continued_cons ?_ (continued_cons (hnext _) (continued_zero ..))) ?_⟩
    · rw [between_iff (by omega), hlead]
      split_ifs <;> simp <;> omega
    · rw [codeFrom_cons, codeFrom_cons, codeFrom_nil, hshare, hshare, hlead]
      omega
  · have hlead := toNat_ofNat_of_lt (n := c.toNat / 262144 % 8 + 240) (by omega)
    refine ⟨_, _, rfl, decodeChar_append (lead?_four (by omega) (by omega))
      (continued_cons ?_ (continued_cons (hnext _) (continued_cons (hnext _)
        (continued_zero ..)))) ?_⟩
    · rw [between_iff (by omega), hlead]
      split_ifs <;> simp <;> omega
    · rw [codeFrom_cons, codeFrom_cons, codeFrom_cons, codeFrom_nil, hshare, hshare, hshare,
        hlead]
      omega

/-- The numbers of characters are those up to the last code point, without surrogates. -/
lemma val_ofNat {n : Nat} (h : n < 0xd800 ∨ 0xdfff < n ∧ n < 0x110000) :
    (Char.ofNat n).val.toNat = n := by
  have hvalid : n.isValidChar := h
  rw [Char.ofNat, dif_pos hvalid]
  rfl

lemma ofNat_eq_of_toNat {n : Nat} (h : n = b.toNat) : UInt8.ofNat n = b := by
  rw [h, UInt8.ofNat_toNat]

lemma utf8EncodeChar_one (hb : b.toNat < 0x80) :
    String.utf8EncodeChar (Char.ofNat (codeFrom b.toNat [])) = [b] := by
  rw [codeFrom_nil, String.utf8EncodeChar, val_ofNat (by omega), if_pos (by omega),
    UInt8.ofNat_toNat]

lemma utf8EncodeChar_two {x : UInt8} (hlow : 0xc2 ≤ b.toNat) (hhigh : b.toNat < 0xe0)
    (hx : 0x80 ≤ x.toNat ∧ x.toNat ≤ 0xbf) :
    String.utf8EncodeChar (Char.ofNat (codeFrom (b.toNat - 0xc0) [x])) = [b, x] := by
  rw [codeFrom_cons, codeFrom_nil, String.utf8EncodeChar, val_ofNat (by omega),
    if_neg (by omega), if_pos (by omega), ofNat_eq_of_toNat (b := b) (by omega),
    ofNat_eq_of_toNat (b := x) (by omega)]

/-- The bounds of the second byte leave out overlong forms and surrogates. -/
lemma utf8EncodeChar_three {x y : UInt8} (hlow : 0xe0 ≤ b.toNat) (hhigh : b.toNat < 0xf0)
    (hx : 0x80 ≤ x.toNat ∧ x.toNat ≤ 0xbf) (hshort : b.toNat = 0xe0 → 0xa0 ≤ x.toNat)
    (hsurrogate : b.toNat = 0xed → x.toNat ≤ 0x9f) (hy : 0x80 ≤ y.toNat ∧ y.toNat ≤ 0xbf) :
    String.utf8EncodeChar (Char.ofNat (codeFrom (b.toNat - 0xe0) [x, y])) = [b, x, y] := by
  rw [codeFrom_cons, codeFrom_cons, codeFrom_nil, String.utf8EncodeChar, val_ofNat (by omega),
    if_neg (by omega), if_neg (by omega), if_pos (by omega),
    ofNat_eq_of_toNat (b := b) (by omega), ofNat_eq_of_toNat (b := x) (by omega),
    ofNat_eq_of_toNat (b := y) (by omega)]

/-- The bounds of the second byte leave out overlong forms and what is no code point. -/
lemma utf8EncodeChar_four {x y z : UInt8} (hlow : 0xf0 ≤ b.toNat) (hhigh : b.toNat < 0xf5)
    (hx : 0x80 ≤ x.toNat ∧ x.toNat ≤ 0xbf) (hshort : b.toNat = 0xf0 → 0x90 ≤ x.toNat)
    (hlast : b.toNat = 0xf4 → x.toNat ≤ 0x8f) (hy : 0x80 ≤ y.toNat ∧ y.toNat ≤ 0xbf)
    (hz : 0x80 ≤ z.toNat ∧ z.toNat ≤ 0xbf) :
    String.utf8EncodeChar (Char.ofNat (codeFrom (b.toNat - 0xf0) [x, y, z])) = [b, x, y, z] := by
  rw [codeFrom_cons, codeFrom_cons, codeFrom_cons, codeFrom_nil, String.utf8EncodeChar,
    val_ofNat (by omega), if_neg (by omega), if_neg (by omega), if_neg (by omega),
    ofNat_eq_of_toNat (b := b) (by omega), ofNat_eq_of_toNat (b := x) (by omega),
    ofNat_eq_of_toNat (b := y) (by omega), ofNat_eq_of_toNat (b := z) (by omega)]

/-- What is read as a character are its bytes. -/
lemma utf8EncodeChar_of_decodeChar {more : Nat} (h : decodeChar b bs = .ok (c, more)) :
    ∃ tail rest, bs = tail ++ rest ∧ tail.length = more ∧ String.utf8EncodeChar c = b :: tail := by
  obtain ⟨share, low, high, hlead, hcontinued, rfl⟩ := decodeChar_eq_ok_iff.mp h
  rcases Nat.lt_or_ge b.toNat 0x80 with hone | hone
  · rw [lead?_one hone, Option.some.injEq, Prod.mk.injEq, Prod.mk.injEq] at hlead
    obtain ⟨rfl, rfl, -⟩ := hlead
    exact ⟨[], bs, rfl, rfl, utf8EncodeChar_one hone⟩
  by_cases hnone : b.toNat < 0xc2 ∨ 0xf5 ≤ b.toNat
  · rw [lead?_none hone hnone] at hlead
    cases hlead
  rw [not_or, Nat.not_lt, Nat.not_le] at hnone
  rcases Nat.lt_or_ge b.toNat 0xe0 with htwo | htwo
  · rw [lead?_two hnone.1 htwo, Option.some.injEq, Prod.mk.injEq, Prod.mk.injEq,
      Prod.mk.injEq] at hlead
    obtain ⟨rfl, rfl, rfl, rfl⟩ := hlead
    obtain ⟨x, rest, rfl, hx, hx', -⟩ := continued_succ_eq_iff.mp hcontinued
    exact ⟨[x], rest, rfl, rfl, utf8EncodeChar_two hnone.1 htwo ⟨hx, hx'⟩⟩
  rcases Nat.lt_or_ge b.toNat 0xf0 with hthree | hthree
  · rw [lead?_three htwo hthree, Option.some.injEq, Prod.mk.injEq, Prod.mk.injEq,
      Prod.mk.injEq] at hlead
    obtain ⟨rfl, rfl, rfl, rfl⟩ := hlead
    obtain ⟨x, rest, rfl, hxlow, hxhigh, hrest⟩ := continued_succ_eq_iff.mp hcontinued
    obtain ⟨y, rest, rfl, hy, hy', -⟩ := continued_succ_eq_iff.mp hrest
    simp only [UInt8.le_iff_toNat_le, apply_ite UInt8.toNat, UInt8.reduceToNat] at hxlow hxhigh
    refine ⟨[x, y], rest, rfl, rfl, utf8EncodeChar_three htwo hthree ?_ ?_ ?_ ⟨hy, hy'⟩⟩ <;>
      split_ifs at hxlow hxhigh <;> omega
  · rw [lead?_four hthree hnone.2, Option.some.injEq, Prod.mk.injEq, Prod.mk.injEq,
      Prod.mk.injEq] at hlead
    obtain ⟨rfl, rfl, rfl, rfl⟩ := hlead
    obtain ⟨x, rest, rfl, hxlow, hxhigh, hrest⟩ := continued_succ_eq_iff.mp hcontinued
    obtain ⟨y, rest, rfl, hy, hy', hrest⟩ := continued_succ_eq_iff.mp hrest
    obtain ⟨z, rest, rfl, hz, hz', -⟩ := continued_succ_eq_iff.mp hrest
    simp only [UInt8.le_iff_toNat_le, apply_ite UInt8.toNat, UInt8.reduceToNat] at hxlow hxhigh
    refine ⟨[x, y, z], rest, rfl, rfl,
      utf8EncodeChar_four hthree hnone.2 ?_ ?_ ?_ ⟨hy, hy'⟩ ⟨hz, hz'⟩⟩ <;>
      split_ifs at hxlow hxhigh <;> omega

/-! ### Texts -/

/-- Every text is read back from its bytes. -/
lemma decodeUtf8From_utf8 (position : Nat) (text : List Char) :
    decodeUtf8From position (utf8 text) = .ok text := by
  induction text generalizing position with
  | nil => rw [utf8, List.flatMap_nil, decodeUtf8From]
  | cons c text ih =>
    obtain ⟨b, tail, hbytes, hread⟩ := decodeChar_utf8EncodeChar c (utf8 text)
    rw [utf8, List.flatMap_cons, ← utf8, hbytes, List.cons_append, decodeUtf8From, hread]
    dsimp only
    rw [List.drop_left, ih]

/-- What is read as a text are its bytes. -/
lemma eq_utf8_of_decodeUtf8From {position : Nat} (h : decodeUtf8From position bs = .ok text) :
    bs = utf8 text := by
  fun_induction decodeUtf8From position bs generalizing text with
  | case1 =>
    cases h
    rfl
  | case2 => cases h
  | case3 => cases h
  | case4 position b bs c more hread cs hrest ih =>
    cases h
    obtain ⟨tail, rest, rfl, rfl, hbytes⟩ := utf8EncodeChar_of_decodeChar hread
    have htail := ih hrest
    rw [List.drop_left] at htail
    rw [utf8, List.flatMap_cons, hbytes, ← utf8, ← htail, List.cons_append]

/-- Bytes are read as a text exactly if they are its bytes. -/
lemma decodeUtf8_eq_ok_iff : decodeUtf8 bs = .ok text ↔ bs = utf8 text :=
  ⟨eq_utf8_of_decodeUtf8From, fun h => h ▸ decodeUtf8From_utf8 0 text⟩

end ScionEcho.Text
