import Mathlib.Data.List.Induction
import Mathlib.Tactic.Ring
import ScionEcho.Packet.Encode

/-!
# Rows of fields

Whole numbers side by side, each in a field of its own width, are what headers and records are
made of. A row is written from its numbers and read back field by field, and neither direction
loses anything: the numbers that fit their widths and the bytes of that length are in bijection.
-/

namespace ScionEcho.Bytes

/-! ### Numbers in network byte order -/

lemma toNat_lt (bytes : Bytes) : toNat bytes < 256 ^ bytes.length := by
  induction bytes using List.reverseRecOn with
  | nil => simp [toNat]
  | append_singleton bytes b ih =>
    have hb : b.toNat < 256 := b.toNat_lt
    rw [toNat_append_singleton, List.length_append, List.length_singleton, Nat.pow_succ]
    omega

/-- Bytes are the number that they denote, written in their own width. -/
lemma ofNat_toNat (bytes : Bytes) : ofNat bytes.length (toNat bytes) = bytes := by
  induction bytes using List.reverseRecOn with
  | nil => rfl
  | append_singleton bytes b ih =>
    have hb : b.toNat < 256 := b.toNat_lt
    have hhigh : (256 * toNat bytes + b.toNat) / 256 = toNat bytes := by omega
    have hlow : UInt8.ofNat (256 * toNat bytes + b.toNat) = b := by
      apply UInt8.toNat_inj.mp
      simp only [UInt8.toNat_ofNat']
      omega
    rw [List.length_append, List.length_singleton, ofNat, toNat_append_singleton, hhigh, ih, hlow]

/-- A field of `width` bytes holds the numbers below a power of 256. -/
lemma fieldCount_eq (width : Nat) : fieldCount width = 256 ^ width := rfl

/-! ### Fields -/

lemma field_lt (bytes : Bytes) (offset width : Nat) :
    field bytes offset width < 256 ^ width := by
  refine Nat.lt_of_lt_of_le (toNat_lt _) (Nat.pow_le_pow_right (by omega) ?_)
  exact List.length_take_le _ _

lemma field_append_left {a : Bytes} {offset width : Nat} (h : offset + width ≤ a.length)
    (b : Bytes) : field (a ++ b) offset width = field a offset width := by
  rw [field, field, List.drop_append_of_le_length (by omega),
    List.take_append_of_le_length (by rw [List.length_drop]; omega)]

lemma field_append_right (a b : Bytes) (offset width : Nat) :
    field (a ++ b) (a.length + offset) width = field b offset width := by
  rw [field, field, ← List.drop_drop, List.drop_left]

lemma field_drop (bytes : Bytes) (start offset width : Nat) :
    field (bytes.drop start) offset width = field bytes (start + offset) width := by
  rw [field, field, List.drop_drop]

lemma ofNat_field {bytes : Bytes} {offset width : Nat} (h : offset + width ≤ bytes.length) :
    ofNat width (field bytes offset width) = (bytes.drop offset).take width := by
  have hlength : ((bytes.drop offset).take width).length = width := by
    rw [List.length_take, List.length_drop]
    omega
  calc ofNat width (field bytes offset width)
      = ofNat ((bytes.drop offset).take width).length (field bytes offset width) := by
        rw [hlength]
    _ = (bytes.drop offset).take width := ofNat_toNat _

/-! ### Rows -/

/-- The bytes of some numbers side by side, each given behind its width. -/
def row (items : List (Nat × Nat)) : Bytes := items.flatMap fun item => ofNat item.1 item.2

/-- The number of bytes of a row. -/
def rowLength (items : List (Nat × Nat)) : Nat := (items.map Prod.fst).sum

/-- The bytes are a row of the given numbers, and every number fits its width. -/
structure IsRow (items : List (Nat × Nat)) (bytes : Bytes) : Prop where
  fits : ∀ item ∈ items, item.2 < 256 ^ item.1
  eq_row : bytes = row items

/-- The numbers in the fields of the given widths from byte `offset` on, behind their widths. -/
def readRow (bytes : Bytes) : (offset : Nat) → List Nat → List (Nat × Nat)
  | _, [] => []
  | offset, width :: widths =>
    (width, field bytes offset width) :: readRow bytes (offset + width) widths

@[simp] lemma length_row (items : List (Nat × Nat)) : (row items).length = rowLength items := by
  simp [row, rowLength, List.length_flatMap]

lemma IsRow.length {items : List (Nat × Nat)} {bytes : Bytes} (h : IsRow items bytes) :
    bytes.length = rowLength items := by
  rw [h.eq_row, length_row]

lemma IsRow.nil : IsRow [] [] := ⟨by simp, rfl⟩

lemma IsRow.cons {width n : Nat} {items : List (Nat × Nat)} {bytes : Bytes}
    (hn : n < 256 ^ width) (h : IsRow items bytes) :
    IsRow ((width, n) :: items) (ofNat width n ++ bytes) := by
  refine ⟨?_, by rw [h.eq_row]; rfl⟩
  intro item hitem
  rcases List.mem_cons.mp hitem with rfl | hitem
  · exact hn
  · exact h.fits item hitem

lemma IsRow.append {xs ys : List (Nat × Nat)} {a b : Bytes} (ha : IsRow xs a)
    (hb : IsRow ys b) : IsRow (xs ++ ys) (a ++ b) := by
  refine ⟨?_, ?_⟩
  · intro item hitem
    rcases List.mem_append.mp hitem with hitem | hitem
    · exact ha.fits item hitem
    · exact hb.fits item hitem
  · rw [ha.eq_row, hb.eq_row, row, row, row, List.flatMap_append]

lemma readRow_append_right (a b : Bytes) (offset : Nat) (widths : List Nat) :
    readRow (a ++ b) (a.length + offset) widths = readRow b offset widths := by
  induction widths generalizing offset with
  | nil => rfl
  | cons width widths ih =>
    simp only [readRow]
    rw [field_append_right, Nat.add_assoc, ih]

/-- What was written as a row is read back from it, whatever follows. -/
lemma IsRow.readRow_eq {items : List (Nat × Nat)} {bytes : Bytes} (h : IsRow items bytes)
    (rest : Bytes) : readRow (bytes ++ rest) 0 (items.map Prod.fst) = items := by
  obtain ⟨hfits, rfl⟩ := h
  induction items with
  | nil => rfl
  | cons item items ih =>
    obtain ⟨width, n⟩ := item
    have hn : n < 256 ^ width := hfits (width, n) (by simp)
    have hitems := ih fun item hitem => hfits item (by simp [hitem])
    have hfield : field (row ((width, n) :: items) ++ rest) 0 width = n := by
      rw [row, List.flatMap_cons, List.append_assoc,
        field_append_left (by simp), field, List.drop_zero,
        List.take_of_length_le (by simp), toNat_ofNat, fieldCount_eq, Nat.mod_eq_of_lt hn]
    have htail : readRow (row ((width, n) :: items) ++ rest) (0 + width) (items.map Prod.fst)
        = readRow (row items ++ rest) 0 (items.map Prod.fst) := by
      rw [row, List.flatMap_cons, List.append_assoc]
      have := readRow_append_right (ofNat width n) (row items ++ rest) 0 (items.map Prod.fst)
      rwa [length_ofNat, Nat.add_comm] at this
    simp only [List.map_cons, readRow]
    rw [hfield, htail, hitems]

/-- Bytes that are long enough hold a row in front: the one that is read from them. -/
lemma isRow_readRow (bytes : Bytes) (offset : Nat) (widths : List Nat)
    (h : offset + widths.sum ≤ bytes.length) :
    IsRow (readRow bytes offset widths) ((bytes.drop offset).take widths.sum) := by
  induction widths generalizing offset with
  | nil => simpa [readRow] using IsRow.nil
  | cons width widths ih =>
    rw [List.sum_cons] at h ⊢
    have hsplit : (bytes.drop offset).take (width + widths.sum) =
        ofNat width (field bytes offset width) ++
          (bytes.drop (offset + width)).take widths.sum := by
      rw [List.take_add, ofNat_field (by omega), List.drop_drop]
    rw [hsplit]
    exact .cons (field_lt bytes offset width) (ih (offset + width) (by omega))

end ScionEcho.Bytes
