import Mathlib.Data.List.TakeWhile
import Mathlib.Tactic.Lemma
import ScionEcho.Text.Blank
import ScionEcho.Text.Split

/-!
# Splitting what was joined

Where the pieces of a text do not hold the separator, the text is cut again where it was joined.
-/

namespace ScionEcho.Text

variable {sep : Char} {cs before after : List Char} {pieces : List (List Char)}

/-! ### Every separator -/

/-- Splitting is that of the library of lists, which knows what was joined. -/
lemma splitOn_eq (sep : Char) (cs : List Char) : splitOn sep cs = cs.splitOn sep := by
  induction cs with
  | nil => rw [splitOn_nil, List.splitOn_nil]
  | cons c cs ih =>
    rw [splitOn, List.splitOn_cons_eq_if_modifyHead, ih]
    by_cases hc : c = sep
    · rw [if_pos hc, if_pos (beq_iff_eq.mpr hc)]
    · rw [if_neg hc, if_neg (by rwa [beq_iff_eq])]
      cases h : cs.splitOn sep with
      | nil => exact absurd h (List.splitOn_ne_nil sep cs)
      | cons piece pieces => rfl

lemma splitOn_of_notMem (h : sep ∉ cs) : splitOn sep cs = [cs] := by
  rw [splitOn_eq, List.splitOn_eq_singleton h]

lemma splitOn_join (hne : pieces ≠ []) (h : ∀ piece ∈ pieces, sep ∉ piece) :
    splitOn sep (join sep pieces) = pieces := by
  rw [splitOn_eq, join, List.splitOn_intercalate sep h hne]

lemma join_cons_cons (sep : Char) (first second : List Char) (pieces : List (List Char)) :
    join sep (first :: second :: pieces) = first ++ sep :: join sep (second :: pieces) := by
  rw [join, List.intercalate_cons_cons, List.append_assoc]
  rfl

lemma exists_mem_of_mem_join {c : Char} (hc : c ∈ join sep pieces) (hne : c ≠ sep) :
    ∃ piece ∈ pieces, c ∈ piece := by
  induction pieces with
  | nil => simp [join] at hc
  | cons first pieces ih =>
    cases pieces with
    | nil => exact ⟨first, by simp, by simpa [join] using hc⟩
    | cons second pieces =>
      rw [join_cons_cons, List.mem_append, List.mem_cons] at hc
      rcases hc with hc | hc | hc
      · exact ⟨first, by simp, hc⟩
      · exact absurd hc hne
      · obtain ⟨piece, hpiece, hmem⟩ := ih hc
        exact ⟨piece, List.mem_cons_of_mem _ hpiece, hmem⟩

lemma join_splitOn (sep : Char) (cs : List Char) : join sep (splitOn sep cs) = cs := by
  rw [join, splitOn_eq, List.intercalate_splitOn]

/-- Every other character of a text stands in one of its pieces. -/
lemma exists_mem_splitOn {c : Char} (hc : c ∈ cs) (hne : c ≠ sep) :
    ∃ piece ∈ splitOn sep cs, c ∈ piece := by
  rw [← join_splitOn sep cs] at hc
  exact exists_mem_of_mem_join hc hne

/-! ### The first separator -/

lemma takeWhile_append_cons {p : Char → Bool} {c : Char} (hbefore : ∀ c ∈ before, p c = true)
    (hc : p c = false) : (before ++ c :: after).takeWhile p = before := by
  rw [List.takeWhile_append_of_pos hbefore, List.takeWhile_cons_of_neg (by simp [hc]),
    List.append_nil]

lemma dropWhile_append_cons {p : Char → Bool} {c : Char} (hbefore : ∀ c ∈ before, p c = true)
    (hc : p c = false) : (before ++ c :: after).dropWhile p = c :: after := by
  rw [List.dropWhile_append_of_pos hbefore, List.dropWhile_cons_of_neg (by simp [hc])]

lemma forall_ne_of_notMem (h : sep ∉ before) : ∀ c ∈ before, decide (c ≠ sep) = true :=
  fun _ hc => decide_eq_true fun heq => h (heq ▸ hc)

lemma cut_of_notMem (h : sep ∉ cs) : cut sep cs = (cs, none) := by
  rw [cut, List.takeWhile_eq_self_iff.mpr (forall_ne_of_notMem h),
    List.dropWhile_eq_nil_iff.mpr (forall_ne_of_notMem h)]
  rfl

lemma cut_append_cons (h : sep ∉ before) :
    cut sep (before ++ sep :: after) = (before, some after) := by
  rw [cut, takeWhile_append_cons (forall_ne_of_notMem h) (by simp),
    dropWhile_append_cons (forall_ne_of_notMem h) (by simp)]
  rfl

/-- A text that is cut is its two parts with the separator between them. -/
lemma eq_append_of_cut (h : cut sep cs = (before, some after)) :
    cs = before ++ sep :: after ∧ sep ∉ before := by
  by_cases hmem : sep ∈ cs
  · obtain ⟨front, back, rfl, hfront⟩ := List.eq_append_cons_of_mem hmem
    rw [cut_append_cons hfront, Prod.mk.injEq, Option.some.injEq] at h
    obtain ⟨rfl, rfl⟩ := h
    exact ⟨rfl, hfront⟩
  · rw [cut_of_notMem hmem, Prod.mk.injEq] at h
    cases h.2

/-! ### The first double separator -/

lemma cutDouble_cons {c : Char} (hc : c ≠ sep) (cs : List Char) :
    cutDouble sep (c :: cs) = (cutDouble sep cs).map fun (front, back) => (c :: front, back) := by
  cases cs with
  | nil => rfl
  | cons b rest => rw [cutDouble, if_neg (by simp [hc])]

/-- A single separator is passed over. -/
lemma cutDouble_sep_cons {c : Char} (hc : c ≠ sep) (cs : List Char) :
    cutDouble sep (sep :: c :: cs) =
      (cutDouble sep (c :: cs)).map fun (front, back) => (sep :: front, back) := by
  rw [cutDouble, if_neg (by simp [hc])]

lemma cutDouble_append (h : sep ∉ before) (rest : List Char) :
    cutDouble sep (before ++ rest) =
      (cutDouble sep rest).map fun (front, back) => (before ++ front, back) := by
  induction before with
  | nil => simp
  | cons c before ih =>
    rw [List.mem_cons, not_or] at h
    rw [List.cons_append, cutDouble_cons (Ne.symm h.1), ih h.2, Option.map_map]
    rfl

/-- No two separators stand side by side where nonempty pieces are joined. -/
lemma cutDouble_join_append (h : ∀ piece ∈ pieces, piece ≠ [] ∧ sep ∉ piece) (rest : List Char) :
    cutDouble sep (join sep pieces ++ rest) =
      (cutDouble sep rest).map fun (front, back) => (join sep pieces ++ front, back) := by
  induction pieces with
  | nil => simp [join]
  | cons first pieces ih =>
    have hfirst := (h first List.mem_cons_self).2
    cases pieces with
    | nil => simpa [join] using cutDouble_append hfirst rest
    | cons second pieces =>
      obtain ⟨hne, hsecond⟩ := h second (by simp)
      obtain ⟨c, second, rfl⟩ := List.exists_cons_of_ne_nil hne
      have hc : c ≠ sep := fun heq => hsecond (by simp [heq])
      have hlater := ih fun piece hpiece => h piece (List.mem_cons_of_mem _ hpiece)
      obtain ⟨tail, htail⟩ : ∃ tail, join sep ((c :: second) :: pieces) = c :: tail :=
        ⟨_, List.intercalate_cons_cons_left⟩
      rw [htail, List.cons_append] at hlater
      rw [join_cons_cons, htail, List.append_assoc, cutDouble_append hfirst, List.cons_append,
        List.cons_append, cutDouble_sep_cons hc, hlater, Option.map_map, Option.map_map]
      simp [Function.comp_def]

/-- Joined pieces hold no double separator. -/
lemma cutDouble_join (h : ∀ piece ∈ pieces, piece ≠ [] ∧ sep ∉ piece) :
    cutDouble sep (join sep pieces) = none := by
  have hnone := cutDouble_join_append h []
  rwa [List.append_nil] at hnone

/-- The first double separator after joined pieces is the one that follows them. -/
lemma cutDouble_join_append_cons_cons (h : ∀ piece ∈ pieces, piece ≠ [] ∧ sep ∉ piece)
    (rest : List Char) :
    cutDouble sep (join sep pieces ++ sep :: sep :: rest) = some (join sep pieces, rest) := by
  rw [cutDouble_join_append h, cutDouble, if_pos (by simp)]
  simp

/-! ### Blanks around a text -/

/-- No visible character of ASCII is a blank. -/
lemma isBlank_of_visible {c : Char} (hlow : '!' ≤ c) (hhigh : c ≤ '~') : isBlank c = false := by
  have hlow' : 33 ≤ c.toNat := hlow
  have hhigh' : c.toNat ≤ 126 := hhigh
  have hne {d : Char} (hd : 126 < d.toNat) : c ≠ d := by
    rintro rfl
    omega
  have hnle {d : Char} (hd : 126 < d.toNat) : ¬ d ≤ c := fun hle =>
    absurd (show d.toNat ≤ c.toNat from hle) (by omega)
  have hle {d : Char} (hd : d.toNat ≤ 32) : ¬ c ≤ d := fun hle =>
    absurd (show c.toNat ≤ d.toNat from hle) (by omega)
  simp [isBlank, hne, hnle, hle]

/-- A text that neither starts nor ends with a blank is left as it is. -/
lemma strip_eq_self (hbefore : before ≠ []) (hafter : after ≠ [])
    (hvisible : ∀ c ∈ before ++ after, isBlank c = false) (middle : List Char) :
    strip (before ++ (middle ++ after)) = before ++ (middle ++ after) := by
  obtain ⟨first, before, rfl⟩ := List.exists_cons_of_ne_nil hbefore
  obtain ⟨after, last, rfl⟩ := (List.eq_nil_or_concat after).resolve_left hafter
  have hfirst : isBlank first = false := hvisible first (by simp)
  have hlast : isBlank last = false := hvisible last (by simp)
  rw [strip, List.cons_append, List.dropWhile_cons_of_neg (by simp [hfirst]), ← List.cons_append,
    List.concat_eq_append, ← List.append_assoc middle, ← List.append_assoc (first :: before),
    List.reverse_append, List.reverse_singleton, List.singleton_append,
    List.dropWhile_cons_of_neg (by simp [hlast])]
  simp

end ScionEcho.Text
