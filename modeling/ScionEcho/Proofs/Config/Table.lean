import Mathlib.Tactic.Lemma
import ScionEcho.Config.Basic
import ScionEcho.Proofs.Fallible

/-!
# What a configuration takes from a table

A section that is read has none but the entries that it asks for. Each setting then has the value
under its key, if the key is there, and a default otherwise; no value is of the wrong type.
-/

namespace ScionEcho

open ConfigValue

/-- The value under a key of a section, if there is one. -/
def ConfigTable.entry? (table : ConfigTable) (part key : String) : Option ConfigValue :=
  match table.lookup part with
  | some (.table entries _) => entries.lookup key
  | _ => none

/-- The value of a setting: the one given in its place, or else the one found under its key, which
has to be of the right type, or else a default. -/
inductive Takes {α : Type} (read? : ConfigValue → Option α) (given : Option α)
    (found : Option ConfigValue) (default : α) : α → Prop
  | given {x : α} (hgiven : given = some x) : Takes read? given found default x
  | found {x : α} {v : ConfigValue} (hgiven : given = none) (hfound : found = some v)
      (hread : read? v = some x) : Takes read? given found default x
  | default (hgiven : given = none) (hfound : found = none) :
      Takes read? given found default default

variable {α : Type} {read? : ConfigValue → Option α} {given : Option α}
  {found : Option ConfigValue} {default x y : α}

lemma Takes.unique (hx : Takes read? given found default x)
    (hy : Takes read? given found default y) : x = y := by
  cases hx <;> cases hy <;> simp_all

/-- What is given takes the place of what is found. -/
lemma Takes.override (h : Takes read? none found default x) (given : Option α) :
    Takes read? given found default (given.getD x) := by
  cases given with
  | some y => exact .given rfl
  | none => exact h

/-! ### Readers of values -/

namespace ConfigValue

variable {v : ConfigValue}

lemma isSome_integer? (h : FieldType.integer.accepts v = true) : (integer? v).isSome := by
  cases v with
  | integer n => rfl
  | _ => cases h

lemma isSome_seconds? (h : FieldType.number.accepts v = true) : (seconds? v).isSome := by
  cases v with
  | integer n => rfl
  | real x => rfl
  | _ => cases h

lemma isSome_text? (h : FieldType.text.accepts v = true) : (text? v).isSome := by
  cases v with
  | text s => rfl
  | _ => cases h

lemma isSome_boolean? (h : FieldType.boolean.accepts v = true) : (boolean? v).isSome := by
  cases v with
  | boolean b => rfl
  | _ => cases h

end ConfigValue

/-! ### Sections -/

namespace SectionKeys

variable {part : SectionKeys} {table entries : ConfigTable} {key : String} {type : FieldType}

/-- The entries of a section are the ones that it asks for. -/
lemma checkEntries_eq_ok_iff : part.checkEntries entries = .ok () ↔
    ∀ entry ∈ entries, ∃ type, part.keys.lookup entry.1 = some type ∧
      type.accepts entry.2 = true := by
  induction entries with
  | nil => simp [checkEntries]
  | cons entry rest ih =>
    obtain ⟨key, value⟩ := entry
    rw [List.forall_mem_cons, ← ih, checkEntries]
    cases part.keys.lookup key with
    | none => simp
    | some type => cases haccepts : type.accepts value <;> simp [haccepts]

/-- A section that is read is a table that passes the check, or it is left out. -/
lemma read_eq_ok_iff : part.read table = .ok entries ↔
    (table.lookup part.name = none ∧ entries = []) ∨
      ∃ form, table.lookup part.name = some (.table entries form) ∧
        part.checkEntries entries = .ok () := by
  constructor
  · intro h
    unfold read at h
    split at h
    next hnone =>
      cases h
      exact .inl ⟨hnone, rfl⟩
    next found form hsome =>
      split at h
      next hcheck =>
        cases h
        exact .inr ⟨form, hsome, hcheck⟩
      next => cases h
    next => cases h
  · rintro (⟨hnone, rfl⟩ | ⟨form, hsome, hcheck⟩)
    · rw [read, hnone]
    · rw [read, hsome]
      dsimp only
      rw [hcheck]

lemma lookup_of_read (h : part.read table = .ok entries) (key : String) :
    entries.lookup key = table.entry? part.name key := by
  unfold ConfigTable.entry?
  rcases read_eq_ok_iff.mp h with ⟨hnone, rfl⟩ | ⟨form, hsome, -⟩
  · rw [hnone]
    rfl
  · rw [hsome]

/-- No value of a section that was read is of the wrong type. -/
lemma accepts_of_read (h : part.read table = .ok entries) (hkey : part.keys.lookup key = some type)
    {v : ConfigValue} (hv : entries.lookup key = some v) : type.accepts v = true := by
  rcases read_eq_ok_iff.mp h with ⟨-, rfl⟩ | ⟨form, -, hcheck⟩
  · cases hv
  · obtain ⟨before, after, rfl, -⟩ := List.lookup_eq_some_iff.mp hv
    obtain ⟨type', hkey', haccepts⟩ := checkEntries_eq_ok_iff.mp hcheck (key, v) (by simp)
    rw [hkey] at hkey'
    cases hkey'
    exact haccepts

/-- A setting of a section that was read, by a reader of the values that its key asks for. -/
lemma takes_value (h : part.read table = .ok entries) (hkey : part.keys.lookup key = some type)
    (htype : ∀ {v}, type.accepts v = true → (read? v).isSome) (default : α) :
    Takes read? none (table.entry? part.name key) default (entries.value read? key default) := by
  rw [← lookup_of_read h key, ConfigTable.value]
  cases hv : entries.lookup key with
  | none => exact .default rfl rfl
  | some v =>
    obtain ⟨x, hx⟩ := Option.isSome_iff_exists.mp (htype (accepts_of_read h hkey hv))
    rw [Option.bind_some, hx]
    exact .found rfl rfl hx

end SectionKeys

end ScionEcho
