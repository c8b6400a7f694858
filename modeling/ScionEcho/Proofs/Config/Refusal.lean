import Mathlib.Data.List.Nodup
import Mathlib.Tactic.Common
import ScionEcho.Proofs.Config.Load

/-!
# Tables that are refused

Which entries a configuration may have is a matter of their section, their key and their value. A
table whose sections have no other entries is a configuration, whatever stands beside the sections.
Any other table is refused, and the error names the first thing that is wrong with it: sections are
looked at in a fixed order, and the entries of a section in their own.
-/

namespace ScionEcho

/-- The entries that a section may have, with their keys and values. -/
inductive Admitted : (part key : String) → ConfigValue → Prop
  | samples (n : Int) : Admitted "probe" "samples" (.integer n)
  | maxAttempts (n : Int) : Admitted "probe" "max_attempts" (.integer n)
  | wholeTimeout (n : Int) : Admitted "probe" "timeout" (.integer n)
  | realTimeout (x : Float) : Admitted "probe" "timeout" (.real x)
  | recvBuffer (n : Int) : Admitted "transport" "recv_buffer" (.integer n)
  | mtu (n : Int) : Admitted "transport" "mtu" (.integer n)
  | level (s : String) : Admitted "logging" "level" (.text s)
  | file (s : String) : Admitted "logging" "file" (.text s)
  | maxSize (n : Int) : Admitted "logging" "max_size" (.integer n)
  | backupCount (n : Int) : Admitted "logging" "backup_count" (.integer n)
  | enabled (b : Bool) : Admitted "influxdb" "enabled" (.boolean b)
  | url (s : String) : Admitted "influxdb" "url" (.text s)
  | organization (s : String) : Admitted "influxdb" "organization" (.text s)
  | token (s : String) : Admitted "influxdb" "token" (.text s)
  | bucket (s : String) : Admitted "influxdb" "bucket" (.text s)

/-- What is wrong with an entry of a section. -/
inductive EntryOffence (part key : String) (value : ConfigValue) : ConfigError → Prop
  | unknownKey (hkey : ∀ other, ¬ Admitted part key other) :
      EntryOffence part key value (.unknownKey part key)
  | invalidType {other : ConfigValue} (hkey : Admitted part key other)
      (hvalue : ¬ Admitted part key value) :
      EntryOffence part key value (.invalidType part key value.typeName)

/-- A section may be left out, and it may be a table of entries that it may have. -/
inductive SectionProper (part : String) : Option ConfigValue → Prop
  | absent : SectionProper part none
  | table {entries : ConfigTable} {form : TableForm}
      (hentries : ∀ entry ∈ entries, Admitted part entry.1 entry.2) :
      SectionProper part (some (.table entries form))

/-- The first thing that is wrong with a section. -/
inductive SectionOffence (part : String) : Option ConfigValue → ConfigError → Prop
  | notTable {value : ConfigValue} (hvalue : ∀ entries form, value ≠ .table entries form) :
      SectionOffence part (some value) (.notTable part)
  | entry {before after : ConfigTable} {key : String} {value : ConfigValue} {form : TableForm}
      {cause : ConfigError} (hbefore : ∀ entry ∈ before, Admitted part entry.1 entry.2)
      (hentry : EntryOffence part key value cause) :
      SectionOffence part (some (.table (before ++ (key, value) :: after) form)) cause

/-- The names of the sections, in the order in which they are looked at. -/
def sectionNames : List String := ["probe", "transport", "logging", "influxdb"]

namespace ConfigTable

/-- Nothing is wrong with the sections of a table. -/
def Proper (table : ConfigTable) : Prop :=
  ∀ part ∈ sectionNames, SectionProper part (table.lookup part)

/-- The first thing that is wrong with a table. -/
inductive FirstOffence (table : ConfigTable) (cause : ConfigError) : Prop
  | mk {before after : List String} {part : String} (hparts : sectionNames = before ++ part :: after)
      (hbefore : ∀ name ∈ before, SectionProper name (table.lookup name))
      (hpart : SectionOffence part (table.lookup part) cause)

end ConfigTable

/-! ### Entries -/

namespace SectionKeys

variable {part : SectionKeys} {table entries : ConfigTable} {key name : String}
  {value : ConfigValue} {type : FieldType} {cause : ConfigError}

/-- The sections, in the order in which they are read. -/
def all : List SectionKeys := [probe, transport, logging, influxdb]

lemma exists_lookup_of_admitted (h : Admitted name key value) :
    ∃ part ∈ all, part.name = name ∧
      ∃ type, part.keys.lookup key = some type ∧ type.accepts value = true := by
  cases h with
  | samples | maxAttempts | wholeTimeout | realTimeout =>
    exact ⟨probe, by simp [all], rfl, _, rfl, rfl⟩
  | recvBuffer | mtu => exact ⟨transport, by simp [all], rfl, _, rfl, rfl⟩
  | level | file | maxSize | backupCount => exact ⟨logging, by simp [all], rfl, _, rfl, rfl⟩
  | enabled | url | organization | token | bucket =>
    exact ⟨influxdb, by simp [all], rfl, _, rfl, rfl⟩

/-- Every key of a section has values of its type. -/
lemma admitted_of_mem (hpart : part ∈ all) (hkey : (key, type) ∈ part.keys)
    (hvalue : type.accepts value = true) : Admitted part.name key value := by
  simp only [all, List.mem_cons, List.not_mem_nil, or_false] at hpart
  rcases hpart with rfl | rfl | rfl | rfl <;>
    simp only [probe, transport, logging, influxdb, List.mem_cons, List.not_mem_nil, or_false,
      Prod.mk.injEq] at hkey
  · rcases hkey with ⟨rfl, rfl⟩ | ⟨rfl, rfl⟩ | ⟨rfl, rfl⟩ <;> cases value <;> cases hvalue <;>
      constructor
  · rcases hkey with ⟨rfl, rfl⟩ | ⟨rfl, rfl⟩ <;> cases value <;> cases hvalue <;> constructor
  · rcases hkey with ⟨rfl, rfl⟩ | ⟨rfl, rfl⟩ | ⟨rfl, rfl⟩ | ⟨rfl, rfl⟩ <;> cases value <;>
      cases hvalue <;> constructor
  · rcases hkey with ⟨rfl, rfl⟩ | ⟨rfl, rfl⟩ | ⟨rfl, rfl⟩ | ⟨rfl, rfl⟩ | ⟨rfl, rfl⟩ <;>
      cases value <;> cases hvalue <;> constructor

lemma eq_of_name (hpart : part ∈ all) {other : SectionKeys} (hother : other ∈ all)
    (h : other.name = part.name) : other = part :=
  List.inj_on_of_nodup_map (f := SectionKeys.name) (by decide) hother hpart h

lemma admitted_iff (hpart : part ∈ all) : Admitted part.name key value ↔
    ∃ type, part.keys.lookup key = some type ∧ type.accepts value = true := by
  constructor
  · intro h
    obtain ⟨other, hother, hname, hlookup⟩ := exists_lookup_of_admitted h
    rwa [eq_of_name hpart hother hname] at hlookup
  · rintro ⟨type, hkey, hvalue⟩
    obtain ⟨before, after, heq, -⟩ := List.lookup_eq_some_iff.mp hkey
    exact admitted_of_mem hpart (by simp [heq]) hvalue

/-- A key of a section has some values. -/
lemma exists_admitted_iff (hpart : part ∈ all) :
    (∃ value, Admitted part.name key value) ↔ ∃ type, part.keys.lookup key = some type := by
  simp only [admitted_iff hpart]
  constructor
  · rintro ⟨value, type, hkey, -⟩
    exact ⟨type, hkey⟩
  · rintro ⟨type, hkey⟩
    cases type with
    | integer => exact ⟨.integer 0, _, hkey, rfl⟩
    | number => exact ⟨.integer 0, _, hkey, rfl⟩
    | text => exact ⟨.text "", _, hkey, rfl⟩
    | boolean => exact ⟨.boolean true, _, hkey, rfl⟩

/-- The entries of a section are checked one after the other. -/
lemma checkEntries_eq_forM :
    part.checkEntries entries = forM entries fun entry => part.checkEntries [entry] := by
  induction entries with
  | nil => rfl
  | cons entry rest ih =>
    obtain ⟨key, value⟩ := entry
    rw [List.forM_cons, ← ih, checkEntries, checkEntries]
    cases part.keys.lookup key with
    | none => rfl
    | some type =>
      dsimp only
      split_ifs <;> rfl

lemma checkEntry_eq_ok_iff (hpart : part ∈ all) :
    part.checkEntries [(key, value)] = .ok () ↔ Admitted part.name key value := by
  rw [admitted_iff hpart, checkEntries_eq_ok_iff]
  simp

lemma checkEntry_eq_error_iff (hpart : part ∈ all) :
    part.checkEntries [(key, value)] = .error cause ↔ EntryOffence part.name key value cause := by
  have hknown : (∃ value, Admitted part.name key value) ↔ ∃ type, part.keys.lookup key = some type :=
    exists_admitted_iff hpart
  rw [checkEntries, checkEntries]
  cases hkey : part.keys.lookup key with
  | none =>
    rw [hkey] at hknown
    constructor
    · intro h
      cases h
      exact .unknownKey fun other hother => by simpa using hknown.mp ⟨other, hother⟩
    · intro h
      cases h with
      | unknownKey => rfl
      | invalidType hother => simpa using hknown.mp ⟨_, hother⟩
  | some type =>
    obtain ⟨other, hother⟩ := hknown.mpr ⟨type, hkey⟩
    dsimp only
    constructor
    · intro h
      split_ifs at h with haccepts
      cases h
      refine .invalidType hother fun hvalue => haccepts ?_
      simpa [admitted_iff hpart, hkey] using hvalue
    · intro h
      cases h with
      | unknownKey hnone => exact absurd hother (hnone other)
      | invalidType _ hvalue =>
        rw [if_neg fun haccepts => hvalue ((admitted_iff hpart).mpr ⟨type, hkey, haccepts⟩)]

/-! ### Sections -/

lemma exists_read_iff (hpart : part ∈ all) :
    (∃ entries, part.read table = .ok entries) ↔
      SectionProper part.name (table.lookup part.name) := by
  simp only [read_eq_ok_iff, checkEntries_eq_ok_iff, ← admitted_iff hpart]
  constructor
  · rintro ⟨entries, ⟨hnone, -⟩ | ⟨form, hsome, hentries⟩⟩
    · rw [hnone]
      exact .absent
    · rw [hsome]
      exact .table hentries
  · intro h
    generalize hfound : table.lookup part.name = found at h
    cases h with
    | absent => exact ⟨[], .inl ⟨rfl, rfl⟩⟩
    | table hentries => exact ⟨_, .inr ⟨_, rfl, hentries⟩⟩

lemma read_eq_error_iff (hpart : part ∈ all) :
    part.read table = .error cause ↔
      SectionOffence part.name (table.lookup part.name) cause := by
  rw [read]
  constructor
  · intro h
    split at h
    next => cases h
    next entries form hsome =>
      rw [hsome]
      split at h
      next => cases h
      next e hcheck =>
        cases h
        rw [checkEntries_eq_forM, forM_eq_error_iff] at hcheck
        obtain ⟨before, ⟨key, value⟩, after, rfl, hbefore, hentry⟩ := hcheck
        exact .entry (fun entry hentry => (checkEntry_eq_ok_iff hpart).mp (hbefore entry hentry))
          ((checkEntry_eq_error_iff hpart).mp hentry)
    next value hvalue hsome =>
      cases h
      rw [hsome]
      exact .notTable hvalue
  · intro h
    generalize hfound : table.lookup part.name = found at h
    cases h with
    | @notTable value hvalue =>
      cases value with
      | table entries form => exact absurd rfl (hvalue entries form)
      | _ => rfl
    | @entry before after key value form cause hbefore hentry =>
      have hcheck : part.checkEntries (before ++ (key, value) :: after) = .error cause := by
        rw [checkEntries_eq_forM, forM_eq_error_iff]
        exact ⟨before, (key, value), after, rfl,
          fun entry hentry => (checkEntry_eq_ok_iff hpart).mpr (hbefore entry hentry),
          (checkEntry_eq_error_iff hpart).mpr hentry⟩
      dsimp only
      rw [hcheck]

end SectionKeys

/-! ### Tables -/

namespace Config

variable {table table' : ConfigTable} {cause : ConfigError}

/-- A table is a configuration as soon as its sections can be read. -/
lemma ofTable_map (table : ConfigTable) :
    (ofTable table).map (fun _ => ()) =
      forM SectionKeys.all fun part => (part.read table).map fun _ => () := by
  rw [ofTable]
  simp only [SectionKeys.all, List.forM_cons, List.forM_nil]
  cases SectionKeys.probe.read table with
  | error e => rfl
  | ok probe =>
    cases SectionKeys.transport.read table with
    | error e => rfl
    | ok transport =>
      cases SectionKeys.logging.read table with
      | error e => rfl
      | ok logging => cases SectionKeys.influxdb.read table <;> rfl

lemma names_all : SectionKeys.all.map SectionKeys.name = sectionNames := rfl

lemma exists_ofTable_iff : (∃ c, ofTable table = .ok c) ↔ table.Proper := by
  rw [← map_unit_eq_ok_iff, ofTable_map, forM_eq_ok_iff, ConfigTable.Proper, ← names_all,
    List.forall_mem_map]
  refine forall₂_congr fun part hpart => ?_
  rw [map_unit_eq_ok_iff, SectionKeys.exists_read_iff hpart]

lemma ofTable_eq_error_iff : ofTable table = .error cause ↔ table.FirstOffence cause := by
  rw [← map_eq_error_iff (f := fun _ => ()), ofTable_map, forM_eq_error_iff]
  simp only [map_unit_eq_ok_iff, map_eq_error_iff]
  constructor
  · rintro ⟨before, part, after, hparts, hbefore, hpart⟩
    have hmem : ∀ other ∈ before ++ part :: after, other ∈ SectionKeys.all := by simp [hparts]
    refine ⟨by rw [← names_all, hparts, List.map_append, List.map_cons], ?_,
      (SectionKeys.read_eq_error_iff (hmem part (by simp))).mp hpart⟩
    rw [List.forall_mem_map]
    exact fun other hother =>
      (SectionKeys.exists_read_iff (hmem other (by simp [hother]))).mp (hbefore other hother)
  · rintro ⟨hparts, hbefore, hpart⟩
    rw [← names_all] at hparts
    obtain ⟨before, rest, hall, rfl, hrest⟩ := List.map_eq_append_iff.mp hparts
    obtain ⟨part, after, rfl, rfl, rfl⟩ := List.map_eq_cons_iff.mp hrest
    have hmem : ∀ other ∈ before ++ part :: after, other ∈ SectionKeys.all := by simp [hall]
    rw [List.forall_mem_map] at hbefore
    exact ⟨before, part, after, hall,
      fun other hother =>
        (SectionKeys.exists_read_iff (hmem other (by simp [hother]))).mpr (hbefore other hother),
      (SectionKeys.read_eq_error_iff (hmem part (by simp))).mpr hpart⟩

/-- Nothing but its sections matters of a table. -/
lemma ofTable_congr (h : ∀ part ∈ sectionNames, table'.lookup part = table.lookup part) :
    ofTable table' = ofTable table := by
  have hread : ∀ part ∈ SectionKeys.all, part.read table' = part.read table := by
    intro part hpart
    have hname : part.name ∈ sectionNames := names_all ▸ List.mem_map_of_mem hpart
    rw [SectionKeys.read, SectionKeys.read, h _ hname]
  simp only [SectionKeys.all, List.forall_mem_cons] at hread
  obtain ⟨hprobe, htransport, hlogging, hinflux, -⟩ := hread
  rw [ofTable, ofTable, hprobe, htransport, hlogging, hinflux]

/-- A table is a configuration exactly if nothing is wrong with its sections. Then every setting has
the value that is given, or else its default. Otherwise the table is refused for the first thing
that is wrong. What stands beside the sections does not matter. -/
theorem ofTable_exact (table : ConfigTable) :
    ((∃ c, ofTable table = .ok c) ↔ table.Proper) ∧
      (∀ c, ofTable table = .ok c ↔ table.Proper ∧ Effective table {} c) ∧
      (∀ cause, ofTable table = .error cause ↔ table.FirstOffence cause) ∧
      (∀ table' : ConfigTable,
        (∀ part ∈ sectionNames, table'.lookup part = table.lookup part) →
          ofTable table' = ofTable table) := by
  refine ⟨exists_ofTable_iff, fun c => ⟨fun h => ?_, ?_⟩, fun cause => ofTable_eq_error_iff,
    fun table' h => ofTable_congr h⟩
  · exact ⟨exists_ofTable_iff.mp ⟨c, h⟩, effective_of_ofTable h⟩
  · rintro ⟨hproper, heffective⟩
    obtain ⟨c', hc'⟩ := exists_ofTable_iff.mpr hproper
    rw [hc', heffective.unique (effective_of_ofTable hc')]

/-- A table in which several things are wrong, in sections out of their order. -/
def troubledTable : ConfigTable :=
  [("influxdb", .integer 1),
    ("logging", .table [("level", .text "INFO"), ("max_size", .boolean true), ("colour", .null)]),
    ("probe", .table [("timeout", .integer 0)] .inline)]

/-- The first thing that is wrong is a size of log files that is no integer. Something beside the
sections changes nothing. -/
theorem ofTable_exact_troubled :
    let noted : ConfigTable := ("note", .text "draft") :: troubledTable
    (∀ part ∈ sectionNames, noted.lookup part = troubledTable.lookup part) ∧
      ofTable noted = ofTable troubledTable ∧
      troubledTable.FirstOffence (.invalidType "logging" "max_size" "bool") := by
  intro noted
  have hsame : ∀ part ∈ sectionNames, noted.lookup part = troubledTable.lookup part := by
    simp [sectionNames, noted, List.lookup_cons]
  obtain ⟨-, -, hrefused, hbeside⟩ := ofTable_exact troubledTable
  exact ⟨hsame, hbeside noted hsame, (hrefused _).mp rfl⟩

end Config

end ScionEcho
