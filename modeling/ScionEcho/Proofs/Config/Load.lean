import Mathlib.Tactic.Common
import ScionEcho.Proofs.Config.Check
import ScionEcho.Proofs.Config.Table

/-!
# Configurations that are loaded

A configuration is loaded if its values make sense together, whether they come from the command
line, from a file or from the defaults. A value of a file that makes no sense does no harm if the
command line has another one in its place. What is loaded is enough for a run.
-/

namespace ScionEcho

/-- A number below zero. A zero is not, with whatever sign, and neither is what is not a number. -/
def Seconds.Negative : Seconds → Prop
  | .whole n => n < 0
  | .real x => Binary64.decode x = .infinite true ∨
      ∃ significand exponent, Binary64.decode x = .finite true significand exponent ∧
        significand ≠ 0

lemma Seconds.isNegative_iff {s : Seconds} : s.isNegative = true ↔ s.Negative := by
  cases s with
  | whole n => simp [isNegative, sign?, Negative, Int.compare_eq_lt]
  | real x =>
    rw [isNegative, sign?, Binary64.sign?, Negative]
    cases Binary64.decode x with
    | nan => simp
    | infinite negative => cases negative <;> simp
    | finite negative significand exponent =>
      by_cases hzero : significand = 0 <;> cases negative <;> simp [hzero]

namespace Config

open ConfigValue

/-- Each value is the one that the command line gives, or else the one in the table, or else the
default. -/
structure Effective (table : ConfigTable) (o : Overrides) (c : Config) : Prop where
  samples : Takes integer? o.samples (table.entry? "probe" "samples") 5 c.probe.samples
  maxAttempts : Takes integer? o.attempts (table.entry? "probe" "max_attempts") 20
    c.probe.maxAttempts
  timeout : Takes seconds? o.timeout (table.entry? "probe" "timeout") (.real 1.0) c.probe.timeout
  recvBuffer : Takes integer? none (table.entry? "transport" "recv_buffer") 2500
    c.transport.recvBuffer
  mtu : Takes integer? none (table.entry? "transport" "mtu") 1280 c.transport.mtu
  level : Takes text? none (table.entry? "logging" "level") "WARNING" c.logging.level
  file : Takes text? none (table.entry? "logging" "file") "" c.logging.file
  maxSize : Takes integer? none (table.entry? "logging" "max_size") 10 c.logging.maxSize
  backupCount : Takes integer? none (table.entry? "logging" "backup_count") 5
    c.logging.backupCount
  enabled : Takes boolean? none (table.entry? "influxdb" "enabled") false c.influx.enabled
  url : Takes text? none (table.entry? "influxdb" "url") "" c.influx.url
  organization : Takes text? none (table.entry? "influxdb" "organization") ""
    c.influx.organization
  token : Takes text? none (table.entry? "influxdb" "token") "" c.influx.token
  bucket : Takes text? none (table.entry? "influxdb" "bucket") "" c.influx.bucket

/-- What the command line cannot mend makes sense. -/
structure Mendable (c : Config) : Prop where
  buffer : c.transport.mtu ≤ c.transport.recvBuffer
  database : c.influx.enabled = true → c.influx.url ≠ "" ∧ c.influx.bucket ≠ ""
  level : Text.capitals c.logging.level ∈ ["DEBUG", "INFO", "WARNING", "ERROR", "CRITICAL"]

/-- A run can be made with a configuration. -/
structure Usable (c : Config) : Prop extends Mendable c where
  samples : 1 ≤ c.probe.samples
  attempts : c.probe.samples ≤ c.probe.maxAttempts
  timeout : ¬ c.probe.timeout.Negative

variable {read : Toml.Reader} {path : Option String} {content : FileContent} {table : ConfigTable}
  {o : Overrides} {c base : Config} {cause : ConfigError}

/-! ### The check -/

lemma check_eq_ok_iff : c.check = .ok () ↔ c.Usable := by
  unfold check
  constructor
  · intro h
    split_ifs at h with hsamples hattempts htimeout hbuffer hdatabase hlevel
    exact {
      buffer := Int.not_lt.mp hbuffer
      database := by simpa using hdatabase
      level := hlevel
      samples := Int.not_lt.mp hsamples
      attempts := Int.not_lt.mp hattempts
      timeout := Seconds.isNegative_iff.not.mp htimeout }
  · intro h
    have hlevel : Text.capitals c.logging.level ∈ levelNames := h.level
    have hdatabase :
        ¬ (c.influx.enabled && (c.influx.url = "" || c.influx.bucket = "")) = true := by
      simpa using h.database
    rw [if_neg (Int.not_lt.mpr h.samples), if_neg (Int.not_lt.mpr h.attempts),
      if_neg (Seconds.isNegative_iff.not.mpr h.timeout), if_neg (Int.not_lt.mpr h.buffer),
      if_neg hdatabase, if_neg (not_not.mpr hlevel)]

lemma Effective.unique {c' : Config} (h : Effective table o c) (h' : Effective table o c') :
    c = c' := by
  obtain ⟨⟨_, _, _⟩, ⟨_, _⟩, ⟨_, _, _, _⟩, ⟨_, _, _, _, _⟩⟩ := c
  obtain ⟨⟨_, _, _⟩, ⟨_, _⟩, ⟨_, _, _, _⟩, ⟨_, _, _, _, _⟩⟩ := c'
  congr 2
  exacts [h.samples.unique h'.samples, h.maxAttempts.unique h'.maxAttempts,
    h.timeout.unique h'.timeout, h.recvBuffer.unique h'.recvBuffer, h.mtu.unique h'.mtu,
    h.level.unique h'.level, h.file.unique h'.file, h.maxSize.unique h'.maxSize,
    h.backupCount.unique h'.backupCount, h.enabled.unique h'.enabled, h.url.unique h'.url,
    h.organization.unique h'.organization, h.token.unique h'.token, h.bucket.unique h'.bucket]

lemma effective_of_ofTable (h : ofTable table = .ok base) : Effective table {} base := by
  unfold ofTable at h
  obtain ⟨probe, hprobe, h⟩ := bind_eq_ok_iff.mp h
  obtain ⟨transport, htransport, h⟩ := bind_eq_ok_iff.mp h
  obtain ⟨logging, hlogging, h⟩ := bind_eq_ok_iff.mp h
  obtain ⟨influx, hinflux, h⟩ := bind_eq_ok_iff.mp h
  cases h
  exact {
    samples := SectionKeys.takes_value hprobe rfl isSome_integer? 5
    maxAttempts := SectionKeys.takes_value hprobe rfl isSome_integer? 20
    timeout := SectionKeys.takes_value hprobe rfl isSome_seconds? (.real 1.0)
    recvBuffer := SectionKeys.takes_value htransport rfl isSome_integer? 2500
    mtu := SectionKeys.takes_value htransport rfl isSome_integer? 1280
    level := SectionKeys.takes_value hlogging rfl isSome_text? "WARNING"
    file := SectionKeys.takes_value hlogging rfl isSome_text? ""
    maxSize := SectionKeys.takes_value hlogging rfl isSome_integer? 10
    backupCount := SectionKeys.takes_value hlogging rfl isSome_integer? 5
    enabled := SectionKeys.takes_value hinflux rfl isSome_boolean? false
    url := SectionKeys.takes_value hinflux rfl isSome_text? ""
    organization := SectionKeys.takes_value hinflux rfl isSome_text? ""
    token := SectionKeys.takes_value hinflux rfl isSome_text? ""
    bucket := SectionKeys.takes_value hinflux rfl isSome_text? "" }

/-- The command line has its values put in the place of those of the file. -/
lemma Effective.override (h : Effective table {} c) (o : Overrides) :
    Effective table o (c.override o) :=
  { h with
    samples := h.samples.override o.samples
    maxAttempts := h.maxAttempts.override o.attempts
    timeout := h.timeout.override o.timeout }

/-- What is loaded is enough for a run. -/
lemma Usable.check_runSettings (h : c.Usable) (maxPacketLength : Int) :
    (⟨c.probe.samples, c.probe.maxAttempts, c.probe.receiveTimeout, maxPacketLength⟩ :
      RunSettings).check = .ok () :=
  (Config.check_runSettings (check_eq_ok_iff.mpr h)).1

end Config

end ScionEcho
