import Mathlib.Logic.Function.Basic
import ScionEcho.CommandLine.Fault
import ScionEcho.Proofs.Fallible
import ScionEcho.Proofs.Log.Lineage

/-!
# Setting up the log again and again

Whatever earlier setups have left, the last one decides: the root has a handler for standard error
and one for the log file that could be opened, and every record that reaches their level and that
of its logger is written once to each of them.
-/

namespace ScionEcho

namespace Logging

variable {level bar : Level} {l : Logging} {r : LogRecord} {c : LogSettings} {opened : Bool}

/-! ### Which records are to be written -/

/-- A record is to be written. -/
def Due (level : Level) (r : LogRecord) : Prop :=
  level ≤ r.level ∧ ((∃ q ∈ quietLoggers, Within q r.logger) → Level.warning ≤ r.level)

/-- Whether a record is written depends on other loggers: its name goes on with two points behind
that of a quiet one, and it is below a warning. -/
def Undecided (level : Level) (r : LogRecord) : Prop :=
  (∃ q ∈ quietLoggers, Doubled q r.logger) ∧ level ≤ r.level ∧ r.level < Level.warning

instance (level : Level) (r : LogRecord) : Decidable (Due level r) :=
  inferInstanceAs (Decidable (_ ∧ _))

instance (level : Level) (r : LogRecord) : Decidable (Undecided level r) :=
  inferInstanceAs (Decidable (_ ∧ _))

lemma Undecided.not_due (h : Undecided level r) : ¬ Due level r := by
  obtain ⟨⟨q, hq, hdoubled⟩, -, hbelow⟩ := h
  rintro ⟨-, hwarning⟩
  exact absurd (hwarning ⟨q, hq, hdoubled.within⟩) (Int.not_le.mpr hbelow)

/-- A record that reaches the level of its logger and of the handlers is due, and no other is. -/
lemma Bar.due_iff (hbar : Bar level r.logger bar) (hclear : ¬ Undecided level r) :
    bar ≤ r.level ∧ level ≤ r.level ↔ Due level r := by
  cases hbar with
  | root hout =>
    constructor
    · rintro ⟨hlevel, -⟩
      exact ⟨hlevel, fun ⟨q, hq, hin⟩ => absurd hin (hout q hq)⟩
    · rintro ⟨hlevel, -⟩
      exact ⟨hlevel, hlevel⟩
  | quiet hq hin =>
    constructor
    · rintro ⟨hwarning, hlevel⟩
      exact ⟨hlevel, fun _ => hwarning⟩
    · rintro ⟨hlevel, hwarning⟩
      exact ⟨hwarning ⟨_, hq, hin⟩, hlevel⟩
  | doubled hq hin =>
    constructor
    · rintro ⟨hlevel, -⟩
      refine ⟨hlevel, fun _ => ?_⟩
      by_contra hbelow
      exact hclear ⟨⟨_, hq, hin⟩, hlevel, Int.not_le.mp hbelow⟩
    · rintro ⟨hlevel, -⟩
      exact ⟨hlevel, hlevel⟩

/-! ### The lines of a record -/

/-- The handlers of a setup, with one for the log file if it could be opened. -/
def handlersOf (level : Level) (c : LogSettings) (opened : Bool) : List Handler :=
  ⟨.stderr, level, .full⟩ ::
    if opened then [⟨.file c.file (c.maxSize * 0x100000) c.backupCount, level, .full⟩] else []

/-- A record is written as a line of its own, by every handler of a setup. -/
def lineOf (r : LogRecord) : String := LineFormat.full.line r ++ "\n"

/-- The lines of records, one after the other. -/
def textOf (records : List LogRecord) : String := String.join (records.map lineOf)

lemma textOf_cons (r : LogRecord) (records : List LogRecord) :
    textOf (r :: records) = lineOf r ++ textOf records := by
  rw [textOf, List.map_cons, String.join_cons, textOf]

/-- A record passes its logger and the handlers of a setup. -/
def Shows (level : Level) (l : Logging) (r : LogRecord) : Prop :=
  l.passes r = true ∧ level ≤ r.level

instance (level : Level) (l : Logging) (r : LogRecord) : Decidable (Shows level l r) :=
  inferInstanceAs (Decidable (_ ∧ _))

/-- A record that passes is written by every handler. -/
lemma linesOf_eq (h : l.handlers = handlersOf level c opened) (r : LogRecord) :
    l.linesOf r =
      if Shows level l r then
        (handlersOf level c opened).map fun handler => (handler.sink, LineFormat.full.line r)
      else [] := by
  rw [linesOf, h]
  by_cases hpasses : l.passes r = true
  · by_cases hlevel : level ≤ r.level
    · cases opened <;> simp [handlersOf, Shows, hpasses, hlevel]
    · cases opened <;> simp [handlersOf, Shows, hpasses, hlevel]
  · simp [Shows, hpasses]

lemma stderrText_eq (h : l.handlers = handlersOf level c opened) (r : LogRecord) :
    l.stderrText r = if Shows level l r then lineOf r else "" := by
  rw [stderrText, linesOf_eq h]
  split_ifs
  · cases opened <;> simp [handlersOf, lineOf]
  · rfl

lemma fileText_eq (h : l.handlers = handlersOf level c opened) (r : LogRecord) :
    l.fileText r = if opened = true then (if Shows level l r then lineOf r else "") else "" := by
  rw [fileText, linesOf_eq h]
  by_cases hshows : Shows level l r
  · rw [if_pos hshows, if_pos hshows]
    cases opened <;> simp [handlersOf, lineOf]
  · rw [if_neg hshows, if_neg hshows, ite_self]
    rfl

end Logging

/-! ### A desk with standard error and log files -/

/-- What has been written to standard error and to the log files, and what decides which log files
can be opened. -/
structure LogDesk (σ : Type) where
  script : σ
  stderr : String := ""
  /-- The log file that was opened last. -/
  logFile : Option String := none
  /-- What has been written to the log file at each path. -/
  files : String → String := fun _ => ""

namespace LogDesk

open Logging

variable {σ : Type} {opens : String → σ → Except OsError Unit × σ} {level : Level} {l : Logging}
  {c : LogSettings} {given : Option Level} {opened : Bool} {d : LogDesk σ}

/-- Text is added to the log file that is open. -/
def append (d : LogDesk σ) (text : String) : LogDesk σ :=
  match d.logFile with
  | none => d
  | some path => { d with files := Function.update d.files path (d.files path ++ text) }

/-- Text is added to standard error, and to the log file if there is a handler for it. -/
def write (d : LogDesk σ) (opened : Bool) (text : String) : LogDesk σ :=
  { d with stderr := d.stderr ++ text }.append (if opened = true then text else "")

/-- The console of a desk. Log files open or fail as its script decides. -/
def console (opens : String → σ → Except OsError Unit × σ) : Console (StateM (LogDesk σ)) where
  readConfig _ := pure .missing
  openLogFile path := ExceptT.mk fun d =>
    match opens path d.script with
    | (.ok (), script) => (.ok (), { d with script, logFile := some path })
    | (.error cause, script) => (.error cause, { d with script })
  appendLogFile text := fun d => ((), d.append text)
  stdout _ := pure ()
  stderr text := fun d => ((), { d with stderr := d.stderr ++ text })

/-- The configuration names a log file, and it can be opened. -/
def opensFile (opens : String → σ → Except OsError Unit × σ) (d : LogDesk σ)
    (c : LogSettings) : Bool :=
  c.file ≠ "" && (opens c.file d.script).1.isOk

lemma execute_openLogFile (opens : String → σ → Except OsError Unit × σ) (path : String)
    (d : LogDesk σ) :
    execute ((console opens).openLogFile path) d =
      match opens path d.script with
      | (.ok (), script) => (.ok (), { d with script, logFile := some path })
      | (.error cause, script) => (.error cause, { d with script }) := rfl

@[simp] lemma append_empty (d : LogDesk σ) : d.append "" = d := by
  rw [append]
  split
  · rfl
  · rw [String.append_empty, Function.update_eq_self]

@[simp] lemma write_empty (d : LogDesk σ) (opened : Bool) : d.write opened "" = d := by
  simp [write]

lemma write_write (d : LogDesk σ) (opened : Bool) (first second : String) :
    (d.write opened first).write opened second = d.write opened (first ++ second) := by
  obtain ⟨script, stderr, logFile, files⟩ := d
  cases opened <;> cases logFile <;> simp [write, append, String.append_assoc]

lemma stderr_write (d : LogDesk σ) (opened : Bool) (text : String) :
    (d.write opened text).stderr = d.stderr ++ text := by
  rw [write, append]
  split <;> rfl

lemma files_write {path : String} (hfile : opened = true → d.logFile = some path)
    (text other : String) :
    (d.write opened text).files other =
      d.files other ++ if opened = true ∧ other = path then text else "" := by
  cases opened with
  | false => simp [write]
  | true =>
    rw [write, append]
    simp only [hfile rfl, if_true]
    by_cases hother : other = path
    · simp [hother]
    · simp [hother]

/-! ### Records after a setup -/

lemma run_emit (h : l.handlers = handlersOf level c opened) (r : LogRecord) (d : LogDesk σ) :
    ((console opens).emit l r).run d =
      ((), d.write opened (if Shows level l r then lineOf r else "")) := by
  rw [write, ← fileText_eq h, ← stderrText_eq h]
  rfl

/-- Records are written in their order, those that are due and no others. -/
lemma exists_emitAll {records : List LogRecord} (h : Settled level l)
    (hhandlers : l.handlers = handlersOf level c opened) (hpositive : ∀ r ∈ records, 0 < r.level)
    (d : LogDesk σ) :
    ∃ written : List LogRecord, written.Sublist records ∧
      written.filter (fun r => ¬ Undecided level r) = records.filter (fun r => Due level r) ∧
      ((console opens).emitAll l records).run d = ((), d.write opened (textOf written)) := by
  -- a record makes a logger and leaves a decision, so the log varies; that it is settled stays
  induction records generalizing l d with
  | nil =>
    refine ⟨[], .slnil, rfl, ?_⟩
    rw [textOf, List.map_nil, String.join_nil, write_empty]
    rfl
  | cons r records ih =>
    obtain ⟨hr, hrecords⟩ := List.forall_mem_cons.mp hpositive
    obtain ⟨written, hsublist, hfilter, hrun⟩ := ih (h.after r) hhandlers hrecords
      (d.write opened (if Shows level l r then lineOf r else ""))
    have hdue (hdecided : ¬ Undecided level r) : Shows level l r ↔ Due level r := by
      obtain ⟨bar, hbar, hpasses⟩ := h.exists_bar r
      rw [Shows, hpasses, ← hbar.due_iff hdecided]
      exact and_congr_left fun _ => and_iff_right hr
    have hemit : ((console opens).emit l r).run d =
        ((), d.write opened (if Shows level l r then lineOf r else "")) := run_emit hhandlers r d
    by_cases hshows : Shows level l r
    · refine ⟨r :: written, hsublist.cons_cons r, ?_, ?_⟩
      · by_cases hopen : Undecided level r
        · simpa [hopen, hopen.not_due] using hfilter
        · simpa [hopen, (hdue hopen).mp hshows] using hfilter
      · rw [Console.emitAll, run_bind_of_eq hemit, hrun, if_pos hshows, write_write, textOf_cons]
    · refine ⟨written, hsublist.cons r, ?_, ?_⟩
      · by_cases hopen : Undecided level r
        · simpa [hopen.not_due] using hfilter
        · simpa [mt (hdue hopen).mpr hshows] using hfilter
      · rw [Console.emitAll, run_bind_of_eq hemit, hrun, if_neg hshows, write_empty]

end LogDesk

/-! ### Setups -/

/-- A setup that is asked for: its configuration, and the level that goes before the one in it. -/
structure LogSetup where
  settings : LogSettings
  level : Option Level

/-- The levels that a configuration may name, in capitals. -/
inductive NamesLevel : String → Level → Prop
  | debug : NamesLevel "DEBUG" 10
  | info : NamesLevel "INFO" 20
  | warning : NamesLevel "WARNING" 30
  | error : NamesLevel "ERROR" 40
  | critical : NamesLevel "CRITICAL" 50

/-- The level that a setup asks for. -/
inductive LogSetup.Asks : LogSetup → Level → Prop
  | given (settings : LogSettings) (level : Level) : Asks ⟨settings, some level⟩ level
  | named {settings : LogSettings} {level : Level}
      (hname : NamesLevel (Text.capitals settings.level) level) : Asks ⟨settings, none⟩ level

/-- The names that a level has are those that pass the check of a configuration. -/
lemma exists_namesLevel_iff {name : String} :
    (∃ level, NamesLevel name level) ↔ name ∈ Config.levelNames := by
  constructor
  · rintro ⟨level, h⟩
    cases h <;> decide
  · intro h
    simp only [Config.levelNames, List.mem_cons, List.not_mem_nil, or_false] at h
    rcases h with rfl | rfl | rfl | rfl | rfl
    · exact ⟨_, .debug⟩
    · exact ⟨_, .info⟩
    · exact ⟨_, .warning⟩
    · exact ⟨_, .error⟩
    · exact ⟨_, .critical⟩

lemma LogSetup.Asks.setupLevel_eq {call : LogSetup} {level : Level} (h : call.Asks level) :
    Logging.setupLevel call.settings call.level = level := by
  cases h with
  | given => rfl
  | named hname =>
    rw [Logging.setupLevel, Option.getD_none, Logging.levelOfName]
    generalize Text.capitals _ = name at hname
    cases hname <;> decide

/-- Sets up the log so many times, one setup after the other. -/
def Console.setups {m : Type → Type} [Monad m] (k : Console m) (l : Logging)
    (calls : List LogSetup) : ExceptT Fault m Logging :=
  calls.foldlM (fun l call => k.setupLogging l call.settings call.level) l

namespace LogDesk

open Logging

variable {σ : Type} {opens : String → σ → Except OsError Unit × σ} {l : Logging} {d : LogDesk σ}

/-- What a setup leaves: its own levels and handlers, and its log file open if that is possible. -/
structure Leaves (opens : String → σ → Except OsError Unit × σ) (level : Level) (c : LogSettings)
    (d : LogDesk σ) (l' : Logging) (d' : LogDesk σ) : Prop where
  settled : Settled level l'
  handlers : l'.handlers = handlersOf level c (d.opensFile opens c)
  logFile : d.opensFile opens c = true → d'.logFile = some c.file

/-- A setup succeeds, and supersedes every earlier one. -/
lemma exists_setupLogging (h : l.Bare) (c : LogSettings) (given : Option Level)
    (hname : '\x00' ∉ c.file.toList) (d : LogDesk σ) :
    ∃ l' d', execute ((console opens).setupLogging l c given) d = (.ok l', d') ∧
      Leaves opens (setupLevel c given) c d l' d' := by
  rw [Console.setupLogging]
  by_cases hfile : c.file = ""
  · have hopens : d.opensFile opens c = false := by simp [opensFile, hfile]
    rw [if_pos hfile]
    refine ⟨_, d, execute_pure _ d, settled_setup h c given false, ?_, ?_⟩
    · rw [handlers_setup, hopens]
      rfl
    · simp [hopens]
  rw [if_neg hfile, if_neg hname, execute_bind, execute_lift_run, execute_openLogFile]
  rcases hopen : opens c.file d.script with ⟨cause | ⟨⟩, script⟩
  · have hopens : d.opensFile opens c = false := by
      simp [opensFile, hopen, Except.isOk, Except.toBool]
    dsimp only
    -- the report of the failure goes through the log that has just been set up
    rw [execute_bind_of_ok (execute_lift _ _)]
    refine ⟨_, _, execute_pure _ _, (settled_setup h c given false).after _, ?_, ?_⟩
    · rw [hopens]
      exact handlers_setup l c given false
    · simp [hopens]
  · have hopens : d.opensFile opens c = true := by
      simp [opensFile, hfile, hopen, Except.isOk, Except.toBool]
    refine ⟨_, _, execute_pure _ _, settled_setup h c given true, ?_, fun _ => rfl⟩
    rw [handlers_setup, fileSink?, if_neg hfile, hopens]
    rfl

/-- Setups never fail, and leave levels only where a setup sets them. -/
lemma exists_setups {calls : List LogSetup} (h : l.Bare)
    (hnames : ∀ call ∈ calls, '\x00' ∉ call.settings.file.toList) (d : LogDesk σ) :
    ∃ l' d', execute ((console opens).setups l calls) d = (.ok l', d') ∧ l'.Bare := by
  induction calls generalizing l d with
  | nil => exact ⟨l, d, rfl, h⟩
  | cons call calls ih =>
    obtain ⟨hname, hnames⟩ := List.forall_mem_cons.mp hnames
    obtain ⟨l₁, d₁, hrun, hleaves⟩ := exists_setupLogging h call.settings call.level hname d
    obtain ⟨l₂, d₂, hruns, hbare⟩ := ih hleaves.settled.bare hnames d₁
    refine ⟨l₂, d₂, ?_, hbare⟩
    rw [Console.setups, List.foldlM_cons, execute_bind_of_ok hrun]
    exact hruns

/-- One more setup follows the others. -/
lemma execute_setups_append {calls : List LogSetup} {last : LogSetup} {l₁ l₂ : Logging}
    {d₁ d₂ : LogDesk σ} (hsetups : execute ((console opens).setups l calls) d = (.ok l₁, d₁))
    (hsetup : execute ((console opens).setupLogging l₁ last.settings last.level) d₁ =
      (.ok l₂, d₂)) :
    execute ((console opens).setups l (calls ++ [last])) d = (.ok l₂, d₂) := by
  rw [Console.setups] at hsetups ⊢
  rw [List.foldlM_append, execute_bind_of_ok hsetups, List.foldlM_cons, execute_bind_of_ok hsetup]
  rfl

/-- After any setups, the root has the level of the last one, a handler for standard error and one
for its log file if that could be opened. Of the records that follow, those that are due are
written to both in their order and no others, except that it may be left open by its name whether
a record is written. -/
theorem setups_supersede (opens : String → σ → Except OsError Unit × σ) (l : Logging)
    (d : LogDesk σ) (calls : List LogSetup) (last : LogSetup) (level : Level)
    (records : List LogRecord) (hunset : ∀ logger, l.levelOf logger = .notset)
    (hnames : ∀ call ∈ calls ++ [last], '\x00' ∉ call.settings.file.toList)
    (hlevel : last.Asks level) (hpositive : ∀ r ∈ records, 0 < r.level) :
    ∃ l₁ d₁ l₂ d₂ d₃ written,
      execute ((console opens).setups l calls) d = (.ok l₁, d₁) ∧
      execute ((console opens).setups l (calls ++ [last])) d = (.ok l₂, d₂) ∧
      l₂.root = level ∧
      l₂.handlers = handlersOf level last.settings (d₁.opensFile opens last.settings) ∧
      ((console opens).emitAll l₂ records).run d₂ = ((), d₃) ∧
      written.Sublist records ∧
      written.filter (fun r => ¬ Undecided level r) = records.filter (fun r => Due level r) ∧
      d₃.stderr = d₂.stderr ++ textOf written ∧
      ∀ path, d₃.files path = d₂.files path ++
        if d₁.opensFile opens last.settings = true ∧ path = last.settings.file then textOf written
        else "" := by
  obtain ⟨hbefore, hlast⟩ := List.forall_mem_append.mp hnames
  obtain ⟨l₁, d₁, hsetups, hbare⟩ := exists_setups (fun logger _ _ => hunset logger) hbefore d
  obtain ⟨l₂, d₂, hsetup, hleaves⟩ := exists_setupLogging hbare last.settings last.level
    (hlast last (List.mem_singleton.mpr rfl)) d₁
  rw [hlevel.setupLevel_eq] at hleaves
  obtain ⟨written, hsublist, hfilter, hrun⟩ :=
    exists_emitAll hleaves.settled hleaves.handlers hpositive d₂
  exact ⟨l₁, d₁, l₂, d₂, _, written, hsetups, execute_setups_append hsetups hsetup,
    hleaves.settled.root, hleaves.handlers, hrun, hsublist, hfilter, stderr_write _ _ _,
    files_write hleaves.logFile _⟩

/-- A desk on which nothing has been written. -/
def blank : LogDesk Unit := ⟨(), "", none, fun _ => ""⟩

/-- A script by which log files can be opened, except for one that is called `blocked.log`. -/
def opensUnblocked (path : String) (script : Unit) : Except OsError Unit × Unit :=
  (if path = "blocked.log" then .error ⟨"Permission denied"⟩ else .ok (), script)

/-- Two setups, of which the first one names a log file that cannot be opened. -/
def blockedSetup : LogSetup := ⟨{ file := "blocked.log" }, some 50⟩
def detailedSetup : LogSetup := ⟨{ level := "Info", file := "a.log" }, none⟩

/-- A record of a quiet logger, and one of another logger. -/
def quietAndLoud : List LogRecord := [⟨"urllib3.pool", 20, "m"⟩, ⟨"a", 20, "n"⟩]

theorem setups_supersede_blocked :
    ∃ l d₂ d₃, execute ((console opensUnblocked).setups {} [blockedSetup, detailedSetup]) blank =
        (.ok l, d₂) ∧
      l.root = 20 ∧
      l.handlers = [⟨.stderr, 20, .full⟩, ⟨.file "a.log" 10485760 5, 20, .full⟩] ∧
      ((console opensUnblocked).emitAll l quietAndLoud).run d₂ = ((), d₃) ∧
      d₃.stderr = d₂.stderr ++ "a - INFO - n\n" ∧
      d₃.files "a.log" = d₂.files "a.log" ++ "a - INFO - n\n" := by
  have hlevel : detailedSetup.Asks 20 := by
    have hcapitals : Text.capitals "Info" = "INFO" := by decide
    refine .named ?_
    rw [hcapitals]
    exact .info
  obtain ⟨l₁, d₁, l₂, d₂, d₃, written, -, hsetups, hroot, hhandlers, hrun, hsublist, hfilter,
    hstderr, hfiles⟩ := setups_supersede opensUnblocked {} blank [blockedSetup] detailedSetup 20
      quietAndLoud (fun _ => rfl) (by decide) hlevel (by decide)
  have hopens : d₁.opensFile opensUnblocked detailedSetup.settings = true := rfl
  have hdecided : ∀ r ∈ quietAndLoud, ¬ Undecided 20 r := by decide
  have hwritten : written = [⟨"a", 20, "n"⟩] := by
    rw [List.filter_eq_self.mpr fun r hr => by simpa using hdecided r (hsublist.subset hr)] at hfilter
    rw [hfilter]
    decide
  rw [hopens] at hhandlers hfiles
  rw [hwritten] at hstderr hfiles
  exact ⟨l₂, d₂, d₃, hsetups, hroot, hhandlers, hrun, hstderr, hfiles "a.log"⟩

/-- A record is written below the level of warnings, although its name goes on with a point behind
that of a quiet logger. -/
theorem emitAll_behind_two_points :
    Within "urllib3" "urllib3..x" ∧ ¬ Due 10 ⟨"urllib3..x", 20, "m"⟩ ∧
      ∃ l, execute ((console opensUnblocked).setups {} [⟨{}, some 10⟩]) blank = (.ok l, blank) ∧
        ((console opensUnblocked).emitAll l [⟨"urllib3..x", 20, "m"⟩]).run blank =
          ((), { blank with stderr := "urllib3..x - INFO - m\n" }) :=
  ⟨by decide, by decide, _, rfl, rfl⟩

end LogDesk

end ScionEcho
