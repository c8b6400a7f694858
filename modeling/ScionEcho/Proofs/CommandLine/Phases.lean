import ScionEcho.Proofs.CommandLine.Measure
import ScionEcho.Proofs.CommandLine.Scenario
import ScionEcho.Proofs.Config.Check

/-!
# The phases of a measurement

A measurement loads its configuration, sets up the log, reads both addresses, opens a session, and
runs. The first of these phases that fails ends it. Which one that is, and what it fails with, is
told here without regard to how the client hands failures on.
-/

namespace ScionEcho

variable {σ : Type}

/-- What the options put in place of the settings of a configuration. -/
def ClientOptions.overrides (o : ClientOptions) : Config.Overrides :=
  ⟨o.samples, o.attempts, o.timeout.map .real⟩

/-- From one footprint to another so many sessions are opened and closed, nothing is printed, and
signals lead to the same. -/
structure Footprint.Leads (sessions : Nat) (f f' : Footprint) : Prop where
  stdout : f'.stdout = f.stdout
  handlers : f'.handlers = f.handlers
  saved : f'.saved = f.saved
  opened : f'.opened = f.opened + sessions
  closed : f'.closed = f.closed + sessions

lemma Footprint.Leads.refl (f : Footprint) : f.Leads 0 f := ⟨rfl, rfl, rfl, rfl, rfl⟩

/-- A session that is opened is closed. -/
lemma Footprint.Leads.session {ε α : Type} {f f' : Footprint} (h : f.Leads 0 f') (a : α) :
    f.Leads 1 (f'.noteConnected (.ok a : Except ε α)).noteClosed := by
  refine ⟨h.stdout, h.handlers, h.saved, ?_, ?_⟩
  · exact congrArg (· + 1) h.opened
  · exact congrArg (· + 1) h.closed

namespace Scenario

variable (s : Scenario σ) (o : ClientOptions) (source destination : String) (d : Desk σ)

/-- A configuration is loaded. -/
def Loads (r : Except LoadError Config) (d' : Desk σ) : Prop :=
  (s.console.loadConfig o.config o.overrides).run d = (r, d')

/-- The log is set up as a configuration says. -/
def SetsUp (c : Config) (r : Except Fault Logging) (d' : Desk σ) : Prop :=
  execute (s.console.setupLogging {} c.logging (Console.commandLevel o.verbose)) d = (r, d')

/-- The first three phases succeed: all is known that a session needs. -/
inductive Prepares : Config → Logging → Endpoint → Endpoint → Desk σ → Prop
  | mk {c : Config} {l : Logging} {src dst : Endpoint} {d₁ d₂ d₃ : Desk σ}
      (hload : s.Loads o d (.ok c) d₁) (hlog : s.SetsUp o d₁ c (.ok l) d₂)
      (hsource : Endpoint.parse source = .ok src)
      (hdestination : Endpoint.parse destination = .ok dst)
      (hreport : (s.console.emit l
        ⟨ClientCommand.loggerName, .info, s!"Measuring {src} -> {dst}"⟩).run d₂ = ((), d₃)) :
      Prepares c l src dst d₃

/-- A session between two endpoints is opened, with the room that a configuration says. -/
def Connects (c : Config) (l : Logging) (src dst : Endpoint)
    (r : Except Failure (Endpoint × Endpoint)) (d' : Desk σ) : Prop :=
  execute ((s.peer (s.console.emit l)).connect src dst c.transport.recvBuffer) d = (r, d')

/-- The session is closed. -/
def Closes (l : Logging) (d' : Desk σ) : Prop :=
  (s.peer (s.console.emit l)).close.run d = ((), d')

/-- How the phases end. -/
inductive Phases : Except Fault (Config × Endpoint × Endpoint × Measurement) → Desk σ → Prop
  | unloaded {cause : LoadError} {d₁ : Desk σ} (hload : s.Loads o d (.error cause) d₁) :
      Phases (.error (.load cause)) d₁
  | unlogged {c : Config} {fault : Fault} {d₁ d₂ : Desk σ} (hload : s.Loads o d (.ok c) d₁)
      (hlog : s.SetsUp o d₁ c (.error fault) d₂) : Phases (.error fault) d₂
  | sourceUnread {c : Config} {l : Logging} {cause : Address.ParseError} {d₁ d₂ : Desk σ}
      (hload : s.Loads o d (.ok c) d₁) (hlog : s.SetsUp o d₁ c (.ok l) d₂)
      (hsource : Endpoint.parse source = .error cause) : Phases (.error (.address cause)) d₂
  | destinationUnread {c : Config} {l : Logging} {src : Endpoint} {cause : Address.ParseError}
      {d₁ d₂ : Desk σ} (hload : s.Loads o d (.ok c) d₁) (hlog : s.SetsUp o d₁ c (.ok l) d₂)
      (hsource : Endpoint.parse source = .ok src)
      (hdestination : Endpoint.parse destination = .error cause) :
      Phases (.error (.address cause)) d₂
  | unopened {c : Config} {l : Logging} {src dst : Endpoint} {e : Failure} {d₁ d₂ : Desk σ}
      (hprepare : s.Prepares o source destination d c l src dst d₁)
      (hconnect : s.Connects d₁ c l src dst (.error e) d₂) : Phases (.error (.run e)) d₂
  /-- The run fails. -/
  | failed {c : Config} {l : Logging} {src dst src' dst' : Endpoint} {e : Failure}
      {d₁ d₂ d₃ d₄ : Desk σ} (hprepare : s.Prepares o source destination d c l src dst d₁)
      (hconnect : s.Connects d₁ c l src dst (.ok (src', dst')) d₂)
      (hrun : execute (Run.run (s.surroundings l src' dst') (ClientCommand.runSettings c)) d₂ =
        (.error e, d₃))
      (hclose : s.Closes d₃ l d₄) : Phases (.error (.run e)) d₄
  /-- The run returns a result. -/
  | finished {c : Config} {l : Logging} {src dst src' dst' : Endpoint} {m : Measurement}
      {d₁ d₂ d₃ d₄ : Desk σ} (hprepare : s.Prepares o source destination d c l src dst d₁)
      (hconnect : s.Connects d₁ c l src dst (.ok (src', dst')) d₂)
      (hrun : execute (Run.run (s.surroundings l src' dst') (ClientCommand.runSettings c)) d₂ =
        (.ok m, d₃))
      (hclose : s.Closes d₃ l d₄) : Phases (.ok (c, src, dst, m)) d₄

variable {s o source destination d} {d' : Desk σ}

/-! ### What the phases leave -/

/-- The client has loaded what is at the path of its options, or the default. -/
lemma Loads.exists_load {r : Except LoadError Config} (h : s.Loads o d r d') :
    ∃ path content, r = Config.load path content o.overrides := by
  unfold Loads Console.loadConfig at h
  split at h
  · cases h
    exact ⟨none, .missing, rfl⟩
  · split_ifs at h
    · cases h
      exact ⟨none, .missing, rfl⟩
    · cases h
      exact ⟨_, _, rfl⟩

/-- A configuration that was loaded gives a run settings that pass their check. -/
lemma Loads.check {c : Config} (h : s.Loads o d (.ok c) d') :
    (ClientCommand.runSettings c).check = .ok () ∧ 1 ≤ c.probe.samples := by
  obtain ⟨path, content, hload⟩ := h.exists_load
  obtain ⟨hcheck, hsamples, -⟩ := Config.check_runSettings (Config.check_of_load hload.symm)
  exact ⟨hcheck, hsamples⟩

lemma Prepares.check {c : Config} {l : Logging} {src dst : Endpoint}
    (h : s.Prepares o source destination d c l src dst d') :
    (ClientCommand.runSettings c).check = .ok () ∧ 1 ≤ c.probe.samples := by
  cases h with
  | mk hload => exact hload.check

lemma Loads.leads {r : Except LoadError Config} (h : s.Loads o d r d') :
    d.footprint.Leads 0 d'.footprint := by
  unfold Loads Console.loadConfig at h
  split at h
  · cases h
    exact .refl _
  · split_ifs at h
    · cases h
      exact .refl _
    · cases h
      exact ⟨rfl, rfl, rfl, rfl, rfl⟩

lemma SetsUp.footprint_eq {c : Config} {r : Except Fault Logging} (h : s.SetsUp o d c r d') :
    d'.footprint = d.footprint := by
  unfold SetsUp Console.setupLogging at h
  split_ifs at h
  · cases h
    rfl
  · cases h
    rfl
  · rw [execute_bind_of_ok (execute_lift_run _ _)] at h
    cases hopen : (execute (s.console.openLogFile c.logging.file) d).1 with
    | error cause =>
      rw [hopen] at h
      cases h
      rfl
    | ok value =>
      rw [hopen] at h
      cases h
      rfl

lemma Prepares.leads {c : Config} {l : Logging} {src dst : Endpoint}
    (h : s.Prepares o source destination d c l src dst d') :
    d.footprint.Leads 0 d'.footprint := by
  cases h with
  | mk hload hlog _ _ hreport =>
    rw [(s.calm_emit l _).footprint_eq hreport, hlog.footprint_eq]
    exact hload.leads

lemma Connects.footprint_eq {c : Config} {l : Logging} {src dst : Endpoint}
    {r : Except Failure (Endpoint × Endpoint)} (h : s.Connects d c l src dst r d') :
    d'.footprint = d.footprint.noteConnected r := by
  rcases hreported : (Desk.reported (s.console.emit l)
    (s.connect src dst c.transport.recvBuffer)).run d with ⟨outcome, d₁⟩
  have hrun : (Desk.reported (s.console.emit l) (s.connect src dst c.transport.recvBuffer) >>=
      fun outcome => Desk.leave (.noteConnected outcome) >>= fun _ => pure outcome).run d =
        (r, d') := h
  rw [run_bind_of_eq hreported] at hrun
  cases hrun
  have hcalm : d₁.footprint = d.footprint :=
    (Calm.reported (s.calm_emit l) _).footprint_eq hreported
  exact congrArg (Footprint.noteConnected r) hcalm

lemma Closes.footprint_eq {l : Logging} (h : s.Closes d l d') :
    d'.footprint = d.footprint.noteClosed := by
  rcases hreported : (Desk.reported (s.console.emit l) s.close).run d with ⟨⟨⟩, d₁⟩
  have hrun : (Desk.reported (s.console.emit l) s.close >>= fun _ => Desk.leave .noteClosed).run d =
      ((), d') := h
  rw [run_bind_of_eq hreported] at hrun
  cases hrun
  exact congrArg Footprint.noteClosed ((Calm.reported (s.calm_emit l) _).footprint_eq hreported)

/-- The phases print nothing and leave the signals alone. They open one session at most, and they
close it. -/
lemma Phases.exists_leads {r : Except Fault (Config × Endpoint × Endpoint × Measurement)}
    (h : s.Phases o source destination d r d') :
    ∃ sessions ≤ 1, d.footprint.Leads sessions d'.footprint := by
  cases h with
  | unloaded hload => exact ⟨0, Nat.zero_le 1, hload.leads⟩
  | unlogged hload hlog => exact ⟨0, Nat.zero_le 1, hlog.footprint_eq ▸ hload.leads⟩
  | sourceUnread hload hlog => exact ⟨0, Nat.zero_le 1, hlog.footprint_eq ▸ hload.leads⟩
  | destinationUnread hload hlog => exact ⟨0, Nat.zero_le 1, hlog.footprint_eq ▸ hload.leads⟩
  | unopened hprepare hconnect =>
    refine ⟨0, Nat.zero_le 1, ?_⟩
    rw [hconnect.footprint_eq]
    exact hprepare.leads
  | failed hprepare hconnect hrun hclose =>
    refine ⟨1, Nat.le_refl 1, ?_⟩
    rw [hclose.footprint_eq, (s.run_result _ hrun).1, hconnect.footprint_eq]
    exact hprepare.leads.session _
  | finished hprepare hconnect hrun hclose =>
    refine ⟨1, Nat.le_refl 1, ?_⟩
    rw [hclose.footprint_eq, (s.run_result _ hrun).1, hconnect.footprint_eq]
    exact hprepare.leads.session _

/-- The phases end in one of these ways. -/
lemma exists_phases (s : Scenario σ) (o : ClientOptions) (source destination : String)
    (d : Desk σ) : ∃ r d', s.Phases o source destination d r d' := by
  rcases hload : (s.console.loadConfig o.config o.overrides).run d with ⟨cause | c, d₁⟩
  · exact ⟨_, _, .unloaded hload⟩
  rcases hlog : execute (s.console.setupLogging {} c.logging (Console.commandLevel o.verbose)) d₁
    with ⟨fault | l, d₂⟩
  · exact ⟨_, _, .unlogged hload hlog⟩
  cases hsource : Endpoint.parse source with
  | error cause => exact ⟨_, _, .sourceUnread hload hlog hsource⟩
  | ok src =>
    cases hdestination : Endpoint.parse destination with
    | error cause => exact ⟨_, _, .destinationUnread hload hlog hsource hdestination⟩
    | ok dst =>
      have hprepare : s.Prepares o source destination d c l src dst _ :=
        .mk hload hlog hsource hdestination rfl
      rcases hconnect : execute ((s.peer (s.console.emit l)).connect src dst
        c.transport.recvBuffer) _ with ⟨e | ⟨src', dst'⟩, d₃⟩
      · exact ⟨_, _, .unopened hprepare hconnect⟩
      rcases hrun : execute (Run.run (s.surroundings l src' dst')
        (ClientCommand.runSettings c)) d₃ with ⟨e | m, d₄⟩
      · exact ⟨_, _, .failed hprepare hconnect hrun rfl⟩
      · exact ⟨_, _, .finished hprepare hconnect hrun rfl⟩

/-! ### The client goes through the phases -/

section

variable (k : DatabaseScenario σ)

/-- What the first phases know is enough to measure. -/
lemma Prepares.execute_measureBetween {c : Config} {l : Logging} {src dst : Endpoint}
    {r : Except Fault Measurement} {d₁ : Desk σ}
    (h : s.Prepares o source destination d c l src dst d₁)
    (hmeasure : execute (ClientCommand.measure (s.world k) l c src dst) d₁ = (r, d')) :
    ∃ d₂ d₃, s.Loads o d (.ok c) d₂ ∧ s.SetsUp o d₂ c (.ok l) d₃ ∧
      execute (ClientCommand.measureBetween (s.world k) l c source destination) d₃ =
        (r.map fun m => (src, dst, m), d') := by
  obtain ⟨hload, hlog, hsource, hdestination, hreport⟩ := h
  rename_i d₂ d₃
  have hreported : execute (ExceptT.lift (ClientCommand.report (s.world k) l .info
      s!"Measuring {src} -> {dst}") : ExceptT Fault (StateM (Desk σ)) Unit) d₃ = (.ok (), d₁) := by
    rw [execute_lift]
    exact congrArg (fun ended => (Except.ok ended.1, ended.2)) hreport
  refine ⟨d₂, d₃, hload, hlog, ?_⟩
  unfold ClientCommand.measureBetween
  rw [hsource, hdestination, mapError_ok, mapError_ok,
    execute_bind_of_ok (execute_mk_pure (.ok src) d₃),
    execute_bind_of_ok (execute_mk_pure (.ok dst) d₃), execute_bind_of_ok hreported]
  cases r with
  | error fault => exact execute_bind_of_error hmeasure
  | ok m => exact execute_bind_of_ok hmeasure

/-- The phases that the client goes through, once the configuration is loaded and the log set up,
are those of a measurement between two addresses. -/
lemma run_phases_of_setsUp {c : Config} {l : Logging} {d₁ d₂ : Desk σ}
    {r : Except Fault (Endpoint × Endpoint × Measurement)} (hload : s.Loads o d (.ok c) d₁)
    (hlog : s.SetsUp o d₁ c (.ok l) d₂)
    (hmeasure : execute (ClientCommand.measureBetween (s.world k) l c source destination) d₂ =
      (r, d')) :
    (ClientCommand.phases (s.world k) o source destination).run d =
      ((l, r.map fun found => (c, found)), d') := by
  unfold ClientCommand.phases
  refine (run_bind_of_eq hload).trans ?_
  refine (run_bind_of_eq hlog).trans ?_
  refine (run_bind_of_eq hmeasure).trans ?_
  cases r <;> rfl

/-- The client goes through the phases. -/
lemma Phases.exists_run {r : Except Fault (Config × Endpoint × Endpoint × Measurement)}
    (h : s.Phases o source destination d r d') :
    ∃ l, (ClientCommand.phases (s.world k) o source destination).run d = ((l, r), d') := by
  cases h with
  | unloaded hload => exact ⟨{}, run_bind_of_eq hload⟩
  | unlogged hload hlog => exact ⟨{}, (run_bind_of_eq hload).trans (run_bind_of_eq hlog)⟩
  | @sourceUnread c l cause _ _ hload hlog hsource =>
    have hmeasure : execute (ClientCommand.measureBetween (s.world k) l c source destination) d' =
        (.error (.address cause), d') := by
      unfold ClientCommand.measureBetween
      rw [hsource]
      rfl
    exact ⟨l, run_phases_of_setsUp k hload hlog hmeasure⟩
  | @destinationUnread c l _ cause _ _ hload hlog hsource hdestination =>
    have hmeasure : execute (ClientCommand.measureBetween (s.world k) l c source destination) d' =
        (.error (.address cause), d') := by
      unfold ClientCommand.measureBetween
      rw [hsource, hdestination]
      rfl
    exact ⟨l, run_phases_of_setsUp k hload hlog hmeasure⟩
  | @unopened _ l _ _ _ _ _ hprepare hconnect =>
    obtain ⟨d₂, d₃, hload, hlog, hmeasure⟩ :=
      hprepare.execute_measureBetween k (ClientCommand.execute_measure_of_unopened hconnect)
    exact ⟨l, run_phases_of_setsUp k hload hlog hmeasure⟩
  | @failed _ l _ _ _ _ _ _ _ _ _ hprepare hconnect hrun hclose =>
    obtain ⟨d₂, d₃, hload, hlog, hmeasure⟩ := hprepare.execute_measureBetween k
      (ClientCommand.execute_measure_of_run rfl hprepare.check.1 hconnect hrun hclose)
    exact ⟨l, run_phases_of_setsUp k hload hlog hmeasure⟩
  | @finished _ l _ _ _ _ _ _ _ _ _ hprepare hconnect hrun hclose =>
    obtain ⟨d₂, d₃, hload, hlog, hmeasure⟩ := hprepare.execute_measureBetween k
      (ClientCommand.execute_measure_of_run rfl hprepare.check.1 hconnect hrun hclose)
    exact ⟨l, run_phases_of_setsUp k hload hlog hmeasure⟩

end

/-- There is one way in which the phases end. -/
lemma Phases.unique {r r' : Except Fault (Config × Endpoint × Endpoint × Measurement)}
    {d' d'' : Desk σ} (h : s.Phases o source destination d r d')
    (h' : s.Phases o source destination d r' d'') : r = r' ∧ d' = d'' := by
  obtain ⟨l, hrun⟩ := h.exists_run .willing
  obtain ⟨l', hrun'⟩ := h'.exists_run .willing
  rw [hrun, Prod.mk.injEq, Prod.mk.injEq] at hrun'
  exact ⟨hrun'.1.2, hrun'.2⟩

/-- A result has samples, and each of them may lie between two clock readings. -/
lemma Phases.sound {c : Config} {src dst : Endpoint} {m : Measurement}
    (h : s.Phases o source destination d (.ok (c, src, dst, m)) d') :
    m.samples ≠ [] ∧ ∀ x ∈ m.samples, IsElapsed x := by
  cases h with
  | finished hprepare hconnect hrun hclose =>
    exact (s.run_result _ hrun).2 m rfl hprepare.check.2

end Scenario

end ScionEcho
