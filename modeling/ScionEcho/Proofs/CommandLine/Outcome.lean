import ScionEcho.Proofs.CommandLine.Phases
import ScionEcho.Responder.Dispatch

/-!
# How a measurement ends

A measurement ends in one of four ways, each with its exit status and its texts: its arguments are
explained, it is given up, it fails, or it is finished. Which of them it is follows from the options
and the phases alone. However it ends, no session is left open, and signals lead to what they led to
before.
-/

namespace ScionEcho

variable {σ : Type}

/-- Both addresses are given. -/
structure ClientOptions.Gives (o : ClientOptions) (source destination : String) : Prop where
  source_eq : o.source = some source
  source_ne : source ≠ ""
  destination_eq : o.destination = some destination
  destination_ne : destination ≠ ""

/-- A desk at which nothing has been done yet. -/
def Desk.fresh (script : σ) (handlers : Int → Disposition) : Desk σ where
  script
  footprint := { handlers }

/-- A desk at which signals are caught from now on. -/
def Desk.watchful (d : Desk σ) : Desk σ := { d with footprint := d.footprint.install }

/-- The ends of a measurement. -/
inductive Ending
  | usage
  | cancelled
  | failed (message : String)
  | finished (report : String)
  deriving DecidableEq

namespace Ending

/-- What an end looks like from outside. -/
def Shown (exit : Exit) (d : Desk σ) : Ending → Prop
  | usage =>
    exit = .status 1 ∧ d.footprint.stdout = ClientCommand.usage ++ "\n" ∧
      d.footprint.reads = [] ∧ d.footprint.opened = 0
  | cancelled =>
    exit = .status 130 ∧ d.footprint.stdout = "" ∧ d.stderr.getLast? = some "Cancelled\n"
  | failed message =>
    exit = .status 1 ∧ d.footprint.stdout = "" ∧ d.stderr.getLast? = some s!"Error: {message}\n"
  | finished report => exit = .status 0 ∧ d.footprint.stdout = report ++ "\n"

/-- The end that ensues from how the phases end. -/
inductive Ensues (source destination : String) :
    Except Fault (Config × Endpoint × Endpoint × Measurement) → Ending → Prop
  | cancelled {text : String} :
      Ensues source destination (.error (.run (.cancelled text))) .cancelled
  | failed {fault : Fault} (hforeseen : fault.foreseen = true)
      (hother : fault.isCancellation = false) :
      Ensues source destination (.error fault) (.failed fault.message)
  | finished {c : Config} {src dst : Endpoint} {m : Measurement} {report : String}
      (hreport : m.report source destination = .ok report) :
      Ensues source destination (.ok (c, src, dst, m)) (.finished report)

/-- The end that is due by the options and the phases. -/
inductive Due (s : Scenario σ) (o : ClientOptions) (d : Desk σ) : Ending → Prop
  | usage (hmissing : ∀ source destination, ¬ o.Gives source destination) : Due s o d .usage
  | measured {source destination : String} {d' : Desk σ} {ending : Ending}
      {r : Except Fault (Config × Endpoint × Endpoint × Measurement)}
      (hgives : o.Gives source destination)
      (hphases : s.Phases o source destination d.watchful r d')
      (hensues : Ensues source destination r ending) : Due s o d ending

end Ending

variable {s : Scenario σ} {k : DatabaseScenario σ} {o : ClientOptions} {l : Logging}
  {source destination : String} {d d' : Desk σ}

/-! ### Addresses -/

namespace ClientOptions

lemma Gives.unique {source' destination' : String} (h : o.Gives source destination)
    (h' : o.Gives source' destination') : source = source' ∧ destination = destination' := by
  have hsource := h.source_eq.symm.trans h'.source_eq
  have hdestination := h.destination_eq.symm.trans h'.destination_eq
  exact ⟨Option.some.inj hsource, Option.some.inj hdestination⟩

lemma Gives.addresses (h : o.Gives source destination) :
    ClientCommand.addresses o = .ok (source, destination) := by
  simp [ClientCommand.addresses, h.source_eq, h.destination_eq, Option.filter, h.source_ne,
    h.destination_ne]

/-- Either both addresses are given, or one is missing or empty. -/
lemma gives_or_missing (o : ClientOptions) :
    (∃ source destination, o.Gives source destination) ∨
      (∀ source destination, ¬ o.Gives source destination) ∧
        ∃ missing, ClientCommand.addresses o = .error missing := by
  unfold ClientCommand.addresses
  dsimp only
  split
  · next hsource =>
    refine .inr ⟨fun source destination h => ?_, _, rfl⟩
    simp [h.source_eq, h.source_ne] at hsource
  · next hdestination =>
    refine .inr ⟨fun source destination h => ?_, _, rfl⟩
    simp [h.destination_eq, h.destination_ne] at hdestination
  · next source destination hsource hdestination =>
    rw [Option.filter_eq_some_iff] at hsource hdestination
    exact .inl ⟨source, destination, hsource.1, by simpa using hsource.2, hdestination.1,
      by simpa using hdestination.2⟩

end ClientOptions

/-! ### There is one end -/

namespace Ending

lemma error_text_injective {message other : String}
    (h : s!"Error: {message}\n" = s!"Error: {other}\n") : message = other :=
  (String.append_right_inj _).mp ((String.append_left_inj _).mp h)

lemma usage_ne_empty : ClientCommand.usage ++ "\n" ≠ "" := by decide +kernel

/-- The ends look different from outside. -/
lemma Shown.unique {exit : Exit} {ending ending' : Ending} (h : Shown exit d ending)
    (h' : Shown exit d ending') : ending = ending' := by
  cases ending with
  | usage =>
    obtain ⟨rfl, hstdout, -⟩ := h
    cases ending' with
    | usage => rfl
    | cancelled => cases h'.1
    | failed message => exact absurd (hstdout.symm.trans h'.2.1) usage_ne_empty
    | finished report => cases h'.1
  | cancelled =>
    obtain ⟨rfl, -⟩ := h
    cases ending' with
    | usage => cases h'.1
    | cancelled => rfl
    | failed message => cases h'.1
    | finished report => cases h'.1
  | failed message =>
    obtain ⟨rfl, hstdout, hstderr⟩ := h
    cases ending' with
    | usage => exact absurd (h'.2.1.symm.trans hstdout) usage_ne_empty
    | cancelled => cases h'.1
    | failed message' =>
      rw [error_text_injective (Option.some.inj (hstderr.symm.trans h'.2.2))]
    | finished report => cases h'.1
  | finished report =>
    obtain ⟨rfl, hstdout⟩ := h
    cases ending' with
    | usage => cases h'.1
    | cancelled => cases h'.1
    | failed message => cases h'.1
    | finished report' =>
      rw [(String.append_left_inj _).mp (hstdout.symm.trans h'.2)]

lemma Ensues.unique {r : Except Fault (Config × Endpoint × Endpoint × Measurement)}
    {ending ending' : Ending} (h : Ensues source destination r ending)
    (h' : Ensues source destination r ending') : ending = ending' := by
  cases h with
  | cancelled =>
    cases h' with
    | cancelled => rfl
    | failed _ hother => cases hother
  | failed _ hother =>
    cases h' with
    | cancelled => cases hother
    | failed => rfl
  | finished hreport =>
    cases h' with
    | finished hreport' => rw [Except.ok.inj (hreport.symm.trans hreport')]

/-- Options and phases make one end due. -/
lemma Due.unique {ending ending' : Ending} (h : Due s o d ending) (h' : Due s o d ending') :
    ending = ending' := by
  cases h with
  | usage hmissing =>
    cases h' with
    | usage => rfl
    | measured hgives => exact absurd hgives (hmissing _ _)
  | measured hgives hphases hensues =>
    cases h' with
    | usage hmissing => exact absurd hgives (hmissing _ _)
    | measured hgives' hphases' hensues' =>
      obtain ⟨rfl, rfl⟩ := hgives.unique hgives'
      obtain ⟨rfl, -⟩ := hphases.unique hphases'
      exact hensues.unique hensues'

end Ending

/-! ### What the client does after the phases -/

lemma Fault.isCancellation_eq_true_iff {fault : Fault} :
    fault.isCancellation = true ↔ ∃ text, fault = .run (.cancelled text) := by
  constructor
  · intro h
    unfold isCancellation at h
    split at h
    · exact ⟨_, rfl⟩
    · cases h
  · rintro ⟨text, rfl⟩
    rfl

/-- A desk at which signals lead to what they led to before. -/
def Desk.restored (d : Desk σ) : Desk σ := { d with footprint := d.footprint.restore }

/-- What signals led to before they were caught is what they lead to again. -/
lemma Footprint.Leads.handlers_restore {sessions : Nat} {f f' : Footprint}
    (h : f.install.Leads sessions f') : f'.restore.handlers = f.handlers := by
  funext signal
  simp only [restore, h.handlers, h.saved, install]
  by_cases hcaught : signal ∈ caughtSignals
  · obtain rfl | rfl : signal = 2 ∨ signal = 15 := by simpa [caughtSignals] using hcaught
    · rfl
    · rfl
  · obtain ⟨hinterrupt, hterminate⟩ : signal ≠ 2 ∧ signal ≠ 15 := by
      simpa [caughtSignals] using hcaught
    rw [if_neg hcaught]
    simp [caughtSignals, List.lookup_cons, beq_false_of_ne hinterrupt, beq_false_of_ne hterminate]

/-- An end looks the same once the signals have been put back. -/
lemma Ending.Shown.restored {exit : Exit} {ending : Ending} (h : Shown exit d ending) :
    Shown exit d.restored ending := by
  cases ending with
  | usage => exact h
  | cancelled => exact h
  | failed message => exact h
  | finished report => exact h

/-- Explains the arguments. -/
lemma run_of_missing {missing : String} (h : ClientCommand.addresses o = .error missing) :
    (ClientCommand.run (s.world k) o).run d =
      (.status 1, { d with
        footprint := d.footprint.print (ClientCommand.usage ++ "\n")
        stderr := d.stderr ++ [s!"Error: {missing}\n"] }) := by
  rw [ClientCommand.run, h]
  rfl

/-- A fault that was foreseen is reported as the end that ensues. -/
lemma exists_conclude (s : Scenario σ) (k : DatabaseScenario σ) (source destination : String)
    {fault : Fault} (hforeseen : fault.foreseen = true) (l : Logging) (verbose : Bool)
    (hstdout : d.footprint.stdout = "") :
    ∃ exit d' ending, (ClientCommand.conclude (s.world k) l verbose fault).run d = (exit, d') ∧
      d'.footprint = d.footprint ∧ Ending.Ensues source destination (.error fault) ending ∧
      ending.Shown exit d' := by
  unfold ClientCommand.conclude
  cases hcancelled : fault.isCancellation with
  | true =>
    obtain ⟨text, rfl⟩ := Fault.isCancellation_eq_true_iff.mp hcancelled
    refine ⟨_, _, .cancelled, rfl, rfl, .cancelled, rfl, hstdout, ?_⟩
    exact List.getLast?_concat
  | false =>
    rw [hforeseen]
    cases verbose with
    | false =>
      refine ⟨_, _, _, rfl, rfl, .failed hforeseen hcancelled, rfl, hstdout, ?_⟩
      exact List.getLast?_concat
    | true =>
      refine ⟨_, _, _, rfl, rfl, .failed hforeseen hcancelled, rfl, hstdout, ?_⟩
      exact List.getLast?_concat

/-- A measurement whose phases fail. -/
lemma run_of_phases_error {fault : Fault} {d₁ d₂ : Desk σ} {exit : Exit}
    (hgives : o.Gives source destination)
    (hphases : (ClientCommand.phases (s.world k) o source destination).run d.watchful =
      ((l, .error fault), d₁))
    (hconclude : (ClientCommand.conclude (s.world k) l o.verbose fault).run d₁ = (exit, d₂)) :
    (ClientCommand.run (s.world k) o).run d = (exit, d₂.restored) := by
  have hinstall : (s.world k).installHandlers.run d = ((), d.watchful) := rfl
  rw [ClientCommand.run, hgives.addresses]
  dsimp only
  rw [run_bind_of_eq hinstall, run_bind_of_eq hphases]
  dsimp only
  rw [run_bind_of_eq hconclude]
  rfl

/-- A measurement whose phases end with a result. -/
lemma run_of_phases_ok {c : Config} {src dst : Endpoint} {m : Measurement} {d₁ : Desk σ}
    (hgives : o.Gives source destination)
    (hphases : (ClientCommand.phases (s.world k) o source destination).run d.watchful =
      ((l, .ok (c, src, dst, m)), d₁)) :
    (ClientCommand.run (s.world k) o).run d =
      match execute (ClientCommand.present (s.world k) l c source destination src dst m)
        d₁.restored with
      | (.ok (), d₂) => (.status 0, d₂)
      | (.error fault, d₂) => (.fault fault, d₂) := by
  have hinstall : (s.world k).installHandlers.run d = ((), d.watchful) := rfl
  have hrestore : (s.world k).restoreHandlers.run d₁ = ((), d₁.restored) := rfl
  rw [ClientCommand.run, hgives.addresses]
  dsimp only
  rw [run_bind_of_eq hinstall, run_bind_of_eq hphases]
  dsimp only
  rw [run_bind_of_eq hrestore]
  rcases hpresent : execute (ClientCommand.present (s.world k) l c source destination src dst m)
    d₁.restored with ⟨fault | ⟨⟩, d₂⟩
  · exact run_bind_of_eq hpresent
  · exact run_bind_of_eq hpresent

/-- The report of a result that can be reported is printed before anything else is done with it. -/
lemma execute_present (s : Scenario σ) (k : DatabaseScenario σ) (l : Logging) (c : Config)
    (src dst : Endpoint) {m : Measurement} {report : String}
    (hreport : m.report source destination = .ok report) {spread : Summary}
    (hsummary : m.summary = .ok spread) (d : Desk σ) :
    ∃ texts, execute (ClientCommand.present (s.world k) l c source destination src dst m) d =
      execute (if c.influx.enabled then
          ClientCommand.exportResult (s.world k) l c.influx m src dst else pure ())
        { d with
          footprint := d.footprint.print (report ++ "\n")
          stderr := d.stderr ++ texts } := by
  unfold ClientCommand.present
  rw [hreport, hsummary]
  exact ⟨[l.stderrText _], rfl⟩

/-! ### The end of a measurement -/

namespace Scenario

/-- The phases fail with nothing but what is foreseen. -/
def FailsForeseen (s : Scenario σ) (o : ClientOptions) (d : Desk σ) : Prop :=
  ∀ source destination fault d', o.Gives source destination →
    s.Phases o source destination d.watchful (.error fault) d' → fault.foreseen = true

/-- A result is not to be exported. -/
def Exportless (s : Scenario σ) (o : ClientOptions) (d : Desk σ) : Prop :=
  ∀ source destination c src dst m d', o.Gives source destination →
    s.Phases o source destination d.watchful (.ok (c, src, dst, m)) d' → c.influx.enabled = false

end Scenario

/-- Everything is as it was, but for what was printed and read, and for at most one session, which
was closed. -/
structure Footprint.Tidy (handlers : Int → Disposition) (f : Footprint) : Prop where
  opened_le : f.opened ≤ 1
  closed_eq : f.closed = f.opened
  handlers_eq : f.handlers = handlers

section

variable {script : σ} {handlers : Int → Disposition}

/-- What the phases leave is tidied up by putting the signals back. -/
lemma Scenario.Phases.tidy {r : Except Fault (Config × Endpoint × Endpoint × Measurement)}
    (h : s.Phases o source destination (Desk.fresh script handlers).watchful r d') :
    d'.footprint.stdout = "" ∧ d'.footprint.restore.Tidy handlers := by
  obtain ⟨sessions, hsessions, hleads⟩ := h.exists_leads
  refine ⟨hleads.stdout, ?_, ?_, hleads.handlers_restore⟩
  · have hopened : d'.footprint.opened = 0 + sessions := hleads.opened
    change d'.footprint.opened ≤ 1
    omega
  · exact hleads.closed.trans hleads.opened.symm

/-- A measurement whose phases fail ends as it should. -/
lemma exists_end_of_error {fault : Fault} {d₁ : Desk σ} (k : DatabaseScenario σ)
    (hgives : o.Gives source destination)
    (hphases : s.Phases o source destination (Desk.fresh script handlers).watchful
      (.error fault) d₁) (hforeseen : fault.foreseen = true) :
    ∃ exit d' ending, (ClientCommand.run (s.world k) o).run (Desk.fresh script handlers) =
        (exit, d') ∧ Ending.Shown exit d' ending ∧
      Ending.Due s o (Desk.fresh script handlers) ending ∧ d'.footprint.Tidy handlers := by
  obtain ⟨hstdout, htidy⟩ := hphases.tidy
  obtain ⟨l, hrun⟩ := hphases.exists_run k
  obtain ⟨exit, d₂, ending, hconclude, hfootprint, hensues, hshown⟩ :=
    exists_conclude s k source destination hforeseen l o.verbose hstdout
  refine ⟨exit, d₂.restored, ending, run_of_phases_error hgives hrun hconclude, hshown.restored,
    .measured hgives hphases hensues, ?_⟩
  rw [Desk.restored, hfootprint]
  exact htidy

/-- A measurement whose phases end with a result that is not exported ends with its report. -/
lemma exists_end_of_ok {c : Config} {src dst : Endpoint} {m : Measurement} {d₁ : Desk σ}
    (k : DatabaseScenario σ) (hgives : o.Gives source destination)
    (hphases : s.Phases o source destination (Desk.fresh script handlers).watchful
      (.ok (c, src, dst, m)) d₁) (hdisabled : c.influx.enabled = false) :
    ∃ exit d' ending, (ClientCommand.run (s.world k) o).run (Desk.fresh script handlers) =
        (exit, d') ∧ Ending.Shown exit d' ending ∧
      Ending.Due s o (Desk.fresh script handlers) ending ∧ d'.footprint.Tidy handlers := by
  obtain ⟨hstdout, htidy⟩ := hphases.tidy
  obtain ⟨hne, helapsed⟩ := hphases.sound
  obtain ⟨report, hreport⟩ := m.exists_report hne helapsed source destination
  obtain ⟨spread, hspread⟩ := Measurement.exists_summary hne helapsed
  obtain ⟨l, hrun⟩ := hphases.exists_run k
  obtain ⟨texts, hpresent⟩ := execute_present s k l c src dst hreport hspread d₁.restored
  have hend := run_of_phases_ok hgives hrun
  rw [hpresent, hdisabled] at hend
  have hprinted : d₁.footprint.stdout ++ (report ++ "\n") = report ++ "\n" := by
    rw [hstdout, String.empty_append]
  exact ⟨.status 0, _, .finished report, hend, ⟨rfl, hprinted⟩,
    .measured hgives hphases (.finished hreport),
    ⟨htidy.opened_le, htidy.closed_eq, htidy.handlers_eq⟩⟩

/-- A measurement that lacks an address ends with an explanation. -/
lemma exists_end_of_missing {missing : String} (s : Scenario σ) (k : DatabaseScenario σ)
    (script : σ) (handlers : Int → Disposition)
    (hmissing : ∀ source destination, ¬ o.Gives source destination)
    (haddresses : ClientCommand.addresses o = .error missing) :
    ∃ exit d' ending, (ClientCommand.run (s.world k) o).run (Desk.fresh script handlers) =
        (exit, d') ∧ Ending.Shown exit d' ending ∧
      Ending.Due s o (Desk.fresh script handlers) ending ∧ d'.footprint.Tidy handlers := by
  refine ⟨_, _, .usage, run_of_missing haddresses, ⟨rfl, ?_, rfl, rfl⟩, .usage hmissing,
    ⟨Nat.zero_le 1, rfl, rfl⟩⟩
  exact String.empty_append

/-- Whatever the options and the scenario, a measurement whose phases fail only with what is
foreseen and which exports nothing ends in exactly one of the four ways: the one that is due. No
session is left open, and signals lead to what they led to before. -/
theorem run_classified (k : DatabaseScenario σ)
    (hforeseen : s.FailsForeseen o (Desk.fresh script handlers))
    (hdisabled : s.Exportless o (Desk.fresh script handlers)) :
    ∃ exit d', (ClientCommand.run (s.world k) o).run (Desk.fresh script handlers) = (exit, d') ∧
      (∃! ending, Ending.Shown exit d' ending) ∧
      (∀ ending, Ending.Shown exit d' ending ↔ Ending.Due s o (Desk.fresh script handlers) ending) ∧
      d'.footprint.opened ≤ 1 ∧ d'.footprint.closed = d'.footprint.opened ∧
      d'.footprint.handlers = handlers := by
  have hend : ∃ exit d' ending,
      (ClientCommand.run (s.world k) o).run (Desk.fresh script handlers) = (exit, d') ∧
        Ending.Shown exit d' ending ∧ Ending.Due s o (Desk.fresh script handlers) ending ∧
        d'.footprint.Tidy handlers := by
    rcases o.gives_or_missing with ⟨source, destination, hgives⟩ | ⟨hmissing, missing, haddresses⟩
    · obtain ⟨r, d₁, hphases⟩ :=
        s.exists_phases o source destination (Desk.fresh script handlers).watchful
      match r with
      | .error fault =>
        exact exists_end_of_error k hgives hphases (hforeseen _ _ _ _ hgives hphases)
      | .ok (c, src, dst, m) =>
        exact exists_end_of_ok k hgives hphases (hdisabled _ _ _ _ _ _ _ hgives hphases)
    · exact exists_end_of_missing s k script handlers hmissing haddresses
  obtain ⟨exit, d', ending, hrun, hshown, hdue, htidy⟩ := hend
  refine ⟨exit, d', hrun, ⟨ending, hshown, fun _ h => h.unique hshown⟩, fun other => ⟨?_, ?_⟩,
    htidy.opened_le, htidy.closed_eq, htidy.handlers_eq⟩
  · intro h
    rwa [h.unique hshown]
  · intro h
    rwa [h.unique hdue]

end

/-! ### Two measurements between neighbours -/

namespace Scenario

variable {r : Except Fault (Config × Endpoint × Endpoint × Measurement)}

lemma Phases.failsForeseen (hphases : s.Phases o source destination d.watchful r d')
    (hgives : o.Gives source destination)
    (hforeseen : ∀ fault, r = .error fault → fault.foreseen = true) : s.FailsForeseen o d := by
  intro source' destination' fault d'' hgives' hphases'
  obtain ⟨rfl, rfl⟩ := hgives.unique hgives'
  exact hforeseen fault (hphases.unique hphases').1

lemma Phases.exportless (hphases : s.Phases o source destination d.watchful r d')
    (hgives : o.Gives source destination)
    (hdisabled : ∀ c src dst m, r = .ok (c, src, dst, m) → c.influx.enabled = false) :
    s.Exportless o d := by
  intro source' destination' c src dst m d'' hgives' hphases'
  obtain ⟨rfl, rfl⟩ := hgives.unique hgives'
  exact hdisabled c src dst m (hphases.unique hphases').1

/-- A scenario without a configuration file in which every wait ends in the same way. -/
def uniform (signals : List Int) (outcome : Except Failure Bytes) : Scenario Unit where
  readConfig _ := pure .missing
  openLogFile _ := pure (.ok ())
  connect src dst _ := pure ([], .ok (src.withPort 40001, dst))
  discardPending := pure ([], .ok 0)
  send _ := pure ([], .ok ())
  receive _ := pure ([], signals, outcome)
  close := pure ([], ())
  drawId := pure (.ok 5)
  clock := pure 7
  isClockReading _ := show IsClockReading 7 from ⟨by decide, by decide⟩

end Scenario

/-- Two neighbours, and options to measure once between them. -/
def neighbour : Endpoint := ⟨⟨1, 1⟩, .v4 #v[127, 0, 0, 3], 0, []⟩
def otherNeighbour : Endpoint := ⟨⟨1, 2⟩, .v4 #v[127, 0, 0, 4], 30041, []⟩

def once : ClientOptions where
  source := some "1-1,[127.0.0.3]"
  destination := some "1-2,[127.0.0.4]:30041"
  samples := some 1
  attempts := some 1

def onceConfig : Config := { probe := { samples := 1, maxAttempts := 1 } }

/-- What the other neighbour answers to the request with the id 5. -/
def neighbourReply : Bytes :=
  ((Run.requestBytes neighbour otherNeighbour {} 5).toOption.bind fun request =>
    (Responder.answer request).toOption).getD []

/-- Signals that lead to different things. -/
def distinctHandlers (signal : Int) : Disposition := .other signal.natAbs

lemma once_gives : once.Gives "1-1,[127.0.0.3]" "1-2,[127.0.0.4]:30041" :=
  ⟨rfl, by decide, rfl, by decide⟩

lemma parse_neighbours : Endpoint.parse "1-1,[127.0.0.3]" = .ok neighbour ∧
    Endpoint.parse "1-2,[127.0.0.4]:30041" = .ok otherNeighbour := by
  constructor <;> decide +kernel

lemma once_loads (signals : List Int) (outcome : Except Failure Bytes) (d : Desk Unit) :
    (Scenario.uniform signals outcome).Loads once d (.ok onceConfig) d := by
  have hcheck : onceConfig.check = .ok () := by decide +kernel
  have hload : Config.load none .missing once.overrides = .ok onceConfig :=
    Config.checked_eq_ok_iff.mpr ⟨hcheck, rfl⟩
  exact congrArg (·, d) hload

/-- An interrupt is delivered during the wait, which ends for that reason. -/
lemma once_interrupted : ∃ d',
    (Scenario.uniform [2] (.error (.cancelled "Receive cancelled"))).Phases once
      "1-1,[127.0.0.3]" "1-2,[127.0.0.4]:30041" (Desk.fresh () distinctHandlers).watchful
      (.error (.run (.cancelled "Receive cancelled"))) d' := by
  obtain ⟨hsource, hdestination⟩ := parse_neighbours
  have hprepare := Scenario.Prepares.mk (once_loads [2] (.error (.cancelled "Receive cancelled"))
    (Desk.fresh () distinctHandlers).watchful) rfl hsource hdestination rfl
  exact ⟨_, .failed hprepare rfl rfl rfl⟩

/-- An interrupt is delivered during the wait, which ends with the answer. -/
lemma once_answered : ∃ d',
    (Scenario.uniform [2] (.ok neighbourReply)).Phases once "1-1,[127.0.0.3]"
      "1-2,[127.0.0.4]:30041" (Desk.fresh () distinctHandlers).watchful
      (.ok (onceConfig, neighbour, otherNeighbour, ⟨[0], 1⟩)) d' := by
  obtain ⟨hsource, hdestination⟩ := parse_neighbours
  have hprepare := Scenario.Prepares.mk (once_loads [2] (.ok neighbourReply)
    (Desk.fresh () distinctHandlers).watchful) rfl hsource hdestination rfl
  exact ⟨_, .finished hprepare rfl rfl rfl⟩

/-- An interrupt that ends the wait ends the measurement. One that comes together with the last
answer does not. -/
theorem run_classified_once :
    (∃ exit d', (ClientCommand.run
        ((Scenario.uniform [2] (.error (.cancelled "Receive cancelled"))).world .willing) once).run
          (Desk.fresh () distinctHandlers) = (exit, d') ∧
      Ending.Shown exit d' .cancelled ∧ d'.footprint.handlers = distinctHandlers) ∧
    ∃ exit d' report, (ClientCommand.run
        ((Scenario.uniform [2] (.ok neighbourReply)).world .willing) once).run
          (Desk.fresh () distinctHandlers) = (exit, d') ∧
      Ending.Shown exit d' (.finished report) ∧ d'.footprint.handlers = distinctHandlers := by
  constructor
  · obtain ⟨d₁, hphases⟩ := once_interrupted
    obtain ⟨exit, d', hrun, -, hdue, -, -, hhandlers⟩ := run_classified .willing
      (hphases.failsForeseen once_gives (by rintro fault ⟨⟩; rfl))
      (hphases.exportless once_gives (by rintro c src dst m ⟨⟩))
    exact ⟨exit, d', hrun, (hdue _).mpr (.measured once_gives hphases .cancelled), hhandlers⟩
  · obtain ⟨d₁, hphases⟩ := once_answered
    obtain ⟨hne, helapsed⟩ := hphases.sound
    obtain ⟨report, hreport⟩ := Measurement.exists_report hne helapsed "1-1,[127.0.0.3]"
      "1-2,[127.0.0.4]:30041"
    obtain ⟨exit, d', hrun, -, hdue, -, -, hhandlers⟩ := run_classified .willing
      (hphases.failsForeseen once_gives (by rintro fault ⟨⟩))
      (hphases.exportless once_gives (by rintro c src dst m ⟨⟩; rfl))
    exact ⟨exit, d', report, hrun, (hdue _).mpr (.measured once_gives hphases (.finished hreport)),
      hhandlers⟩

end ScionEcho
