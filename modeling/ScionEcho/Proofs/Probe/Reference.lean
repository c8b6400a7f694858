import ScionEcho.Probe.Apparatus
import ScionEcho.Proofs.Numeral.Range
import ScionEcho.Proofs.Probe.Course
import ScionEcho.Proofs.Wire.Echo

/-!
# What a run yields

The result of a run, told from the verdicts on its attempts alone. Which verdict an attempt gets,
and between which readings of the clock, is said by the rules for attempts, and the attempts come
one after another in the course; when to stop is said here, by counting the successes. The clock
need not be monotone, but its readings have 64 bits, so that every difference of two readings can be
reported.
-/

namespace ScionEcho.Run

variable {σ : Type} {w : Surroundings (StateM σ)} {s : RunSettings} {start st st' : σ}
  {trials trials' : List Trial} {trial : Trial}

/-- The trials that are successes, in their order. -/
def successes (trials : List Trial) : List Trial := trials.filter (·.outcome = .success)

/-- The attempts up to the last success that is asked for yield this measurement. It has one sample
for each success, the time between the clock reading before its request and that after its reply. -/
inductive Completes (w : Surroundings (StateM σ)) (s : RunSettings) (start : σ) :
    Measurement → Prop
  | mk {trials : List Trial} {trial : Trial} {xs : List Int} {st : σ}
      (hcourse : Course w s start (trials ++ [trial]) st)
      (hwithin : ((trials ++ [trial]).length : Int) ≤ s.maxAttempts)
      (hcount : ((successes (trials ++ [trial])).length : Int) = s.target)
      (hlast : trial.outcome = .success)
      (hsamples : xs.map some = (successes (trials ++ [trial])).map roundTrip?) :
      Completes w s start ⟨xs, (trials ++ [trial]).length⟩

/-- The first fatal attempt is within the budget, and is reached with too few successes. -/
inductive Breaks (w : Surroundings (StateM σ)) (s : RunSettings) (start : σ) : Failure → Prop
  | mk {trials : List Trial} {e : Failure} {st st₁ st₂ : σ}
      (hcourse : Course w s start trials st) (hleft : (trials.length : Int) < s.maxAttempts)
      (hfew : ((successes trials).length : Int) < s.target)
      (hgo : w.cancelled.run st = (false, st₁)) (hattempt : Attempt w s st₁ (.error e) st₂) :
      Breaks w s start e

/-- All attempts of the budget are made. -/
inductive Exhausts (w : Surroundings (StateM σ)) (s : RunSettings) (start : σ) : Failure → Prop
  | mk {trials : List Trial} {st : σ} (hcourse : Course w s start trials st)
      (hall : (trials.length : Int) = s.maxAttempts) :
      Exhausts w s start (.budget (successes trials).length trials.length s.target)

/-! ### Samples are differences of clock readings -/

/-- A success has a sample: the clock after its reply less the clock before its request. -/
lemma Attempt.elapsed?_eq (h : Attempt w s st (.ok trial) st') :
    (trial.outcome = .success ∧ ∃ id sentAt receivedAt reply st₁,
      Receives w s st id sentAt receivedAt reply st₁ ∧
        trial.elapsed? = some (receivedAt - sentAt)) ∨
      (trial.outcome ≠ .success ∧ trial.elapsed? = none) := by
  cases h with
  | timedOut => exact .inr ⟨by simp, by simp [Trial.elapsed?]⟩
  | mismatch => exact .inr ⟨by simp, by simp [Trial.elapsed?]⟩
  | success hreceives => exact .inl ⟨rfl, _, _, _, _, _, hreceives, by simp [Trial.elapsed?]⟩

lemma isClockReading_of_run (hclock : ∀ st, IsClockReading (w.clock.run st).1) {reading : Int}
    (h : w.clock.run st = (reading, st')) : IsClockReading reading := by
  have hreading := hclock st
  rw [h] at hreading
  exact hreading

lemma Receives.isElapsed {id sentAt receivedAt : Int} {reply : Bytes}
    (hclock : ∀ st, IsClockReading (w.clock.run st).1)
    (h : Receives w s st id sentAt receivedAt reply st') : IsElapsed (receivedAt - sentAt) := by
  obtain ⟨⟨-, -, -, hsentAt, -⟩, -, hreceivedAt⟩ := h
  exact (isClockReading_of_run hclock hreceivedAt).sub (isClockReading_of_run hclock hsentAt)

lemma Attempt.isElapsed (hclock : ∀ st, IsClockReading (w.clock.run st).1)
    (h : Attempt w s st (.ok trial) st') {elapsed : Int}
    (helapsed : trial.elapsed? = some elapsed) : IsElapsed elapsed := by
  rcases h.elapsed?_eq with ⟨-, id, sentAt, receivedAt, reply, st₁, hreceives, hsome⟩ | ⟨-, hnone⟩
  · rw [hsome, Option.some.injEq] at helapsed
    rw [← helapsed]
    exact hreceives.isElapsed hclock
  · rw [hnone] at helapsed
    cases helapsed

lemma Course.isElapsed (hclock : ∀ st, IsClockReading (w.clock.run st).1)
    (h : Course w s start trials st) : ∀ elapsed ∈ samples trials, IsElapsed elapsed := by
  induction h with
  | nil => simp
  | snoc hcourse hgo hattempt hreport ih =>
    intro elapsed helapsed
    rw [samples_append, samples_singleton, List.mem_append] at helapsed
    rcases helapsed with helapsed | helapsed
    · exact ih elapsed helapsed
    · exact hattempt.isElapsed hclock (by simpa using helapsed)

/-! ### Successes are counted by their samples -/

@[simp] lemma successes_append (xs ys : List Trial) :
    successes (xs ++ ys) = successes xs ++ successes ys :=
  List.filter_append xs ys

lemma Attempt.map_roundTrip? (h : Attempt w s st (.ok trial) st') :
    trial.elapsed?.toList.map some = (successes [trial]).map roundTrip? := by
  rw [elapsed?_eq_roundTrip?]
  cases h <;> rfl

/-- Every success of a course has a sample, and nothing else has one. -/
lemma Course.map_roundTrip? (h : Course w s start trials st) :
    (samples trials).map some = (successes trials).map roundTrip? := by
  induction h with
  | nil => rfl
  | snoc hcourse hgo hattempt hreport ih =>
    rw [samples_append, samples_singleton, successes_append, List.map_append, List.map_append, ih,
      hattempt.map_roundTrip?]

lemma Course.length_successes (h : Course w s start trials st) :
    (successes trials).length = (samples trials).length := by
  have hlength := congrArg List.length h.map_roundTrip?
  rw [List.length_map, List.length_map] at hlength
  exact hlength.symm

/-- What a course completes is the list of its samples. -/
lemma Course.eq_samples {xs : List Int} (h : Course w s start trials st)
    (hsamples : xs.map some = (successes trials).map roundTrip?) : xs = samples trials :=
  List.map_injective_iff.mpr (Option.some_injective Int) (hsamples.trans h.map_roundTrip?.symm)

/-! ### Reports succeed -/

lemma execute_record (w : Surroundings (StateM σ)) (attempts : Nat) (xs : List Int) (st : σ)
    (h : ∀ elapsed, trial.elapsed? = some elapsed → IsElapsed elapsed) :
    (execute (record w attempts xs trial) st).1 = .ok (xs ++ trial.elapsed?.toList) := by
  rcases record_cases w attempts xs trial st with ⟨entry, hok⟩ | ⟨elapsed, e, helapsed, hms, -⟩
  · rw [hok]
  · obtain ⟨ms, hvalue⟩ := exists_millis (h elapsed helapsed)
    rw [hms] at hvalue
    cases hvalue

lemma execute_finish_of_le (w : Surroundings (StateM σ)) {attempts : Nat} {xs : List Int}
    (htarget : 1 ≤ s.target) (h : s.target ≤ xs.length)
    (helapsed : ∀ elapsed ∈ xs, IsElapsed elapsed) (st : σ) :
    (execute (finish w s attempts xs) st).1 = .ok ⟨xs, attempts⟩ := by
  have hne : xs ≠ [] := by
    rintro rfl
    rw [List.length_nil] at h
    omega
  rcases finish_cases w s attempts xs st with ⟨hfew, -⟩ | ⟨-, entry, hok⟩ | ⟨-, e, hms, -⟩
  · omega
  · rw [hok]
  · obtain ⟨ms, hvalue⟩ :=
      Measurement.exists_averageRttMs (m := ⟨xs, attempts⟩) hne helapsed
    rw [hms] at hvalue
    cases hvalue

lemma execute_finish_of_lt (w : Surroundings (StateM σ)) {attempts : Nat} {xs : List Int}
    (h : (xs.length : Int) < s.target) (st : σ) :
    (execute (finish w s attempts xs) st).1 = .error (.budget xs.length attempts s.target) := by
  rcases finish_cases w s attempts xs st with ⟨-, entry, hfew⟩ | ⟨henough, -⟩ | ⟨henough, -⟩
  · rw [hfew]
  · omega
  · omega

/-! ### The three ways in which a run ends -/

/-- Every end of a run that is not given up is a measurement, an exhausted budget, or a fatal
attempt. The first two leave the state that the last report of the run leaves. -/
lemma Ends.resolve_finish {r : Except Failure Measurement} (h : Ends w s trials st r st')
    (hcourse : Course w s start trials st) (hclock : ∀ st, IsClockReading (w.clock.run st).1)
    (hgo : ∀ st, (w.cancelled.run st).1 = false) (htarget : 1 ≤ s.target) :
    (s.target ≤ (samples trials).length ∧ r = .ok ⟨samples trials, trials.length⟩ ∧
        execute (finish w s trials.length (samples trials)) st = (r, st')) ∨
      (((samples trials).length : Int) < s.target ∧ trials.length = s.maxAttempts.toNat ∧
        r = .error (.budget (samples trials).length trials.length s.target) ∧
          execute (finish w s trials.length (samples trials)) st = (r, st')) ∨
      ∃ e st₁, ((samples trials).length : Int) < s.target ∧ trials.length < s.maxAttempts.toNat ∧
        w.cancelled.run st = (false, st₁) ∧ Attempt w s st₁ (.error e) st' ∧ r = .error e := by
  cases h with
  | finished hdone hfinish =>
    have hr := congrArg Prod.fst hfinish
    dsimp only at hr
    rcases Int.lt_or_le (samples trials).length s.target with hfew | henough
    · rw [execute_finish_of_lt w hfew] at hr
      exact .inr (.inl ⟨hfew, by omega, hr.symm, hfinish⟩)
    · rw [execute_finish_of_le w htarget henough (hcourse.isElapsed hclock)] at hr
      exact .inl ⟨henough, hr.symm, hfinish⟩
  | cancelled hfew hleft hstop =>
    have hgoes := hgo st
    rw [hstop] at hgoes
    cases hgoes
  | fatal hfew hleft hcontinue hattempt =>
    exact .inr (.inr ⟨_, _, hfew, hleft, hcontinue, hattempt, rfl⟩)
  | unreported hfew hleft hcontinue hattempt hreport =>
    have hok := congrArg Prod.fst hreport
    rw [execute_record w _ _ _ fun elapsed => hattempt.isElapsed hclock] at hok
    cases hok

lemma Ends.resolve {r : Except Failure Measurement} (h : Ends w s trials st r st')
    (hcourse : Course w s start trials st) (hclock : ∀ st, IsClockReading (w.clock.run st).1)
    (hgo : ∀ st, (w.cancelled.run st).1 = false) (htarget : 1 ≤ s.target) :
    (s.target ≤ (samples trials).length ∧ r = .ok ⟨samples trials, trials.length⟩) ∨
      (((samples trials).length : Int) < s.target ∧ trials.length = s.maxAttempts.toNat ∧
        r = .error (.budget (samples trials).length trials.length s.target)) ∨
      ∃ e st₁, ((samples trials).length : Int) < s.target ∧ trials.length < s.maxAttempts.toNat ∧
        w.cancelled.run st = (false, st₁) ∧ Attempt w s st₁ (.error e) st' ∧ r = .error e := by
  rcases h.resolve_finish hcourse hclock hgo htarget with
    ⟨henough, hr, -⟩ | ⟨hfew, hall, hr, -⟩ | hfatal
  · exact .inl ⟨henough, hr⟩
  · exact .inr (.inl ⟨hfew, hall, hr⟩)
  · exact .inr (.inr hfatal)

/-- If a run that follows its course has enough samples, its last attempt has brought in the last
of them. -/
lemma Follows.exists_last (h : Follows w s start trials st) (htarget : 1 ≤ s.target)
    (henough : s.target ≤ (samples trials).length) :
    ∃ init last, trials = init ++ [last] ∧ last.outcome = .success ∧
      ((samples trials).length : Int) = s.target := by
  rcases List.eq_nil_or_concat trials with rfl | ⟨init, last, rfl⟩
  · simp at henough
    omega
  rw [List.concat_eq_append] at *
  have hbefore := h.unfinished init.length (by simp)
  rw [List.take_left] at hbefore
  rw [samples_append, samples_singleton] at henough
  have hsample : last.elapsed? ≠ none := by
    intro hnone
    simp [hnone] at henough
    omega
  have hone : last.elapsed?.toList.length ≤ 1 := by cases last.elapsed? <;> simp
  refine ⟨init, last, rfl, ?_, ?_⟩
  · exact Decidable.of_not_not fun hother => hsample (Trial.elapsed?_eq_none hother)
  · rw [samples_append, samples_singleton]
    rw [List.length_append] at henough ⊢
    omega

/-- How a run ends: with a measurement, by a fatal attempt, or with too few samples. -/
lemma outcome_cases (start : σ) (hclock : ∀ st, IsClockReading (w.clock.run st).1)
    (hgo : ∀ st, (w.cancelled.run st).1 = false) (htarget : 1 ≤ s.target)
    (hmax : s.target ≤ s.maxAttempts) :
    (∃ m, (execute (run w s) start).1 = .ok m ∧ Completes w s start m) ∨
      (∃ e, (execute (run w s) start).1 = .error e ∧ Breaks w s start e) ∨
      ∃ trials st, Course w s start trials st ∧ (trials.length : Int) = s.maxAttempts ∧
        ((samples trials).length : Int) < s.target ∧ (execute (run w s) start).1 =
          .error (.budget (samples trials).length trials.length s.target) := by
  obtain ⟨trials, st, hfollows, hends⟩ := run_ends w s start
  have hwithin := hfollows.within
  have hcourse := hfollows.course
  rcases hends.resolve hcourse hclock hgo htarget with
    ⟨henough, hr⟩ | ⟨hfew, hall, hr⟩ | ⟨e, st₁, hfew, hleft, hcontinue, hattempt, hr⟩
  · obtain ⟨init, last, rfl, hlast, hcount⟩ := hfollows.exists_last htarget henough
    rw [← hcourse.length_successes] at hcount
    exact .inl ⟨_, hr, .mk hcourse (by omega) hcount hlast hcourse.map_roundTrip?⟩
  · exact .inr (.inr ⟨trials, st, hcourse, by omega, hfew, hr⟩)
  · rw [← hcourse.length_successes] at hfew
    exact .inr (.inl ⟨e, hr, .mk hcourse (by omega) hfew hcontinue hattempt⟩)

/-! ### The ways exclude each other -/

/-- A success adds one to the number of samples. -/
lemma Course.length_samples_snoc (h : Course w s start (trials ++ [trial]) st)
    (hlast : trial.outcome = .success) :
    (samples (trials ++ [trial])).length = (samples trials).length + 1 := by
  obtain ⟨st₀, st₁, st₂, -, -, hattempt, -⟩ := h.exists_last
  rcases hattempt.elapsed?_eq with ⟨-, id, sentAt, receivedAt, reply, st₃, -, hsome⟩ | ⟨hother, -⟩
  · rw [samples_append, samples_singleton, hsome, List.length_append]
    rfl
  · exact absurd hlast hother

/-- Before its last attempt, a run that completes has too few samples. -/
lemma length_samples_lt_of_lt (hcourse : Course w s start (trials ++ [trial]) st)
    (hlast : trial.outcome = .success) (h : Course w s start trials' st')
    (hlength : trials'.length < (trials ++ [trial]).length) :
    (samples trials').length < (samples (trials ++ [trial])).length := by
  have hpart := h.eq_take hcourse (by omega)
  rw [List.length_append, List.length_singleton] at hlength
  rw [List.take_append_of_le_length (by omega)] at hpart
  have hle := length_samples_take_le trials trials'.length
  rw [← hpart] at hle
  rw [hcourse.length_samples_snoc hlast]
  omega

lemma length_samples_le (h : Course w s start trials st) (h' : Course w s start trials' st')
    (hlength : trials.length ≤ trials'.length) :
    (samples trials).length ≤ (samples trials').length := by
  have hle := length_samples_take_le trials' trials.length
  rwa [← h.eq_take h' hlength] at hle

lemma Completes.unique {m m' : Measurement} (h : Completes w s start m)
    (h' : Completes w s start m') : m = m' := by
  obtain ⟨hcourse, -, hcount, hlast, hsamples⟩ := h
  obtain ⟨hcourse', -, hcount', hlast', hsamples'⟩ := h'
  rw [hcourse.length_successes] at hcount
  rw [hcourse'.length_successes] at hcount'
  rw [hcourse.eq_samples hsamples, hcourse'.eq_samples hsamples']
  rcases Nat.lt_trichotomy (List.length _) (List.length _) with hlt | heq | hgt
  · have := length_samples_lt_of_lt hcourse' hlast' hcourse hlt
    omega
  · obtain ⟨heq, -⟩ := hcourse.unique hcourse' heq
    rw [heq]
  · have := length_samples_lt_of_lt hcourse hlast hcourse' hgt
    omega

lemma Breaks.unique {e e' : Failure} (h : Breaks w s start e) (h' : Breaks w s start e') :
    e = e' := by
  obtain ⟨hcourse, -, -, hgo, hattempt⟩ := h
  obtain ⟨hcourse', -, -, hgo', hattempt'⟩ := h'
  have hle := hcourse.length_le_of_fatal hgo hattempt hcourse'
  have hge := hcourse'.length_le_of_fatal hgo' hattempt' hcourse
  obtain ⟨-, rfl⟩ := hcourse.unique hcourse' (by omega)
  rw [hgo, Prod.mk.injEq] at hgo'
  obtain ⟨-, rfl⟩ := hgo'
  exact Except.error.inj (hattempt.unique hattempt').1

lemma not_breaks_of_completes {m : Measurement} {e : Failure} (h : Completes w s start m) :
    ¬ Breaks w s start e := by
  rintro ⟨hcourse', -, hfew, hgo, hattempt⟩
  obtain ⟨hcourse, -, hcount, -, -⟩ := h
  rw [hcourse.length_successes] at hcount
  rw [hcourse'.length_successes] at hfew
  have hle := length_samples_le hcourse hcourse' (hcourse'.length_le_of_fatal hgo hattempt hcourse)
  omega

/-- A run returns a measurement exactly if some attempt within the budget brings in the last sample
asked for and no attempt up to it is fatal. It raises the failure of the first fatal attempt exactly
if that one is reached with too few samples. Otherwise the budget is exhausted. -/
theorem run_eq_reference (start : σ) (hclock : ∀ st, IsClockReading (w.clock.run st).1)
    (hgo : ∀ st, (w.cancelled.run st).1 = false) (htarget : 1 ≤ s.target)
    (hmax : s.target ≤ s.maxAttempts) :
    (∀ m, (execute (run w s) start).1 = .ok m ↔ Completes w s start m) ∧
      (∀ e, (execute (run w s) start).1 = .error e ↔ Breaks w s start e ∨
        ((∀ m, ¬ Completes w s start m) ∧ (∀ e', ¬ Breaks w s start e') ∧
          Exhausts w s start e)) := by
  rcases outcome_cases start hclock hgo htarget hmax with
    ⟨m, hm, hcompletes⟩ | ⟨e, he, hbreaks⟩ | ⟨trials, st, hcourse, hall, hfew, hexhausted⟩
  · rw [hm]
    refine ⟨fun m' => ⟨?_, ?_⟩, fun e => ⟨?_, ?_⟩⟩
    · rintro heq
      rwa [← Except.ok.inj heq]
    · intro h
      rw [hcompletes.unique h]
    · intro h
      cases h
    · rintro (h | ⟨h, -, -⟩)
      · exact absurd h (not_breaks_of_completes hcompletes)
      · exact absurd hcompletes (h m)
  · rw [he]
    refine ⟨fun m => ⟨?_, ?_⟩, fun e' => ⟨?_, ?_⟩⟩
    · intro h
      cases h
    · intro h
      exact absurd hbreaks (not_breaks_of_completes h)
    · intro heq
      rw [← Except.error.inj heq]
      exact .inl hbreaks
    · rintro (h | ⟨-, h, -⟩)
      · rw [hbreaks.unique h]
      · exact absurd hbreaks (h e)
  · have hincomplete : ∀ m, ¬ Completes w s start m := by
      rintro m ⟨hcourse', hwithin, hcount, -, -⟩
      rw [hcourse'.length_successes] at hcount
      have := length_samples_le hcourse' hcourse (by omega)
      omega
    have hunbroken : ∀ e, ¬ Breaks w s start e := by
      rintro e ⟨hcourse', hleft, -, hcontinue, hattempt⟩
      have := hcourse'.length_le_of_fatal hcontinue hattempt hcourse
      omega
    rw [hexhausted, ← hcourse.length_successes]
    refine ⟨fun m => ⟨?_, fun h => absurd h (hincomplete m)⟩, fun e => ⟨?_, ?_⟩⟩
    · intro h
      cases h
    · intro heq
      rw [← Except.error.inj heq]
      exact .inr ⟨hincomplete, hunbroken, .mk hcourse hall⟩
    · rintro (h | ⟨-, -, hcourse', hall'⟩)
      · exact absurd h (hunbroken e)
      · obtain ⟨rfl, -⟩ := hcourse.unique hcourse' (by omega)
        rfl

/-- Two endpoints in neighbouring autonomous systems. -/
def here : Endpoint := ⟨⟨1, 1⟩, .v4 #v[127, 0, 0, 1], 40000, []⟩
def there : Endpoint := ⟨⟨1, 2⟩, .v4 #v[127, 0, 0, 2], 30041, [7, 7]⟩

/-- What a responder answers to the request with the given id. -/
def answerTo (src dst : Endpoint) (id : Int) : Bytes :=
  ((requestBytes src dst {} id).toOption.bind fun request =>
    (Responder.answer request).toOption).getD []

/-- A session with three ids, in which every call takes a tick of the clock. The answer to the first
request comes too late, and is what the second wait brings. -/
def belated (src dst : Endpoint) : Apparatus Unit (StateM Nat) where
  src
  dst
  drawId := ExceptT.mk fun time => (if time < 17 then .ok time else .error .noMoreIds, time + 1)
  discardPending := ExceptT.mk fun time => (.ok 0, time + 1)
  clock time := ((time % 1000 : Nat), time + 1)
  send _ := ExceptT.mk fun time => (.ok (), time + 1)
  receive _ _ := ExceptT.mk fun time =>
    (if time = 4 then .error (.timedOut 1)
      else .ok (answerTo src dst (if time = 9 then 0 else time - 4)), time + 1)
  isSet _ := pure false
  log _ := pure ()

lemma correlationId_answerTo {src dst : Endpoint} {id : Int} (hsrc : src.ia.InRange)
    (hdst : dst.ia.InRange) (hid : FitsIn 8 id) (hsize : requestSize src dst ≤ minMtu) :
    ∃ packet, Packet.decode (answerTo src dst id) = .ok packet ∧
      packet.correlationId = .ok id := by
  obtain ⟨request, reply, packet, hrequest, hanswer, hdecode, hecho⟩ :=
    exists_exchange (s := {}) hsrc hdst hid hsize (Int.ofNat_le.mpr hsize)
  refine ⟨packet, ?_, hecho⟩
  rw [answerTo, hrequest, Except.toOption, Option.bind_some, hanswer]
  exact hdecode

/-- The first attempt is in vain, the second one receives the answer to the first, and the third
one its own. -/
lemma belated_course (target maxAttempts : Int) :
    Course ((belated here there).surroundings none) { target, maxAttempts } 0
      ([⟨0, 2, none, .timeout⟩, ⟨5, 7, some 10, .mismatch⟩] ++
        [⟨11, 13, some 16, .success⟩]) 17 := by
  have hhere : here.ia.InRange := ⟨by decide, by decide, by decide, by decide⟩
  have hthere : there.ia.InRange := ⟨by decide, by decide, by decide, by decide⟩
  have hanswer (id : Int) (hid : FitsIn 8 id) :=
    correlationId_answerTo hhere hthere hid (by decide)
  obtain ⟨stale, hstale, hother⟩ := hanswer 0 ⟨by decide, by decide⟩
  obtain ⟨fresh, hfresh, hown⟩ := hanswer 11 ⟨by decide, by decide⟩
  have hfirst : Course ((belated here there).surroundings none) { target, maxAttempts } 0
      [⟨0, 2, none, .timeout⟩] 5 :=
    .snoc .nil rfl (.timedOut ⟨rfl, rfl, rfl, rfl, rfl⟩ rfl) rfl
  have hsecond : Course ((belated here there).surroundings none) { target, maxAttempts } 0
      [⟨0, 2, none, .timeout⟩, ⟨5, 7, some 10, .mismatch⟩] 11 :=
    .snoc hfirst rfl
      (.mismatch ⟨⟨rfl, rfl, rfl, rfl, rfl⟩, rfl, rfl⟩ hstale hother (by decide)) rfl
  exact .snoc hsecond rfl (.success ⟨⟨rfl, rfl, rfl, rfl, rfl⟩, rfl, rfl⟩ hfresh hown) rfl

/-- A run for one sample makes three attempts, and the third one has the sample. A run for two
samples goes on after them, and is ended by the draw of a fourth id. -/
theorem run_belated :
    let w := (belated here there).surroundings none
    (∃ trials final, Course w { target := 1, maxAttempts := 3 } 0 trials final ∧
        trials.map (·.outcome) = [.timeout, .mismatch, .success]) ∧
      (execute (run w { target := 1, maxAttempts := 3 }) 0).1 = .ok ⟨[16 - 13], 3⟩ ∧
      (execute (run w { target := 2, maxAttempts := 4 }) 0).1 = .error .noMoreIds := by
  intro w
  have hclock (time : Nat) : IsClockReading (w.clock.run time).1 := by
    have hreading : -2 ^ 63 ≤ ((time % 1000 : Nat) : Int) ∧ ((time % 1000 : Nat) : Int) < 2 ^ 64 :=
      by omega
    exact hreading
  refine ⟨⟨_, _, belated_course 1 3, rfl⟩, ?_, ?_⟩
  · have hreference := run_eq_reference (s := { target := 1, maxAttempts := 3 }) 0 hclock
      (fun _ => rfl) (by decide) (by decide)
    exact (hreference.1 _).mpr (.mk (belated_course 1 3) (by decide) (by decide) rfl rfl)
  · have hreference := run_eq_reference (s := { target := 2, maxAttempts := 4 }) 0 hclock
      (fun _ => rfl) (by decide) (by decide)
    exact (hreference.2 _).mpr <|
      .inl (.mk (belated_course 2 4) (by decide) (by decide) rfl (.undrawn rfl))

end ScionEcho.Run
