import ScionEcho.Proofs.Probe.Attempt

/-!
# Courses of attempts

A run makes attempts one after another and reports each of them. Its course is told here without
regard to when it stops: which trials come of the attempts, and which state they lead to. The
program follows this course from its start and leaves it at one of four points.
-/

namespace ScionEcho.Run

variable {σ : Type} {w : Surroundings (StateM σ)} {s : RunSettings} {start st st' final : σ}
  {trials trials' : List Trial}

/-- The time between the two clock readings around a success. -/
def roundTrip? : Trial → Option Int
  | ⟨_, sentAt, some receivedAt, .success⟩ => some (receivedAt - sentAt)
  | _ => none

/-- The samples of some trials, in their order. -/
def samples (trials : List Trial) : List Int := trials.filterMap roundTrip?

/-- Attempts one after another, none of them cancelled and none of them fatal. -/
inductive Course (w : Surroundings (StateM σ)) (s : RunSettings) (start : σ) :
    List Trial → σ → Prop
  | nil : Course w s start [] start
  | snoc {trials : List Trial} {trial : Trial} {collected : List Int} {st st₁ st₂ st₃ : σ}
      (hcourse : Course w s start trials st) (hgo : w.cancelled.run st = (false, st₁))
      (hattempt : Attempt w s st₁ (.ok trial) st₂)
      (hreport : execute (record w (trials.length + 1) (samples trials) trial) st₂ =
        (.ok collected, st₃)) : Course w s start (trials ++ [trial]) st₃

/-- A course that the program follows: it is within the budget, and until its last attempt there
are too few samples. -/
structure Follows (w : Surroundings (StateM σ)) (s : RunSettings) (start : σ)
    (trials : List Trial) (st : σ) : Prop where
  course : Course w s start trials st
  within : trials.length ≤ s.maxAttempts.toNat
  unfinished : ∀ k < trials.length, ((samples (trials.take k)).length : Int) < s.target

/-- The attempt after some trials receives these bytes. -/
inductive Reads (w : Surroundings (StateM σ)) (s : RunSettings) (start : σ)
    (trials : List Trial) : Bytes → Prop
  | mk {id sentAt receivedAt : Int} {reply : Bytes} {st st₁ st₂ : σ}
      (hcourse : Course w s start trials st) (hgo : w.cancelled.run st = (false, st₁))
      (hreceives : Receives w s st₁ id sentAt receivedAt reply st₂) : Reads w s start trials reply

/-- The end of a run after some trials. -/
inductive Ends (w : Surroundings (StateM σ)) (s : RunSettings) (trials : List Trial) (st : σ) :
    Except Failure Measurement → σ → Prop
  | finished {r : Except Failure Measurement} {st₁ : σ}
      (hdone : s.target ≤ (samples trials).length ∨ trials.length = s.maxAttempts.toNat)
      (hfinish : execute (finish w s trials.length (samples trials)) st = (r, st₁)) :
      Ends w s trials st r st₁
  | cancelled {st₁ : σ} (hfew : ((samples trials).length : Int) < s.target)
      (hleft : trials.length < s.maxAttempts.toNat) (hstop : w.cancelled.run st = (true, st₁)) :
      Ends w s trials st (.error (.cancelled "Measurement cancelled")) st₁
  | fatal {e : Failure} {st₁ st₂ : σ} (hfew : ((samples trials).length : Int) < s.target)
      (hleft : trials.length < s.maxAttempts.toNat) (hgo : w.cancelled.run st = (false, st₁))
      (hattempt : Attempt w s st₁ (.error e) st₂) : Ends w s trials st (.error e) st₂
  | unreported {trial : Trial} {e : Failure} {st₁ st₂ st₃ : σ}
      (hfew : ((samples trials).length : Int) < s.target)
      (hleft : trials.length < s.maxAttempts.toNat) (hgo : w.cancelled.run st = (false, st₁))
      (hattempt : Attempt w s st₁ (.ok trial) st₂)
      (hreport : execute (record w (trials.length + 1) (samples trials) trial) st₂ =
        (.error e, st₃)) : Ends w s trials st (.error e) st₃

/-! ### Samples -/

/-- What the program takes for a sample is the time between two readings. -/
lemma elapsed?_eq_roundTrip? (trial : Trial) : trial.elapsed? = roundTrip? trial := by
  obtain ⟨id, sentAt, receivedAt, outcome⟩ := trial
  cases outcome <;> cases receivedAt <;> rfl

@[simp] lemma samples_nil : samples [] = [] := rfl

@[simp] lemma samples_append (xs ys : List Trial) :
    samples (xs ++ ys) = samples xs ++ samples ys :=
  List.filterMap_append

lemma samples_singleton (trial : Trial) : samples [trial] = trial.elapsed?.toList := by
  rw [elapsed?_eq_roundTrip?]
  cases h : roundTrip? trial <;> simp [samples, h]

lemma length_samples_take_le (trials : List Trial) (k : Nat) :
    (samples (trials.take k)).length ≤ (samples trials).length := by
  have hsplit := congrArg (fun xs => (samples xs).length) (List.take_append_drop k trials)
  simp only [samples_append, List.length_append] at hsplit
  omega

/-! ### Reports -/

/-- A report of a trial writes to the log and adds the sample of the trial, if there is one. It
fails without effect if the sample is out of range. -/
lemma record_cases (w : Surroundings (StateM σ)) (attempts : Nat) (xs : List Int) (trial : Trial)
    (st : σ) :
    (∃ entry, execute (record w attempts xs trial) st =
        (.ok (xs ++ trial.elapsed?.toList), ((w.log entry).run st).2)) ∨
      ∃ elapsed e, trial.elapsed? = some elapsed ∧ millis elapsed = .error e ∧
        execute (record w attempts xs trial) st = (.error (.number e), st) := by
  unfold record
  cases helapsed : trial.elapsed? with
  | none => exact .inl ⟨_, by simp [report, Except.map]; rfl⟩
  | some elapsed =>
    cases hms : millis elapsed with
    | error e => exact .inr ⟨elapsed, e, rfl, hms, by simp [execute_bind, hms]⟩
    | ok ms => exact .inl ⟨_, by simp [execute_bind, hms, report, Except.map]; rfl⟩

/-- The end of a run writes to the log whether there are enough samples. It fails without effect if
their average is out of range. -/
lemma finish_cases (w : Surroundings (StateM σ)) (s : RunSettings) (attempts : Nat) (xs : List Int)
    (st : σ) :
    ((xs.length : Int) < s.target ∧ ∃ entry, execute (finish w s attempts xs) st =
        (.error (.budget xs.length attempts s.target), ((w.log entry).run st).2)) ∨
      (s.target ≤ xs.length ∧ ∃ entry, execute (finish w s attempts xs) st =
        (.ok ⟨xs, attempts⟩, ((w.log entry).run st).2)) ∨
      (s.target ≤ xs.length ∧ ∃ e, Measurement.averageRttMs ⟨xs, attempts⟩ = .error e ∧
        execute (finish w s attempts xs) st = (.error (.number e), st)) := by
  rw [finish]
  rcases Int.lt_or_le xs.length s.target with hfew | henough
  · rw [if_pos hfew]
    exact .inl ⟨hfew, _, by simp [execute_bind, report]; rfl⟩
  · rw [if_neg (by omega)]
    cases hms : Measurement.averageRttMs ⟨xs, attempts⟩ with
    | error e => exact .inr (.inr ⟨henough, e, rfl, by simp [execute_bind, hms]⟩)
    | ok ms => exact .inr (.inl ⟨henough, _, by simp [execute_bind, hms, report, Except.map]; rfl⟩)

/-- Reporting a trial adds its sample, if there is one. -/
lemma eq_of_execute_record {attempts : Nat} {xs ys : List Int} {trial : Trial}
    (h : execute (record w attempts xs trial) st = (.ok ys, st')) :
    ys = xs ++ trial.elapsed?.toList := by
  rcases record_cases w attempts xs trial st with ⟨entry, hok⟩ | ⟨elapsed, e, -, -, herror⟩
  · rw [hok, Prod.mk.injEq, Except.ok.injEq] at h
    exact h.1.symm
  · rw [herror] at h
    cases h

/-- A run that returns a measurement has measured its samples, and enough of them. -/
lemma Ends.of_ok {m : Measurement} (h : Ends w s trials st (.ok m) st') :
    s.target ≤ (samples trials).length ∧ m = ⟨samples trials, trials.length⟩ := by
  cases h with
  | finished _ hfinish =>
    rcases finish_cases w s trials.length (samples trials) st with
      ⟨-, entry, hfew⟩ | ⟨henough, entry, hok⟩ | ⟨-, e, -, herror⟩
    · rw [hfew] at hfinish
      cases hfinish
    · rw [hok, Prod.mk.injEq, Except.ok.injEq] at hfinish
      exact ⟨henough, hfinish.1.symm⟩
    · rw [herror] at hfinish
      cases hfinish

lemma Ends.eq_of_ok {m : Measurement} (h : Ends w s trials st (.ok m) st') :
    m = ⟨samples trials, trials.length⟩ :=
  h.of_ok.2

/-! ### There is one course -/

/-- The last attempt of a course. -/
lemma Course.exists_last {trial : Trial} (h : Course w s start (trials ++ [trial]) st) :
    ∃ st₀ st₁ st₂, Course w s start trials st₀ ∧ w.cancelled.run st₀ = (false, st₁) ∧
      Attempt w s st₁ (.ok trial) st₂ ∧
      (execute (record w (trials.length + 1) (samples trials) trial) st₂).2 = st := by
  generalize hall : trials ++ [trial] = all at h
  cases h with
  | nil => simp at hall
  | snoc hcourse hgo hattempt hreport =>
    obtain ⟨rfl, hlast⟩ := List.append_inj' hall rfl
    obtain rfl := List.singleton_inj.mp hlast
    exact ⟨_, _, _, hcourse, hgo, hattempt, by rw [hreport]⟩

/-- The states that attempts lead to are determined, and so are their trials. -/
lemma Course.unique (h : Course w s start trials st) (h' : Course w s start trials' st')
    (hlength : trials.length = trials'.length) : trials = trials' ∧ st = st' := by
  induction h generalizing trials' st' with
  | nil =>
    cases h' with
    | nil => exact ⟨rfl, rfl⟩
    | snoc => simp at hlength
  | snoc hcourse hgo hattempt hreport ih =>
    cases h' with
    | nil => simp at hlength
    | snoc hcourse' hgo' hattempt' hreport' =>
      obtain ⟨rfl, rfl⟩ := ih hcourse' (by simpa using hlength)
      rw [hgo, Prod.mk.injEq] at hgo'
      obtain ⟨-, rfl⟩ := hgo'
      obtain ⟨heq, rfl⟩ := hattempt.unique hattempt'
      obtain rfl := Except.ok.inj heq
      rw [hreport, Prod.mk.injEq] at hreport'
      exact ⟨rfl, hreport'.2⟩

/-- Every part of a course from its start on is a course. -/
lemma Course.exists_take (h : Course w s start trials st) (k : Nat) :
    ∃ st', Course w s start (trials.take k) st' := by
  induction h with
  | nil => exact ⟨start, by simpa using Course.nil⟩
  | @snoc trials trial collected st st₁ st₂ st₃ hcourse hgo hattempt hreport ih =>
    rcases Nat.lt_or_ge trials.length k with hk | hk
    · refine ⟨st₃, ?_⟩
      rw [List.take_of_length_le (by rw [List.length_append]; exact hk)]
      exact .snoc hcourse hgo hattempt hreport
    · rw [List.take_append_of_le_length hk]
      exact ih

/-- Of two courses, the shorter is a part of the longer. -/
lemma Course.eq_take (h : Course w s start trials st) (h' : Course w s start trials' st')
    (hlength : trials.length ≤ trials'.length) : trials = trials'.take trials.length := by
  obtain ⟨st₁, htake⟩ := h'.exists_take trials.length
  exact (h.unique htake (by simp [hlength])).1

/-- A course that is longer than another one goes on with one more attempt. -/
lemma Course.exists_next (h : Course w s start trials st) (h' : Course w s start trials' st')
    (hlonger : trials.length < trials'.length) :
    ∃ trial collected st₁ st₂ st₃, w.cancelled.run st = (false, st₁) ∧
      Attempt w s st₁ (.ok trial) st₂ ∧
      execute (record w (trials.length + 1) (samples trials) trial) st₂ = (.ok collected, st₃) := by
  obtain ⟨st₃, hnext⟩ := h'.exists_take (trials.length + 1)
  have hlength : (trials'.take (trials.length + 1)).length = trials.length + 1 := by
    rw [List.length_take]
    omega
  generalize trials'.take (trials.length + 1) = next at hnext hlength
  cases hnext with
  | nil => simp at hlength
  | snoc hcourse hgo hattempt hreport =>
    obtain ⟨rfl, rfl⟩ := h.unique hcourse (by simpa using hlength.symm)
    exact ⟨_, _, _, _, _, hgo, hattempt, hreport⟩

/-- No course goes on after a fatal attempt. -/
lemma Course.length_le_of_fatal {e : Failure} {st₁ st₂ : σ} (h : Course w s start trials st)
    (hgo : w.cancelled.run st = (false, st₁)) (hattempt : Attempt w s st₁ (.error e) st₂)
    (h' : Course w s start trials' st') : trials'.length ≤ trials.length := by
  refine Nat.le_of_not_lt fun hlonger => ?_
  obtain ⟨trial, collected, st₃, st₄, st₅, hgo', hattempt', -⟩ := h.exists_next h' hlonger
  rw [hgo, Prod.mk.injEq] at hgo'
  obtain ⟨-, rfl⟩ := hgo'
  cases (hattempt.unique hattempt').1

/-! ### The program follows the course -/

/-- Where more samples are needed and more attempts are left, the program goes on. -/
lemma Follows.snoc (h : Follows w s start trials st) {trial : Trial} {collected : List Int}
    {st₁ st₂ st₃ : σ} (hfew : ((samples trials).length : Int) < s.target)
    (hleft : trials.length < s.maxAttempts.toNat) (hgo : w.cancelled.run st = (false, st₁))
    (hattempt : Attempt w s st₁ (.ok trial) st₂)
    (hreport : execute (record w (trials.length + 1) (samples trials) trial) st₂ =
      (.ok collected, st₃)) : Follows w s start (trials ++ [trial]) st₃ := by
  refine ⟨.snoc h.course hgo hattempt hreport, by rw [List.length_append]; exact hleft, ?_⟩
  intro k hk
  rw [List.length_append, List.length_singleton] at hk
  rw [List.take_append_of_le_length (by omega)]
  rcases Nat.lt_or_ge k trials.length with hlt | hge
  · exact h.unfinished k hlt
  · rwa [List.take_of_length_le hge]

lemma loop_ends (left : Nat) (h : Follows w s start trials st)
    (hleft : trials.length + left = s.maxAttempts.toNat) {r : Except Failure Measurement}
    (hloop : execute (loop w s left trials.length (samples trials)) st = (r, st')) :
    ∃ trials₁ st₁, Follows w s start trials₁ st₁ ∧ Ends w s trials₁ st₁ r st' := by
  -- each attempt that does not end the run extends the course that it follows
  induction left generalizing trials st with
  | zero =>
    rw [loop] at hloop
    exact ⟨trials, st, h, .finished (.inr (by omega)) hloop⟩
  | succ left ih =>
    rw [loop] at hloop
    by_cases henough : s.target ≤ ((samples trials).length : Int)
    · rw [if_pos henough] at hloop
      exact ⟨trials, st, h, .finished (.inl henough) hloop⟩
    have hfew : ((samples trials).length : Int) < s.target := by omega
    have hroom : trials.length < s.maxAttempts.toNat := by omega
    rw [if_neg henough, execute_bind_of_ok (execute_lift w.cancelled st)] at hloop
    rcases hgo : w.cancelled.run st with ⟨stop, st₁⟩
    rw [hgo] at hloop
    cases stop with
    | true =>
      simp at hloop
      obtain ⟨rfl, rfl⟩ := hloop
      exact ⟨trials, st, h, .cancelled hfew hroom hgo⟩
    | false =>
      obtain ⟨verdict, st₂, hattempt⟩ := exists_attempt w s st₁
      simp only [Bool.false_eq_true, if_false] at hloop
      cases verdict with
      | error e =>
        rw [execute_bind_of_error hattempt.execute_attempt, Prod.mk.injEq] at hloop
        obtain ⟨rfl, rfl⟩ := hloop
        exact ⟨trials, st, h, .fatal hfew hroom hgo hattempt⟩
      | ok trial =>
        rw [execute_bind_of_ok hattempt.execute_attempt] at hloop
        rcases hreport : execute (record w (trials.length + 1) (samples trials) trial) st₂ with
          ⟨e | collected, st₃⟩
        · rw [execute_bind_of_error hreport, Prod.mk.injEq] at hloop
          obtain ⟨rfl, rfl⟩ := hloop
          exact ⟨trials, st, h, .unreported hfew hroom hgo hattempt hreport⟩
        · rw [execute_bind_of_ok hreport] at hloop
          have hcollected : collected = samples (trials ++ [trial]) := by
            rw [eq_of_execute_record hreport, samples_append, samples_singleton]
          rw [hcollected] at hloop
          exact ih (h.snoc hfew hroom hgo hattempt hreport)
            (by rw [List.length_append, List.length_singleton]; omega) (by simpa using hloop)

/-- A run follows its course up to one of the four ends. -/
theorem run_ends (w : Surroundings (StateM σ)) (s : RunSettings) (start : σ) :
    ∃ trials st, Follows w s start trials st ∧
      Ends w s trials st (execute (run w s) start).1 (execute (run w s) start).2 :=
  loop_ends s.maxAttempts.toNat ⟨.nil, by simp, by simp⟩ (by simp) rfl

/-- A run makes all attempts of every course that it follows. -/
lemma Follows.length_le_of_ends {r : Except Failure Measurement}
    (h : Follows w s start trials st) (h' : Course w s start trials' st')
    (hends : Ends w s trials' st' r final) : trials.length ≤ trials'.length := by
  refine Nat.le_of_not_lt fun hlonger => ?_
  obtain ⟨trial, collected, st₁, st₂, st₃, hgo, hattempt, hreport⟩ :=
    h'.exists_next h.course hlonger
  have hunfinished := h.unfinished trials'.length hlonger
  rw [← h'.eq_take h.course (Nat.le_of_lt hlonger)] at hunfinished
  have hwithin := h.within
  cases hends with
  | finished hdone => omega
  | cancelled _ _ hstop =>
    rw [hgo] at hstop
    cases hstop
  | fatal _ _ hgo' hattempt' =>
    rw [hgo, Prod.mk.injEq] at hgo'
    obtain ⟨-, rfl⟩ := hgo'
    cases (hattempt.unique hattempt').1
  | unreported _ _ hgo' hattempt' hreport' =>
    rw [hgo, Prod.mk.injEq] at hgo'
    obtain ⟨-, rfl⟩ := hgo'
    obtain ⟨heq, rfl⟩ := hattempt.unique hattempt'
    obtain rfl := Except.ok.inj heq
    rw [hreport] at hreport'
    cases hreport'

/-- A run ends where the course that it follows cannot go on. -/
lemma Follows.ends (h : Follows w s start trials st)
    (hlast : ∀ trials' st', Course w s start trials' st' → trials'.length ≤ trials.length) :
    Ends w s trials st (execute (run w s) start).1 (execute (run w s) start).2 := by
  obtain ⟨trials', st', hfollows, hends⟩ := run_ends w s start
  have hle := h.length_le_of_ends hfollows.course hends
  have hge := hlast trials' st' hfollows.course
  obtain ⟨rfl, rfl⟩ := h.course.unique hfollows.course (by omega)
  exact hends

end ScionEcho.Run
