import ScionEcho.Proofs.Probe.Calls
import ScionEcho.Proofs.Probe.Frame
import ScionEcho.Proofs.Probe.Reference

/-!
# Giving up a run

What becomes of a run whose event is set while it goes on. The attempt in which that happens is
the last one, and it is judged as every other one: it may still complete the measurement, exhaust
the budget, or be fatal. Only otherwise the run is given up.
-/

namespace ScionEcho

variable {E σ : Type} {w : Surroundings (StateM σ)} {set : σ → Prop} {R : σ → σ → Prop}
variable {a : Apparatus E (StateM σ)} {cancel : Option E}

/-- Calls of the surroundings lead from one state to the other, as far as relations that they
respect can tell. -/
def Surroundings.Leads (w : Surroundings (StateM σ)) (st st' : σ) : Prop :=
  ∀ R : σ → σ → Prop, w.Respects R → R st st'

/-- An event that stays set once it is, and that whoever looks at it then sees. -/
structure Surroundings.Latches (w : Surroundings (StateM σ)) (set : σ → Prop) : Prop where
  stays : w.Respects fun st st' => set st → set st'
  seen : ∀ {st}, set st → (w.cancelled.run st).1 = true
  set_of_seen : ∀ {st st'}, w.cancelled.run st = (true, st') → set st'

/-- Nothing but a wait is cut short by a cancellation. -/
structure Apparatus.OnlyWaitsAreCancelled (a : Apparatus E (StateM σ)) : Prop where
  drawId : ∀ st text, (execute a.drawId st).1 ≠ .error (.cancelled text)
  discardPending : ∀ st text, (execute a.discardPending st).1 ≠ .error (.cancelled text)
  send : ∀ request st text, (execute (a.send request) st).1 ≠ .error (.cancelled text)

/-! ### Events and lists of calls -/

/-- A list of the calls hides nothing of the states. -/
lemma Surroundings.Respects.recorded (h : (a.surroundings cancel).Respects R) :
    (a.recorded.surroundings cancel).Respects fun x y => R x.1 y.1 where
  refl x := h.refl x.1
  trans hxy hyz := h.trans hxy hyz
  drawId {x r y} heq := by
    obtain rfl : _ = y := congrArg Prod.snd heq
    exact h.drawId rfl
  discardPending {x r y} heq := by
    obtain rfl : _ = y := congrArg Prod.snd heq
    exact h.discardPending rfl
  clock {x r y} heq := by
    obtain rfl : _ = y := congrArg Prod.snd heq
    exact h.clock rfl
  send {bytes x r y} heq := by
    obtain rfl : _ = y := congrArg Prod.snd heq
    exact h.send rfl
  receive {timeout x r y} heq := by
    obtain rfl : _ = y := congrArg Prod.snd heq
    exact h.receive rfl
  cancelled {x r y} heq := by
    obtain rfl : _ = y := congrArg Prod.snd heq
    cases cancel with
    | none => exact h.refl x.1
    | some event => exact h.cancelled rfl
  log entry x := h.log entry x.1

lemma Surroundings.Latches.recorded (h : (a.surroundings cancel).Latches set) :
    (a.recorded.surroundings cancel).Latches fun x => set x.1 where
  stays := h.stays.recorded
  seen {x} hset := by
    rw [Run.run_recorded_cancelled (Prod.mk.eta.symm) x.2]
    exact h.seen hset
  set_of_seen {x y} heq := by
    rw [Run.run_recorded_cancelled (Prod.mk.eta.symm) x.2, Prod.mk.injEq] at heq
    obtain ⟨hstop, rfl⟩ := heq
    exact h.set_of_seen (Prod.ext hstop rfl)

namespace Run

variable {s : RunSettings} {start st st' : σ} {trials trials' : List Trial} {text : String}
variable {x y : σ × List (Call E)}

/-- After some trials, the run begins another attempt in this state. -/
inductive Begins (w : Surroundings (StateM σ)) (s : RunSettings) (start : σ)
    (trials : List Trial) : σ → Prop
  | mk {st st₁ : σ} (hfollows : Follows w s start trials st)
      (hfew : ((samples trials).length : Int) < s.target)
      (hleft : trials.length < s.maxAttempts.toNat) (hgo : w.cancelled.run st = (false, st₁)) :
      Begins w s start trials st₁

/-- What a run yields that makes no further attempt after some trials: a measurement if there are
enough samples, and otherwise a failure, which is that of an exhausted budget if all attempts are
made. -/
def givenUp (s : RunSettings) (trials : List Trial) : Except Failure Measurement :=
  if s.target ≤ (samples trials).length then .ok ⟨samples trials, trials.length⟩
  else if (trials.length : Int) = s.maxAttempts then
    .error (.budget (samples trials).length trials.length s.target)
  else .error (.cancelled "Measurement cancelled")

/-! ### No further attempt -/

/-- From one state to the other nothing is called: the event is looked at, and reports are made. -/
inductive Idle (w : Surroundings (StateM σ)) (s : RunSettings) : σ → σ → Prop
  | refl {st : σ} : Idle w s st st
  | looked {st st₁ st₂ : σ} {stop : Bool} (hidle : Idle w s st st₁)
      (hlook : w.cancelled.run st₁ = (stop, st₂)) : Idle w s st st₂
  | reported {st st₁ st₂ : σ} {attempts : Nat} {xs : List Int} {trial : Trial}
      {r : Except Failure (List Int)} (hidle : Idle w s st st₁)
      (hreport : execute (record w attempts xs trial) st₁ = (r, st₂)) : Idle w s st st₂
  | finished {st st₁ st₂ : σ} {attempts : Nat} {xs : List Int} {r : Except Failure Measurement}
      (hidle : Idle w s st st₁) (hfinish : execute (finish w s attempts xs) st₁ = (r, st₂)) :
      Idle w s st st₂

lemma Idle.trans {st st₁ st₂ : σ} (h : Idle w s st st₁) (h' : Idle w s st₁ st₂) :
    Idle w s st st₂ := by
  induction h' with
  | refl => exact h
  | looked _ hlook ih => exact .looked ih hlook
  | reported _ hreport ih => exact .reported ih hreport
  | finished _ hfinish ih => exact .finished ih hfinish

/-- A run that sees the event at its start does nothing but look at it. -/
lemma execute_run_of_seen (htarget : 1 ≤ s.target) (hmax : s.target ≤ s.maxAttempts)
    (hstop : w.cancelled.run st = (true, st')) :
    execute (run w s) st = (.error (.cancelled "Measurement cancelled"), st') := by
  obtain ⟨left, hleft⟩ : ∃ left, s.maxAttempts.toNat = left + 1 :=
    Nat.exists_eq_succ_of_ne_zero (by omega)
  have hfew : ¬ s.target ≤ (([] : List Int).length : Int) := by
    rw [List.length_nil]
    omega
  rw [run, hleft, loop, if_neg hfew, execute_bind_of_ok (execute_lift w.cancelled st), hstop]
  rfl

/-- Once the event is set, no course goes on. -/
lemma Course.length_le_of_set (hlatches : w.Latches set) (h : Course w s start trials st)
    (hset : set st) (h' : Course w s start trials' st') : trials'.length ≤ trials.length := by
  refine Nat.le_of_not_lt fun hlonger => ?_
  obtain ⟨trial, collected, st₁, st₂, st₃, hgo, -, -⟩ := h.exists_next h' hlonger
  have hseen := hlatches.seen hset
  rw [hgo] at hseen
  cases hseen

/-- A run whose event is set between two attempts makes no further attempt. -/
lemma Follows.run_of_set (hlatches : w.Latches set)
    (hclock : ∀ st, IsClockReading (w.clock.run st).1) (htarget : 1 ≤ s.target)
    (hmax : s.target ≤ s.maxAttempts) (h : Follows w s start trials st) (hset : set st) :
    (execute (run w s) start).1 = givenUp s trials ∧
      Idle w s st (execute (run w s) start).2 := by
  have hends := h.ends fun _ _ h' => h.course.length_le_of_set hlatches hset h'
  have hwithin := h.within
  have hseen := hlatches.seen hset
  generalize (execute (run w s) start).1 = r at *
  generalize (execute (run w s) start).2 = final at *
  cases hends with
  | finished hdone hfinish =>
    refine ⟨?_, .finished .refl hfinish⟩
    have hr := congrArg Prod.fst hfinish
    dsimp only at hr
    rcases Int.lt_or_le (samples trials).length s.target with hfew | henough
    · rw [execute_finish_of_lt w hfew] at hr
      rw [givenUp, if_neg (by omega), if_pos (by omega), hr]
    · rw [execute_finish_of_le w htarget henough (h.course.isElapsed hclock)] at hr
      rw [givenUp, if_pos henough, hr]
  | cancelled hfew hleft hstop =>
    refine ⟨?_, .looked .refl hstop⟩
    rw [givenUp, if_neg (by omega), if_neg (by omega)]
  | fatal _ _ hgo =>
    rw [hgo] at hseen
    cases hseen
  | unreported _ _ hgo =>
    rw [hgo] at hseen
    cases hseen

/-- A fatal attempt ends the run. -/
lemma Begins.run_of_fatal (h : Begins w s start trials st) {e : Failure}
    (hattempt : Attempt w s st (.error e) st') : execute (run w s) start = (.error e, st') := by
  obtain ⟨hfollows, hfew, hleft, hgo⟩ := h
  have hends := hfollows.ends fun _ _ h' => hfollows.course.length_le_of_fatal hgo hattempt h'
  generalize hrun : execute (run w s) start = x at *
  obtain ⟨r, final⟩ := x
  cases hends with
  | finished hdone => omega
  | cancelled _ _ hstop =>
    rw [hgo] at hstop
    cases hstop
  | fatal _ _ hgo' hattempt' =>
    rw [hgo, Prod.mk.injEq] at hgo'
    obtain ⟨-, rfl⟩ := hgo'
    obtain ⟨heq, rfl⟩ := hattempt.unique hattempt'
    rw [Except.error.inj heq]
  | unreported _ _ hgo' hattempt' =>
    rw [hgo, Prod.mk.injEq] at hgo'
    obtain ⟨-, rfl⟩ := hgo'
    cases (hattempt.unique hattempt').1

/-- A run whose event is set in an attempt makes no further attempt, and the verdict on this one
decides what it yields. -/
lemma Begins.run_of_set (hlatches : w.Latches set)
    (hclock : ∀ st, IsClockReading (w.clock.run st).1) (htarget : 1 ≤ s.target)
    (hmax : s.target ≤ s.maxAttempts) {verdict : Except Failure Trial}
    (h : Begins w s start trials st) (hattempt : Attempt w s st verdict st') (hset : set st') :
    (execute (run w s) start).1 = (verdict >>= fun trial => givenUp s (trials ++ [trial])) ∧
      Idle w s st' (execute (run w s) start).2 := by
  cases verdict with
  | error e =>
    rw [h.run_of_fatal hattempt]
    exact ⟨rfl, .refl⟩
  | ok trial =>
    obtain ⟨collected, st₂, hreport⟩ : ∃ collected st₂,
        execute (record w (trials.length + 1) (samples trials) trial) st' = (.ok collected, st₂) :=
      ⟨_, _, Prod.ext (execute_record w _ _ _ fun elapsed => hattempt.isElapsed hclock) rfl⟩
    have hset₂ : set st₂ := by
      have hreported :=
        record_respects hlatches.stays (trials.length + 1) (samples trials) trial st'
      rw [hreport] at hreported
      exact hreported hset
    obtain ⟨hfollows, hfew, hleft, hgo⟩ := h
    obtain ⟨hr, hidle⟩ :=
      (hfollows.snoc hfew hleft hgo hattempt hreport).run_of_set hlatches hclock htarget hmax hset₂
    exact ⟨hr, (Idle.reported .refl hreport).trans hidle⟩

/-! ### While a datagram is awaited -/

/-- From the end of a wait on, the attempt is judged. -/
lemma Sends.exists_attempt {id sentAt : Int} {request : Bytes} {outcome : Except Failure Bytes}
    {st₁ st₂ : σ} (hsends : Sends w s st id request sentAt st₁)
    (hreceive : execute (w.receive s.timeout) st₁ = (outcome, st₂)) :
    ∃ verdict st', Attempt w s st verdict st' ∧ w.Leads st₂ st' := by
  cases outcome with
  | error e =>
    by_cases hcause : ∃ limit, e = .timedOut limit
    · obtain ⟨limit, rfl⟩ := hcause
      exact ⟨_, _, .timedOut hsends hreceive, fun R h => h.refl st₂⟩
    · rw [not_exists] at hcause
      exact ⟨_, _, .unreceived hsends hreceive hcause, fun R h => h.refl st₂⟩
  | ok reply =>
    rcases hafter : w.clock.run st₂ with ⟨receivedAt, st₃⟩
    have hreceives : Receives w s st id sentAt receivedAt reply st₃ := ⟨hsends, hreceive, hafter⟩
    exact ⟨_, st₃, attempt_iff.mpr hreceives.execute_attempt, fun R h => h.clock hafter⟩

/-! ### Lists of calls -/

lemma Idle.calls_eq {x y : σ × List (Call E)}
    (h : Idle (a.recorded.surroundings cancel) s x y) : y.2 = x.2 := by
  induction h with
  | refl => rfl
  | @looked x y stop _ hlook ih =>
    rw [run_recorded_cancelled (Prod.mk.eta.symm) x.2] at hlook
    cases hlook
    exact ih
  | @reported x y attempts xs trial _ _ hreport ih =>
    rw [← Prod.mk.eta (p := x), execute_recorded_record] at hreport
    cases hreport
    exact ih
  | @finished x y attempts xs _ _ hfinish ih =>
    rw [← Prod.mk.eta (p := x), execute_recorded_finish] at hfinish
    cases hfinish
    exact ih

/-- A call yields what it yields without the list, and is the last one on the list. -/
lemma eq_of_execute_noted {α : Type} {note : Except Failure α → Call E}
    {f : ExceptT Failure (StateM σ) α} {outcome : Except Failure α}
    (h : execute (noted note f) x = (outcome, y)) :
    (execute f x.1).1 = outcome ∧ y.2 = x.2 ++ [note outcome] := by
  rw [← Prod.mk.eta (p := x), execute_noted Prod.mk.eta.symm] at h
  cases h
  exact ⟨rfl, rfl⟩

/-- A fatal cancellation is that of the last call of the attempt. -/
lemma Attempt.exists_call
    (h : Attempt (a.recorded.surroundings cancel) s x (.error (.cancelled text)) y) :
    ∃ before call, y.2 = before ++ [call] ∧ call.failure? = some (.cancelled text) ∧
      (a.OnlyWaitsAreCancelled → call = .receive s.timeout cancel (.error (.cancelled text))) := by
  generalize hverdict : (Except.error (.cancelled text) : Except Failure Trial) = verdict at h
  cases h with
  | undrawn hdraw =>
    cases hverdict
    obtain ⟨hfails, hcalls⟩ := eq_of_execute_noted hdraw
    exact ⟨_, _, hcalls, rfl, fun h => absurd hfails (h.drawId _ text)⟩
  | unwritten => cases hverdict
  | undiscarded _ _ hdiscard =>
    cases hverdict
    obtain ⟨hfails, hcalls⟩ := eq_of_execute_noted hdiscard
    exact ⟨_, _, hcalls, rfl, fun h => absurd hfails (h.discardPending _ text)⟩
  | unsent _ _ _ _ hsend =>
    cases hverdict
    obtain ⟨hfails, hcalls⟩ := eq_of_execute_noted hsend
    exact ⟨_, _, hcalls, rfl, fun h => absurd hfails (h.send _ _ text)⟩
  | timedOut => cases hverdict
  | unreceived _ hreceive =>
    cases hverdict
    obtain ⟨-, hcalls⟩ := eq_of_execute_noted hreceive
    exact ⟨_, _, hcalls, rfl, fun _ => rfl⟩
  | undecodable => cases hverdict
  | invalid => cases hverdict
  | mismatch => cases hverdict
  | success => cases hverdict

/-! ### Runs -/

/-- No end of a run is itself a cancellation, unless the event is seen or the attempt fails so. -/
lemma Ends.of_cancelled (h : Ends w s trials st (.error (.cancelled text)) st') :
    (∃ st₁, w.cancelled.run st₁ = (true, st')) ∨
      ∃ st₁, Attempt w s st₁ (.error (.cancelled text)) st' := by
  generalize hr : (Except.error (.cancelled text) : Except Failure Measurement) = r at h
  cases h with
  | finished _ hfinish =>
    rcases finish_cases w s trials.length (samples trials) st with
      ⟨-, entry, hfew⟩ | ⟨-, entry, hok⟩ | ⟨-, e, -, herror⟩
    · rw [hfew, ← hr] at hfinish
      cases hfinish
    · rw [hok, ← hr] at hfinish
      cases hfinish
    · rw [herror, ← hr] at hfinish
      cases hfinish
  | cancelled _ _ hstop => exact .inl ⟨_, hstop⟩
  | fatal _ _ _ hattempt =>
    cases hr
    exact .inr ⟨_, hattempt⟩
  | @unreported trial _ _ st₂ _ _ _ _ _ hreport =>
    cases hr
    rcases record_cases w (trials.length + 1) (samples trials) trial st₂ with
      ⟨entry, hok⟩ | ⟨elapsed, e, -, -, herror⟩
    · rw [hok] at hreport
      cases hreport
    · rw [herror] at hreport
      cases hreport

/-- How a run with this result and this end deals with an event, whenever that is set. -/
structure Heeds (w : Surroundings (StateM (σ × List (Call E)))) (s : RunSettings) (set : σ → Prop)
    (start : σ) (r : Except Failure Measurement) (final : σ × List (Call E)) : Prop where
  /-- It is set before the run. Then the run does nothing but look at it. -/
  before : set start → r = .error (.cancelled "Measurement cancelled") ∧ final.2 = [] ∧
    w.cancelled.run (start, []) = (true, final)
  /-- It is set after some attempts, before the next look at it. -/
  between : ∀ {trials x}, Follows w s (start, []) trials x → set x.1 →
    r = givenUp s trials ∧ final.2 = x.2
  /-- It is set at some moment of an attempt. -/
  during : ∀ {trials begun verdict moment ended}, Begins w s (start, []) trials begun →
    Attempt w s begun verdict ended → w.Leads moment ended → set moment.1 →
    r = (verdict >>= fun trial => givenUp s (trials ++ [trial])) ∧ final.2 = ended.2
  /-- It is set while a datagram is awaited, whatever this wait then yields. -/
  awaiting : ∀ {trials begun id request sentAt sent outcome received},
    Begins w s (start, []) trials begun → Sends w s begun id request sentAt sent →
    execute (w.receive s.timeout) sent = (outcome, received) → set received.1 →
    ∃ verdict ended, Attempt w s begun verdict ended ∧
      r = (verdict >>= fun trial => givenUp s (trials ++ [trial])) ∧ final.2 = ended.2

section

variable (hlatches : (a.surroundings cancel).Latches set)
  (hclock : ∀ st, IsClockReading (a.clock.run st).1) (htarget : 1 ≤ s.target)
  (hmax : s.target ≤ s.maxAttempts)

include hlatches hclock htarget hmax

/-- After the attempts before the event is set, no calls are made. -/
lemma Follows.run_recorded_of_set
    (h : Follows (a.recorded.surroundings cancel) s (start, []) trials x) (hset : set x.1) :
    (execute (run (a.recorded.surroundings cancel) s) (start, [])).1 = givenUp s trials ∧
      (execute (run (a.recorded.surroundings cancel) s) (start, [])).2.2 = x.2 := by
  obtain ⟨hr, hidle⟩ :=
    h.run_of_set hlatches.recorded (fun x => hclock x.1) htarget hmax hset
  exact ⟨hr, hidle.calls_eq⟩

/-- After the attempt in which the event is set, no calls are made. -/
lemma Begins.run_recorded_of_set {verdict : Except Failure Trial}
    (h : Begins (a.recorded.surroundings cancel) s (start, []) trials x)
    (hattempt : Attempt (a.recorded.surroundings cancel) s x verdict y) (hset : set y.1) :
    (execute (run (a.recorded.surroundings cancel) s) (start, [])).1 =
        (verdict >>= fun trial => givenUp s (trials ++ [trial])) ∧
      (execute (run (a.recorded.surroundings cancel) s) (start, [])).2.2 = y.2 := by
  obtain ⟨hr, hidle⟩ :=
    h.run_of_set hlatches.recorded (fun x => hclock x.1) htarget hmax hattempt hset
  exact ⟨hr, hidle.calls_eq⟩

/-- Every run over surroundings that keep a list of the calls heeds its event. -/
lemma heeds_execute_run (start : σ) :
    Heeds (a.recorded.surroundings cancel) s set start
      (execute (run (a.recorded.surroundings cancel) s) (start, [])).1
      (execute (run (a.recorded.surroundings cancel) s) (start, [])).2 where
  before hset := by
    have hstop : ((a.recorded.surroundings cancel).cancelled.run (start, [])).1 = true :=
      hlatches.recorded.seen hset
    rcases hlook : (a.recorded.surroundings cancel).cancelled.run (start, []) with ⟨stop, final⟩
    rw [hlook] at hstop
    obtain rfl : stop = true := hstop
    rw [execute_run_of_seen htarget hmax hlook]
    exact ⟨rfl, (Idle.looked (s := s) .refl hlook).calls_eq, rfl⟩
  between hfollows hset := hfollows.run_recorded_of_set hlatches hclock htarget hmax hset
  during hbegins hattempt hleads hset :=
    hbegins.run_recorded_of_set hlatches hclock htarget hmax hattempt
      (hleads _ hlatches.recorded.stays hset)
  awaiting hbegins hsends hreceive hset := by
    obtain ⟨verdict, ended, hattempt, hleads⟩ := hsends.exists_attempt hreceive
    exact ⟨verdict, ended, hattempt, hbegins.run_recorded_of_set hlatches hclock htarget hmax
      hattempt (hleads _ hlatches.recorded.stays hset)⟩

end

/-- As long as the event is not set, it is the last call that cancels a run. -/
lemma exists_call_of_cancelled (hlatches : (a.surroundings cancel).Latches set)
    (hrun : execute (run (a.recorded.surroundings cancel) s) x = (.error (.cancelled text), y))
    (hunset : ¬ set y.1) :
    ∃ before call, y.2 = before ++ [call] ∧ call.failure? = some (.cancelled text) ∧
      (a.OnlyWaitsAreCancelled → call = .receive s.timeout cancel (.error (.cancelled text))) := by
  obtain ⟨trials, st, -, hends⟩ := run_ends (a.recorded.surroundings cancel) s x
  rw [hrun] at hends
  rcases hends.of_cancelled with ⟨x₁, hstop⟩ | ⟨x₁, hattempt⟩
  · exact absurd (hlatches.recorded.set_of_seen hstop) hunset
  · exact hattempt.exists_call

/-- Once its event is set, a run makes no calls but those of the attempt in progress. The verdict on
this attempt is what it always is, and the run is given up unless the attempt is fatal, brings in
the last sample asked for, or is the last one of the budget. As long as the event is not set, only a
wait that is cut short cancels the run. -/
theorem run_heeds {event : E} (hlatches : (a.surroundings (some event)).Latches set)
    (hclock : ∀ st, IsClockReading (a.clock.run st).1) (htarget : 1 ≤ s.target)
    (hmax : s.target ≤ s.maxAttempts) (start : σ) :
    ∃ r final calls, execute (run (a.surroundings (some event)) s) start = (r, final) ∧
      execute (run (a.recorded.surroundings (some event)) s) (start, []) = (r, final, calls) ∧
      Heeds (a.recorded.surroundings (some event)) s set start r (final, calls) ∧
      (¬ set final → ∀ text, r = .error (.cancelled text) →
        ∃ before call, calls = before ++ [call] ∧ call.failure? = some (.cancelled text) ∧
          (a.OnlyWaitsAreCancelled →
            call = .receive s.timeout (some event) (.error (.cancelled text)))) := by
  obtain ⟨calls, hcalls, -⟩ := execute_recorded_run a (some event) s start
  refine ⟨(execute (run (a.surroundings (some event)) s) start).1, _, calls, rfl, hcalls, ?_, ?_⟩
  · have hheeds := heeds_execute_run hlatches hclock htarget hmax start
    rwa [hcalls] at hheeds
  · intro hunset text hr
    rw [hr] at hcalls
    exact exists_call_of_cancelled hlatches hcalls hunset

/-- A session that does what it is asked, with a given wait. Its state is whether the event is
set. -/
def patient (src dst : Endpoint) (wait : ExceptT Failure (StateM Bool) Bytes) :
    Apparatus Unit (StateM Bool) where
  src
  dst
  drawId := pure 7
  discardPending := pure 0
  clock := pure 1
  send _ := pure ()
  receive _ _ := wait
  isSet _ := get
  log _ := pure ()

/-- The event is set during this wait, and then nothing arrives. -/
def interruption : ExceptT Failure (StateM Bool) Bytes := do
  ExceptT.lift (StateT.set true : StateM Bool Unit)
  throw (.timedOut 1)

lemma patient_latches (src dst : Endpoint) (wait : ExceptT Failure (StateM Bool) Bytes)
    (hwait : ∀ {st r st'}, execute wait st = (r, st') → st = true → st' = true) :
    ((patient src dst wait).surroundings (some ())).Latches (· = true) where
  stays := {
    refl := fun _ hset => hset
    trans := fun hxy hyz hset => hyz (hxy hset)
    drawId := by rintro st r st' ⟨⟩ hset; exact hset
    discardPending := by rintro st r st' ⟨⟩ hset; exact hset
    clock := by rintro st r st' ⟨⟩ hset; exact hset
    send := by rintro bytes st r st' ⟨⟩ hset; exact hset
    receive := hwait
    cancelled := by rintro st r st' ⟨⟩ hset; exact hset
    log := fun _ _ hset => hset }
  seen := fun hset => hset
  set_of_seen := by rintro st st' ⟨⟩; rfl

lemma patient_onlyWaitsAreCancelled (src dst : Endpoint)
    (wait : ExceptT Failure (StateM Bool) Bytes) :
    (patient src dst wait).OnlyWaitsAreCancelled where
  drawId := by rintro st text ⟨⟩
  discardPending := by rintro st text ⟨⟩
  send := by rintro request st text ⟨⟩

/-- The first run is given up after its attempt. The second one is cut short by its wait, though the
event is not set. -/
theorem run_heeds_interrupted :
    (∃ r final calls,
      execute (run ((patient here there interruption).recorded.surroundings (some ()))
          { target := 1, maxAttempts := 2 }) (false, []) = (r, final, calls) ∧
        r = .error (.cancelled "Measurement cancelled") ∧ calls.length = 5) ∧
    ∃ r final calls,
      execute (run ((patient here there (throw (.cancelled "stop"))).recorded.surroundings (some ()))
          { target := 1, maxAttempts := 2 }) (false, []) = (r, final, calls) ∧
        r = .error (.cancelled "stop") ∧ final = false ∧
          ∃ before, calls = before ++ [.receive none (some ()) (.error (.cancelled "stop"))] := by
  have hclock (wait : ExceptT Failure (StateM Bool) Bytes) (st : Bool) :
      IsClockReading ((patient here there wait).clock.run st).1 :=
    show IsClockReading 1 from ⟨by decide, by decide⟩
  obtain ⟨request, hrequest⟩ :
      ∃ request, requestBytes here there { target := 1, maxAttempts := 2 } 7 = .ok request :=
    ⟨_, rfl⟩
  constructor
  · obtain ⟨r, final, calls, -, hrun, hheeds, -⟩ :=
      run_heeds (s := { target := 1, maxAttempts := 2 })
        (patient_latches here there interruption (by rintro st r st' ⟨⟩ -; rfl))
        (hclock interruption) (by decide) (by decide) false
    have hbegins : Begins ((patient here there interruption).recorded.surroundings (some ()))
        { target := 1, maxAttempts := 2 } (false, []) [] (false, []) :=
      .mk ⟨.nil, by simp, by simp⟩ (by decide) (by decide) rfl
    have hsends : Sends ((patient here there interruption).recorded.surroundings (some ()))
        { target := 1, maxAttempts := 2 } (false, []) 7 request 1
        (false, opening 7 0 1 ++ [.send request (.ok ())]) :=
      ⟨rfl, hrequest, rfl, rfl, rfl⟩
    obtain ⟨verdict, ended, hattempt, hr, hcalls⟩ := hheeds.awaiting hbegins hsends rfl rfl
    obtain ⟨rfl, rfl⟩ := hattempt.unique (.timedOut hsends rfl)
    refine ⟨r, final, calls, hrun, ?_, ?_⟩
    · rw [hr]
      rfl
    · rw [show calls = _ from hcalls]
      rfl
  · obtain ⟨r, final, calls, hplain, hrun, -, hunset⟩ :=
      run_heeds (s := { target := 1, maxAttempts := 2 })
        (patient_latches here there (throw (.cancelled "stop"))
          (by rintro st r st' ⟨⟩ hset; exact hset))
        (hclock _) (by decide) (by decide) false
    obtain ⟨rfl, rfl⟩ : Except.error (.cancelled "stop") = r ∧ false = final :=
      Prod.mk.inj (show (Except.error (.cancelled "stop"), false) = (r, final) from hplain)
    obtain ⟨before, call, hcalls, -, hcall⟩ := hunset Bool.false_ne_true "stop" rfl
    refine ⟨_, _, calls, hrun, rfl, rfl, before, ?_⟩
    rw [hcalls, hcall (patient_onlyWaitsAreCancelled _ _ _)]

end Run

end ScionEcho
