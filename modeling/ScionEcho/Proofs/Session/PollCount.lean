import Mathlib.Algebra.Order.Field.Basic
import Mathlib.Algebra.Order.Floor.Semiring
import Mathlib.Data.Rat.Floor
import Mathlib.Tactic.NormNum
import ScionEcho.Proofs.Session.Waiting

/-!
# How many polls a timeout takes

While nothing happens at a socket, every poll uses up its wait: the poll interval, or all that
remains until the deadline. In exact arithmetic a wait with an interval therefore times out after no
more polls than there are intervals in its timeout, the last of which may be a shorter one, and a
wait without an interval after a single poll.
-/

namespace ScionEcho

variable {T σ : Type}

/-- Nothing happens at the sockets but that time passes. The clock shows the time, the event is not
set, and a poll finds nothing and takes no less time than it may wait. -/
structure Sockets.Uneventful [Zero T] [Add T] [LE T] [LT T] (k : Sockets T (StateM σ))
    (time : σ → T) : Prop where
  now : ∀ st reading st', k.now.run st = (reading, st') → time st ≤ reading ∧ reading ≤ time st'
  cancelled : ∀ st set st', k.cancelled.run st = (set, st') → set = false ∧ time st ≤ time st'
  awaitReadable : ∀ wait st outcome st', 0 < wait →
    execute (k.awaitReadable (some wait)) st = (outcome, st') →
      outcome = .ok false ∧ time st + wait ≤ time st'

namespace DatagramSession

variable {k : Sockets T (StateM σ)} {s : DatagramSession} {interval timeout : Option T}
  {deadline : Option (T × T)} {polls polls' : Nat} {steps : List (WaitStep T)} {ended : Received T}
  {st st' : σ}

/-! ### More polls -/

section

variable [OfNat T 0] [Sub T] [LT T] [LE T] [DecidableLT T]

/-- A wait that is decided is not changed by more polls. -/
lemma Waits.of_le (h : Waits k s interval deadline polls st steps ended st')
    (hended : ended ≠ .waiting) (hle : polls ≤ polls') :
    Waits k s interval deadline polls' st steps ended st' := by
  induction h generalizing polls' with
  | exhausted => exact absurd rfl hended
  | ended hround =>
    obtain ⟨more, rfl⟩ := Nat.exists_eq_add_one_of_ne_zero (Nat.ne_zero_of_lt hle)
    exact .ended hround
  | again hround _ ih =>
    obtain ⟨more, rfl⟩ := Nat.exists_eq_add_one_of_ne_zero (Nat.ne_zero_of_lt hle)
    exact .again hround (ih hended (Nat.le_of_succ_le_succ hle))

lemma Receives.of_le [Add T] (h : Receives k s interval timeout polls st steps ended st')
    (hended : ended ≠ .waiting) (hle : polls ≤ polls') :
    Receives k s interval timeout polls' st steps ended st' := by
  cases h with
  | intro hsets hwaits => exact .intro hsets (hwaits.of_le hended hle)

end

/-! ### Time that passes -/

section

variable [LinearOrder T] [AddCommGroup T] {time : σ → T} {limit d : T}

lemma Asks.of_uneventful (hk : k.Uneventful time) {set : Bool}
    (h : Asks k interval st steps set st') : set = false ∧ time st ≤ time st' := by
  cases h with
  | unasked hinterval => exact ⟨rfl, le_refl _⟩
  | asked hinterval hevent => exact hk.cancelled _ _ _ hevent

/-- A poll takes no less time than it may wait. -/
lemma Polls.of_uneventful (hk : k.Uneventful time) {wait : T} (hwait : 0 < wait)
    {r : Option (Received T)} (h : Polls k s (some wait) st steps r st') :
    r = none ∧ time st + wait ≤ time st' := by
  cases h with
  | failed hpoll => cases (hk.awaitReadable _ _ _ _ hwait hpoll).1
  | unreadable hpoll => exact ⟨rfl, (hk.awaitReadable _ _ _ _ hwait hpoll).2⟩
  | unread hpoll hread => cases (hk.awaitReadable _ _ _ _ hwait hpoll).1
  | data hpoll hread => cases (hk.awaitReadable _ _ _ _ hwait hpoll).1

variable [IsOrderedAddMonoid T]

/-- The looks of a round find that the deadline has passed, or that it is still to come. -/
lemma Looks.of_uneventful (hk : k.Uneventful time) {r : Except (Received T) (Option T)}
    (h : Looks k interval (some (limit, d)) st steps r st') :
    r = .error (.timedOut limit) ∨
      ∃ now, r = .ok (pollWait interval (some (d - now))) ∧ time st ≤ now ∧ now ≤ time st' ∧
        now < d := by
  cases h with
  | cancelled hasks => cases (hasks.of_uneventful hk).1
  | untimed hasks hdeadline => cases hdeadline
  | expired hasks hdeadline hclock hpassed =>
    cases hdeadline
    exact .inl rfl
  | timed hasks hdeadline hclock hleft =>
    cases hdeadline
    obtain ⟨hafter, hbefore⟩ := hk.now _ _ _ hclock
    exact .inr ⟨_, rfl, (hasks.of_uneventful hk).2.trans hafter, hbefore,
      sub_pos.mp (not_le.mp hleft)⟩

/-- A round ends at the deadline, or it polls once, until the deadline or for an interval. -/
lemma Round.of_uneventful (hk : k.Uneventful time) (hinterval : ∀ i, interval = some i → 0 < i)
    {r : Option (Received T)} (h : Round k s interval (some (limit, d)) st steps r st') :
    (r = some (.timedOut limit) ∧ steps.countP WaitStep.isPoll = 0) ∨
      (r = none ∧ time st < d ∧
        (d ≤ time st' ∨ ∃ i, interval = some i ∧ time st + i ≤ time st')) := by
  cases h with
  | ended hlooks =>
    obtain hended | ⟨now, hwait, -⟩ := hlooks.of_uneventful hk
    · cases hended
      exact .inl ⟨rfl, hlooks.countP_isPoll⟩
    · cases hwait
  | @polled st₁ _ _ _ wait _ hlooks hpolls =>
    obtain hended | ⟨now, hwait, hafter, hbefore, hleft⟩ := hlooks.of_uneventful hk
    · cases hended
    cases wait with
    | none => cases (pollWait_eq_none_iff.mp (Except.ok.inj hwait).symm).2
    | some w =>
      have hw := (of_pollWait_eq_some (Except.ok.inj hwait).symm).1
      have hpos : 0 < w := hw.elim (hinterval w) fun hremaining =>
        Option.some.inj hremaining ▸ sub_pos.mpr hleft
      obtain ⟨rfl, hpassed⟩ := hpolls.of_uneventful hk hpos
      refine .inr ⟨rfl, hafter.trans_lt hleft, ?_⟩
      obtain hslice | hremaining := hw
      · exact .inr ⟨w, hslice, (add_le_add_left (hafter.trans hbefore) w).trans hpassed⟩
      · obtain rfl := Option.some.inj hremaining
        left
        calc d = now + (d - now) := (add_sub_cancel now d).symm
          _ ≤ time st₁ + (d - now) := add_le_add_left hbefore _
          _ ≤ time st' := hpassed

/-- A wait times out within so many polls if they are enough to reach the deadline: none where it
has passed, otherwise one where there is no interval, or so many that their intervals reach it. -/
lemma Waits.of_uneventful (hk : k.Uneventful time) (hinterval : ∀ i, interval = some i → 0 < i)
    (h : Waits k s interval (some (limit, d)) polls st steps ended st') {most : Nat}
    (hnone : most = 0 → d ≤ time st) (hmost : ∀ i, interval = some i → d ≤ time st + most • i)
    (hpolls : most < polls) :
    ended = .timedOut limit ∧ steps.countP WaitStep.isPoll ≤ most := by
  induction h generalizing most with
  | exhausted => cases hpolls
  | ended hround =>
    obtain ⟨hended, hcount⟩ | ⟨hended, -⟩ := hround.of_uneventful hk hinterval
    · exact ⟨Option.some.inj hended, hcount ▸ Nat.zero_le most⟩
    · cases hended
  | @again _ st st₁ _ _ _ _ hround _ ih =>
    obtain ⟨hended, -⟩ | ⟨-, hleft, hpassed⟩ := hround.of_uneventful hk hinterval
    · cases hended
    cases most with
    | zero => exact absurd (hnone rfl) hleft.not_ge
    | succ most =>
      have hreached : ∀ i, interval = some i → d ≤ time st₁ + most • i := by
        intro i hi
        obtain hreached | ⟨_, hi', hslice⟩ := hpassed
        · exact hreached.trans (le_add_of_nonneg_right (nsmul_nonneg (hinterval i hi).le most))
        · obtain rfl := Option.some.inj (hi.symm.trans hi')
          calc d ≤ time st + (most + 1) • i := hmost i hi
            _ = time st + i + most • i := by rw [succ_nsmul', add_assoc]
            _ ≤ time st₁ + most • i := add_le_add_left hslice _
      have hdone : most = 0 → d ≤ time st₁ := by
        rintro rfl
        obtain hreached | ⟨i, hi, -⟩ := hpassed
        · exact hreached
        · simpa using hreached i hi
      obtain ⟨hended, hcount⟩ := ih hdone hreached (Nat.lt_of_succ_lt_succ hpolls)
      refine ⟨hended, ?_⟩
      rw [List.countP_append, hround.of_none.2]
      omega

/-- So does a whole wait. -/
lemma Receives.of_uneventful (hk : k.Uneventful time) (hinterval : ∀ i, interval = some i → 0 < i)
    (h : Receives k s interval (some limit) polls st steps ended st') {most : Nat}
    (hnone : most = 0 → limit ≤ 0) (hmost : ∀ i, interval = some i → limit ≤ most • i)
    (hpolls : most < polls) :
    ended = .timedOut limit ∧ steps.countP WaitStep.isPoll ≤ most := by
  cases h with
  | @intro st₁ _ _ _ _ _ hsets hwaits =>
    cases hsets with
    | @timed _ start _ _ hclock =>
      have hstart : start ≤ time st₁ := (hk.now _ _ _ hclock).2
      have hcount := hwaits.of_uneventful hk hinterval
        (fun hzero => by simpa using add_le_add hstart (hnone hzero))
        (fun i hi => add_le_add hstart (hmost i hi)) hpolls
      rw [List.countP_append]
      simpa [WaitStep.isPoll] using hcount

/-- Hence more polls than are needed change nothing of it. -/
lemma exists_receive_timedOut (hk : k.Uneventful time) (s : DatagramSession)
    (hinterval : ∀ i, interval = some i → 0 < i) {most : Nat} (hnone : most = 0 → limit ≤ 0)
    (hmost : ∀ i, interval = some i → limit ≤ most • i) (st : σ) :
    ∃ st' steps, steps.countP WaitStep.isPoll ≤ most ∧ ∀ polls, most < polls →
      (receive k s interval (some limit) polls).run st = (.timedOut limit, st') ∧
        (receive k.followed s interval (some limit) polls).run (st, []) =
          (.timedOut limit, st', steps) := by
  obtain ⟨steps, ended, st', hreceives⟩ :=
    exists_receives k s interval (some limit) (most + 1) st
  obtain ⟨rfl, hcount⟩ := hreceives.of_uneventful hk hinterval hnone hmost (Nat.lt_succ_self _)
  refine ⟨st', steps, hcount, fun polls hpolls => ?_⟩
  have hmore := hreceives.of_le (by simp) hpolls
  exact ⟨hmore.run, hmore.followed [] |>.run⟩

end

/-- While nothing happens, a wait times out: with an interval after no more polls than there are
intervals in its timeout, and without one after a single poll at the most. -/
theorem receive_timedOut_of_uneventful [Field T] [LinearOrder T] [IsStrictOrderedRing T]
    [FloorSemiring T] {time : σ → T} (hk : k.Uneventful time) (s : DatagramSession) {i : T}
    (hi : 0 < i) (limit : T) (st : σ) :
    (∃ st' steps, steps.countP WaitStep.isPoll ≤ ⌈limit / i⌉₊ ∧
      ∀ polls, ⌈limit / i⌉₊ < polls →
        (receive k s (some i) (some limit) polls).run st = (.timedOut limit, st') ∧
          (receive k.followed s (some i) (some limit) polls).run (st, []) =
            (.timedOut limit, st', steps)) ∧
      ∃ st' steps, steps.countP WaitStep.isPoll ≤ 1 ∧
        ∀ polls, 1 < polls →
          (receive k s none (some limit) polls).run st = (.timedOut limit, st') ∧
            (receive k.followed s none (some limit) polls).run (st, []) =
              (.timedOut limit, st', steps) := by
  have hceil : limit ≤ ⌈limit / i⌉₊ * i := (div_le_iff₀ hi).mp (Nat.le_ceil _)
  constructor
  · refine exists_receive_timedOut hk s ?_ ?_ ?_ st
    · rintro _ ⟨⟩
      exact hi
    · intro hzero
      rw [hzero] at hceil
      simpa using hceil
    · rintro _ ⟨⟩
      rwa [nsmul_eq_mul]
  · exact exists_receive_timedOut hk s (by simp) (by simp) (by simp) st

end DatagramSession

/-- Sockets at which time passes in polls and nothing else happens. -/
def idleSockets : Sockets ℚ (StateM ℚ) where
  create _ := pure ()
  bind _ := pure ()
  connect _ := pure ()
  localPort := pure 0
  send _ := pure ()
  awaitReadable wait := .mk fun time => (.ok false, time + wait.getD 0)
  receive _ := throw ⟨"Resource temporarily unavailable"⟩
  close := pure ()
  now time := (time, time)
  cancelled := pure false
  log _ := pure ()

lemma idleSockets_uneventful : idleSockets.Uneventful id where
  now time reading time' h := by
    cases h
    exact ⟨le_refl _, le_refl _⟩
  cancelled time set time' h := by
    cases h
    exact ⟨rfl, le_refl _⟩
  awaitReadable wait time outcome time' _ h := by
    cases h
    exact ⟨rfl, le_refl _⟩

namespace DatagramSession

/-- Two polls of a tenth and one of a twentieth use up a quarter of a second. -/
theorem receive_timedOut_of_idleSockets :
    let s : DatagramSession := ⟨near, far, 2500⟩
    idleSockets.Uneventful id ∧ (0 : ℚ) < 1 / 10 ∧
      (receive idleSockets s (some (1 / 10)) (some (1 / 4)) 3).run 0 = (.waiting, 1 / 4) ∧
      (∃ time steps, steps.countP WaitStep.isPoll ≤ 3 ∧ ∀ polls, 3 < polls →
        (receive idleSockets s (some (1 / 10)) (some (1 / 4)) polls).run 0 =
            (.timedOut (1 / 4), time) ∧
          (receive idleSockets.followed s (some (1 / 10)) (some (1 / 4)) polls).run (0, []) =
            (.timedOut (1 / 4), time, steps)) ∧
      ∃ time steps, steps.countP WaitStep.isPoll ≤ 1 ∧ ∀ polls, 1 < polls →
        (receive idleSockets s none (some (1 / 4)) polls).run 0 = (.timedOut (1 / 4), time) ∧
          (receive idleSockets.followed s none (some (1 / 4)) polls).run (0, []) =
            (.timedOut (1 / 4), time, steps) := by
  intro s
  have hinterval : (0 : ℚ) < 1 / 10 := by norm_num
  have hceil : ⌈(1 / 4 : ℚ) / (1 / 10)⌉₊ = 3 := by
    rw [Nat.ceil_eq_iff (by decide)]
    norm_num
  obtain ⟨hsliced, hwhole⟩ :=
    receive_timedOut_of_uneventful idleSockets_uneventful s hinterval (1 / 4) 0
  rw [hceil] at hsliced
  have hthree : Prod.mk (Received.waiting : Received ℚ) (1 / 4 : ℚ) =
      (receive idleSockets s (some (1 / 10)) (some (1 / 4)) 3).run 0 := by
    decide +kernel
  exact ⟨idleSockets_uneventful, hinterval, hthree.symm, hsliced, hwhole⟩

end DatagramSession

end ScionEcho
