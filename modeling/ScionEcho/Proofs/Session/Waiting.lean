import Mathlib.Algebra.Order.Group.Int
import Mathlib.Algebra.Order.Group.Unbundled.Basic
import Mathlib.Data.List.Basic
import ScionEcho.Proofs.Session.Failures

/-!
# Waiting for a datagram

A wait goes round by round: a look at the cancellation event, a look at the clock, and a poll. The
sockets are made to keep a list of these steps, which changes nothing of the wait. In exact
arithmetic the list shows when a wait times out, how long its polls may take, that nothing is done
once the event was seen, and when a datagram is read.
-/

namespace ScionEcho

variable {T σ α : Type}

/-- A step of a wait, and what it yields. -/
inductive WaitStep (T : Type)
  | clock (reading : T)
  | event (set : Bool)
  | poll (wait : Option T) (outcome : Except OsError Bool)
  | read (size : Int) (outcome : Except OsError Bytes)

namespace WaitStep

def isPoll : WaitStep T → Bool
  | .poll _ _ => true
  | _ => false

/-- Every poll among the steps reports that there is no datagram. -/
def Unheard (steps : List (WaitStep T)) : Prop :=
  ∀ wait outcome, .poll wait outcome ∈ steps → outcome = .ok false

@[simp] lemma unheard_nil : Unheard ([] : List (WaitStep T)) := by
  simp [Unheard]

@[simp] lemma unheard_append {earlier later : List (WaitStep T)} :
    Unheard (earlier ++ later) ↔ Unheard earlier ∧ Unheard later := by
  simp only [Unheard, List.mem_append, or_imp, forall_and]

end WaitStep

/-- An operation that is added to the list with what it yields. -/
def followed (step : α → WaitStep T) (x : StateM σ α) : StateM (σ × List (WaitStep T)) α :=
  fun (st, steps) => ((x.run st).1, (x.run st).2, steps ++ [step (x.run st).1])

/-- An operation that is not added to the list. -/
def unfollowed (x : StateM σ α) : StateM (σ × List (WaitStep T)) α :=
  fun (st, steps) => ((x.run st).1, (x.run st).2, steps)

/-- The sockets, which also keep a list of the steps of waits. -/
def Sockets.followed (k : Sockets T (StateM σ)) :
    Sockets T (StateM (σ × List (WaitStep T))) where
  create family := .mk (unfollowed (k.create family).run)
  bind address := .mk (unfollowed (k.bind address).run)
  connect address := .mk (unfollowed (k.connect address).run)
  localPort := .mk (unfollowed k.localPort.run)
  send data := .mk (unfollowed (k.send data).run)
  awaitReadable wait := .mk (ScionEcho.followed (.poll wait) (k.awaitReadable wait).run)
  receive size := .mk (ScionEcho.followed (.read size) (k.receive size).run)
  close := unfollowed k.close
  now := ScionEcho.followed .clock k.now
  cancelled := ScionEcho.followed .event k.cancelled
  log record := unfollowed (k.log record)

lemma run_followed {step : α → WaitStep T} {x : StateM σ α} {a : α} {st st' : σ}
    (h : x.run st = (a, st')) (earlier : List (WaitStep T)) :
    (ScionEcho.followed step x).run (st, earlier) = (a, st', earlier ++ [step a]) := by
  change ((x.run st).1, (x.run st).2, earlier ++ [step (x.run st).1]) = _
  rw [h]

namespace DatagramSession

variable {k : Sockets T (StateM σ)} {s : DatagramSession} {interval : Option T} {st st' : σ}
  {steps : List (WaitStep T)}

/-! ### The event -/

/-- The event is looked at, if there is an interval for that; whether it is set. -/
inductive Asks (k : Sockets T (StateM σ)) (interval : Option T) :
    σ → List (WaitStep T) → Bool → σ → Prop
  | unasked {st : σ} (hinterval : interval = none) : Asks k interval st [] false st
  | asked {st st' : σ} {i : T} {set : Bool} (hinterval : interval = some i)
      (hevent : k.cancelled.run st = (set, st')) : Asks k interval st [.event set] set st'

lemma exists_asks (k : Sockets T (StateM σ)) (interval : Option T) (st : σ) :
    ∃ steps set st', Asks k interval st steps set st' := by
  cases interval with
  | none => exact ⟨[], false, st, .unasked rfl⟩
  | some i => exact ⟨_, _, _, .asked rfl rfl⟩

lemma Asks.run {set : Bool} (h : Asks k interval st steps set st') :
    (isCancelled k interval).run st = (set, st') := by
  cases h with
  | unasked hinterval =>
    rw [hinterval]
    rfl
  | asked hinterval hevent =>
    rw [hinterval]
    exact hevent

lemma Asks.followed {set : Bool} (h : Asks k interval st steps set st')
    (earlier : List (WaitStep T)) :
    Asks k.followed interval (st, earlier) steps set (st', earlier ++ steps) := by
  cases h with
  | unasked hinterval =>
    rw [List.append_nil]
    exact .unasked hinterval
  | asked hinterval hevent => exact .asked hinterval (run_followed hevent earlier)

lemma Asks.exists_eq_event {set : Bool} (h : Asks k interval st steps set st') {x : WaitStep T}
    (hx : x ∈ steps) : ∃ seen, x = .event seen := by
  cases h with
  | unasked hinterval => simp at hx
  | asked hinterval hevent => exact ⟨set, List.mem_singleton.mp hx⟩

lemma Asks.eq_singleton {set : Bool} {i : T} (h : Asks k interval st steps set st')
    (hinterval : interval = some i) : steps = [.event set] := by
  cases h with
  | unasked hnone => simp [hnone] at hinterval
  | asked _ hevent => rfl

lemma Asks.eq_of_event {set : Bool} (h : Asks k interval st steps set st')
    (hevent : .event true ∈ steps) : steps = [.event true] ∧ set = true := by
  cases h with
  | unasked hinterval => simp at hevent
  | asked hinterval hlook =>
    obtain rfl : set = true := by simpa [eq_comm] using hevent
    exact ⟨rfl, rfl⟩

/-! ### Polls -/

/-- The end of a wait that reads with the given outcome. -/
def Received.ofRead : Except OsError Bytes → Received T
  | .ok bytes => .data bytes
  | .error cause => .failed cause

/-- A poll, and the reading of a datagram exactly if there is one; how the wait ends, if it does. -/
inductive Polls (k : Sockets T (StateM σ)) (s : DatagramSession) (wait : Option T) :
    σ → List (WaitStep T) → Option (Received T) → σ → Prop
  | failed {st st' : σ} {cause : OsError}
      (hpoll : execute (k.awaitReadable wait) st = (.error cause, st')) :
      Polls k s wait st [.poll wait (.error cause)] (some (.failed cause)) st'
  | unreadable {st st' : σ} (hpoll : execute (k.awaitReadable wait) st = (.ok false, st')) :
      Polls k s wait st [.poll wait (.ok false)] none st'
  | unread {st st₁ st' : σ} {cause : OsError}
      (hpoll : execute (k.awaitReadable wait) st = (.ok true, st₁))
      (hread : execute (k.receive s.recvBuffer) st₁ = (.error cause, st')) :
      Polls k s wait st [.poll wait (.ok true), .read s.recvBuffer (.error cause)]
        (some (.failed cause)) st'
  | data {st st₁ st' : σ} {bytes : Bytes}
      (hpoll : execute (k.awaitReadable wait) st = (.ok true, st₁))
      (hread : execute (k.receive s.recvBuffer) st₁ = (.ok bytes, st')) :
      Polls k s wait st [.poll wait (.ok true), .read s.recvBuffer (.ok bytes)]
        (some (.data bytes)) st'

lemma exists_polls (k : Sockets T (StateM σ)) (s : DatagramSession) (wait : Option T) (st : σ) :
    ∃ steps r st', Polls k s wait st steps r st' := by
  rcases hpoll : execute (k.awaitReadable wait) st with ⟨cause | readable, st₁⟩
  · exact ⟨_, _, _, .failed hpoll⟩
  · cases readable with
    | false => exact ⟨_, _, _, .unreadable hpoll⟩
    | true =>
      rcases hread : execute (k.receive s.recvBuffer) st₁ with ⟨cause | bytes, st₂⟩
      · exact ⟨_, _, _, .unread hpoll hread⟩
      · exact ⟨_, _, _, .data hpoll hread⟩

lemma Polls.run {wait : Option T} {r : Option (Received T)} (h : Polls k s wait st steps r st') :
    (poll k s wait).run st = (r, st') := by
  rw [poll]
  cases h with
  | failed hpoll =>
    rw [run_bind_of_eq hpoll]
    rfl
  | unreadable hpoll =>
    rw [run_bind_of_eq hpoll]
    rfl
  | unread hpoll hread =>
    rw [run_bind_of_eq hpoll]
    dsimp only
    rw [run_bind_of_eq hread]
    rfl
  | data hpoll hread =>
    rw [run_bind_of_eq hpoll]
    dsimp only
    rw [run_bind_of_eq hread]
    rfl

lemma Polls.followed {wait : Option T} {r : Option (Received T)}
    (h : Polls k s wait st steps r st') (earlier : List (WaitStep T)) :
    Polls k.followed s wait (st, earlier) steps r (st', earlier ++ steps) := by
  cases h with
  | failed hpoll => exact .failed (run_followed hpoll earlier)
  | unreadable hpoll => exact .unreadable (run_followed hpoll earlier)
  | unread hpoll hread =>
    rw [List.append_cons]
    exact .unread (run_followed hpoll earlier) (run_followed hread _)
  | data hpoll hread =>
    rw [List.append_cons]
    exact .data (run_followed hpoll earlier) (run_followed hread _)

lemma Polls.eq_cons {wait : Option T} {r : Option (Received T)}
    (h : Polls k s wait st steps r st') :
    ∃ outcome rest, steps = .poll wait outcome :: rest ∧ ∀ w o, .poll w o ∉ rest := by
  cases h with
  | failed hpoll => exact ⟨_, _, rfl, by simp⟩
  | unreadable hpoll => exact ⟨_, _, rfl, by simp⟩
  | unread hpoll hread => exact ⟨_, _, rfl, by simp⟩
  | data hpoll hread => exact ⟨_, _, rfl, by simp⟩

lemma Polls.event_notMem {wait : Option T} {r : Option (Received T)}
    (h : Polls k s wait st steps r st') (set : Bool) : .event set ∉ steps := by
  cases h <;> simp

/-- A datagram is read last, after a poll that reports it. -/
lemma Polls.of_read {wait : Option T} {r : Option (Received T)} {size : Int}
    {outcome : Except OsError Bytes} (h : Polls k s wait st steps r st')
    (hread : .read size outcome ∈ steps) :
    steps = [.poll wait (.ok true), .read size outcome] ∧ size = s.recvBuffer ∧
      r = some (.ofRead outcome) := by
  cases h with
  | failed hpoll => simp at hread
  | unreadable hpoll => simp at hread
  | unread hpoll hunread =>
    obtain ⟨rfl, rfl⟩ : size = s.recvBuffer ∧ outcome = _ := by simpa using hread
    exact ⟨rfl, rfl, rfl⟩
  | data hpoll hdata =>
    obtain ⟨rfl, rfl⟩ : size = s.recvBuffer ∧ outcome = _ := by simpa using hread
    exact ⟨rfl, rfl, rfl⟩

/-! ### The deadline -/

/-- A deadline is set by looking at the clock, if there is a timeout. -/
inductive Sets [Add T] (k : Sockets T (StateM σ)) :
    Option T → σ → List (WaitStep T) → Option (T × T) → σ → Prop
  | untimed {st : σ} : Sets k none st [] none st
  | timed {limit start : T} {st st' : σ} (hclock : k.now.run st = (start, st')) :
      Sets k (some limit) st [.clock start] (some (limit, start + limit)) st'

section

variable [Add T] {timeout : Option T} {deadline : Option (T × T)}

lemma exists_sets (k : Sockets T (StateM σ)) (timeout : Option T) (st : σ) :
    ∃ opening deadline st', Sets k timeout st opening deadline st' := by
  cases timeout with
  | none => exact ⟨_, _, _, .untimed⟩
  | some limit => exact ⟨_, _, _, .timed rfl⟩

lemma Sets.followed {opening : List (WaitStep T)} (h : Sets k timeout st opening deadline st')
    (earlier : List (WaitStep T)) :
    Sets k.followed timeout (st, earlier) opening deadline (st', earlier ++ opening) := by
  cases h with
  | untimed =>
    rw [List.append_nil]
    exact .untimed
  | timed hclock => exact .timed (run_followed hclock earlier)

lemma Sets.unheard {opening : List (WaitStep T)} (h : Sets k timeout st opening deadline st') :
    WaitStep.Unheard opening := by
  cases h <;> simp [WaitStep.Unheard]

end

/-! ### Rounds -/

section

variable [OfNat T 0] [Sub T] [LT T] [LE T] [DecidableLT T]
variable {deadline : Option (T × T)} {polls : Nat} {ended : Received T}

/-- What precedes a poll: the end of the wait, or the longest wait of the poll. The clock is looked
at if there is a deadline and the event is not seen set. -/
inductive Looks (k : Sockets T (StateM σ)) (interval : Option T) (deadline : Option (T × T)) :
    σ → List (WaitStep T) → Except (Received T) (Option T) → σ → Prop
  | cancelled {st st' : σ} {asked : List (WaitStep T)} (hasks : Asks k interval st asked true st') :
      Looks k interval deadline st asked (.error .cancelled) st'
  | untimed {st st' : σ} {asked : List (WaitStep T)} (hasks : Asks k interval st asked false st')
      (hdeadline : deadline = none) :
      Looks k interval deadline st asked (.ok (pollWait interval none)) st'
  | expired {st st₁ st' : σ} {asked : List (WaitStep T)} {limit d now : T}
      (hasks : Asks k interval st asked false st₁) (hdeadline : deadline = some (limit, d))
      (hclock : k.now.run st₁ = (now, st')) (hpassed : d - now ≤ 0) :
      Looks k interval deadline st (asked ++ [.clock now]) (.error (.timedOut limit)) st'
  | timed {st st₁ st' : σ} {asked : List (WaitStep T)} {limit d now : T}
      (hasks : Asks k interval st asked false st₁) (hdeadline : deadline = some (limit, d))
      (hclock : k.now.run st₁ = (now, st')) (hleft : ¬ d - now ≤ 0) :
      Looks k interval deadline st (asked ++ [.clock now])
        (.ok (pollWait interval (some (d - now)))) st'

/-- The looks of a round and its poll; how the wait ends, if it does. -/
inductive Round (k : Sockets T (StateM σ)) (s : DatagramSession) (interval : Option T)
    (deadline : Option (T × T)) : σ → List (WaitStep T) → Option (Received T) → σ → Prop
  | ended {st st' : σ} {looks : List (WaitStep T)} {ended : Received T}
      (hlooks : Looks k interval deadline st looks (.error ended) st') :
      Round k s interval deadline st looks (some ended) st'
  | polled {st st₁ st' : σ} {looks polled : List (WaitStep T)} {wait : Option T}
      {r : Option (Received T)} (hlooks : Looks k interval deadline st looks (.ok wait) st₁)
      (hpolls : Polls k s wait st₁ polled r st') :
      Round k s interval deadline st (looks ++ polled) r st'

/-- The rounds of a wait with so many polls, of which only the last one ends it. A wait whose polls
are all made is not decided. -/
inductive Waits (k : Sockets T (StateM σ)) (s : DatagramSession) (interval : Option T)
    (deadline : Option (T × T)) : Nat → σ → List (WaitStep T) → Received T → σ → Prop
  | exhausted {st : σ} : Waits k s interval deadline 0 st [] .waiting st
  | ended {polls : Nat} {st st' : σ} {steps : List (WaitStep T)} {ended : Received T}
      (hround : Round k s interval deadline st steps (some ended) st') :
      Waits k s interval deadline (polls + 1) st steps ended st'
  | again {polls : Nat} {st st₁ st' : σ} {steps later : List (WaitStep T)} {ended : Received T}
      (hround : Round k s interval deadline st steps none st₁)
      (hrest : Waits k s interval deadline polls st₁ later ended st') :
      Waits k s interval deadline (polls + 1) st (steps ++ later) ended st'

lemma exists_looks (k : Sockets T (StateM σ)) (interval : Option T) (deadline : Option (T × T))
    (st : σ) : ∃ steps r st', Looks k interval deadline st steps r st' := by
  obtain ⟨asked, set, st₁, hasks⟩ := exists_asks k interval st
  cases set with
  | true => exact ⟨_, _, _, .cancelled hasks⟩
  | false =>
    match deadline with
    | none => exact ⟨_, _, _, .untimed hasks rfl⟩
    | some (limit, d) =>
      by_cases hpassed : d - (k.now.run st₁).1 ≤ 0
      · exact ⟨_, _, _, .expired hasks rfl rfl hpassed⟩
      · exact ⟨_, _, _, .timed hasks rfl rfl hpassed⟩

lemma exists_round (k : Sockets T (StateM σ)) (s : DatagramSession) (interval : Option T)
    (deadline : Option (T × T)) (st : σ) :
    ∃ steps r st', Round k s interval deadline st steps r st' := by
  obtain ⟨looks, looked, st₁, hlooks⟩ := exists_looks k interval deadline st
  cases looked with
  | error ended => exact ⟨_, _, _, .ended hlooks⟩
  | ok wait =>
    obtain ⟨polled, r, st₂, hpolls⟩ := exists_polls k s wait st₁
    exact ⟨_, _, _, .polled hlooks hpolls⟩

lemma exists_waits (k : Sockets T (StateM σ)) (s : DatagramSession) (interval : Option T)
    (deadline : Option (T × T)) (polls : Nat) (st : σ) :
    ∃ steps ended st', Waits k s interval deadline polls st steps ended st' := by
  induction polls generalizing st with
  | zero => exact ⟨_, _, _, .exhausted⟩
  | succ polls ih =>
    obtain ⟨steps, r, st₁, hround⟩ := exists_round k s interval deadline st
    cases r with
    | some ended => exact ⟨_, _, _, .ended hround⟩
    | none =>
      obtain ⟨later, ended, st₂, hrest⟩ := ih st₁
      exact ⟨_, _, _, .again hround hrest⟩

lemma Looks.followed {r : Except (Received T) (Option T)}
    (h : Looks k interval deadline st steps r st') (earlier : List (WaitStep T)) :
    Looks k.followed interval deadline (st, earlier) steps r (st', earlier ++ steps) := by
  cases h with
  | cancelled hasks => exact .cancelled (hasks.followed earlier)
  | untimed hasks hdeadline => exact .untimed (hasks.followed earlier) hdeadline
  | expired hasks hdeadline hclock hpassed =>
    rw [← List.append_assoc]
    exact .expired (hasks.followed earlier) hdeadline (run_followed hclock _) hpassed
  | timed hasks hdeadline hclock hleft =>
    rw [← List.append_assoc]
    exact .timed (hasks.followed earlier) hdeadline (run_followed hclock _) hleft

lemma Round.followed {r : Option (Received T)} (h : Round k s interval deadline st steps r st')
    (earlier : List (WaitStep T)) :
    Round k.followed s interval deadline (st, earlier) steps r (st', earlier ++ steps) := by
  cases h with
  | ended hlooks => exact .ended (hlooks.followed earlier)
  | polled hlooks hpolls =>
    rw [← List.append_assoc]
    exact .polled (hlooks.followed earlier) (hpolls.followed _)

lemma Waits.followed (h : Waits k s interval deadline polls st steps ended st')
    (earlier : List (WaitStep T)) :
    Waits k.followed s interval deadline polls (st, earlier) steps ended
      (st', earlier ++ steps) := by
  induction h generalizing earlier with
  | exhausted =>
    rw [List.append_nil]
    exact .exhausted
  | ended hround => exact .ended (hround.followed earlier)
  | again hround _ ih =>
    rw [← List.append_assoc]
    exact .again (hround.followed earlier) (ih _)

/-! ### The round of a step -/

/-- Before the poll of a round only the event and the clock are looked at. -/
lemma Looks.eq_event_or_clock {r : Except (Received T) (Option T)}
    (h : Looks k interval deadline st steps r st') {x : WaitStep T} (hx : x ∈ steps) :
    (∃ set, x = .event set) ∨ ∃ reading, x = .clock reading := by
  cases h with
  | cancelled hasks => exact .inl (hasks.exists_eq_event hx)
  | untimed hasks hdeadline => exact .inl (hasks.exists_eq_event hx)
  | expired hasks hdeadline hclock hpassed =>
    rcases List.mem_append.mp hx with hx | hx
    · exact .inl (hasks.exists_eq_event hx)
    · exact .inr ⟨_, List.mem_singleton.mp hx⟩
  | timed hasks hdeadline hclock hleft =>
    rcases List.mem_append.mp hx with hx | hx
    · exact .inl (hasks.exists_eq_event hx)
    · exact .inr ⟨_, List.mem_singleton.mp hx⟩

lemma Looks.poll_notMem {r : Except (Received T) (Option T)}
    (h : Looks k interval deadline st steps r st') (wait : Option T)
    (outcome : Except OsError Bool) : .poll wait outcome ∉ steps := by
  intro hx
  simpa using h.eq_event_or_clock hx

lemma Looks.read_notMem {r : Except (Received T) (Option T)}
    (h : Looks k interval deadline st steps r st') (size : Int)
    (outcome : Except OsError Bytes) : .read size outcome ∉ steps := by
  intro hx
  simpa using h.eq_event_or_clock hx

lemma Looks.unheard {r : Except (Received T) (Option T)}
    (h : Looks k interval deadline st steps r st') : WaitStep.Unheard steps :=
  fun wait outcome hx => absurd hx (h.poll_notMem wait outcome)

lemma Looks.countP_isPoll {r : Except (Received T) (Option T)}
    (h : Looks k interval deadline st steps r st') : steps.countP WaitStep.isPoll = 0 :=
  List.countP_eq_zero.mpr fun x hx => by
    obtain ⟨set, rfl⟩ | ⟨reading, rfl⟩ := h.eq_event_or_clock hx <;> simp [WaitStep.isPoll]

lemma Looks.eq_of_event {r : Except (Received T) (Option T)}
    (h : Looks k interval deadline st steps r st') (hevent : .event true ∈ steps) :
    steps = [.event true] ∧ r = .error .cancelled := by
  cases h with
  | cancelled hasks => exact ⟨(hasks.eq_of_event hevent).1, rfl⟩
  | untimed hasks hdeadline => cases (hasks.eq_of_event hevent).2
  | expired hasks hdeadline hclock hpassed =>
    cases (hasks.eq_of_event (by simpa using hevent)).2
  | timed hasks hdeadline hclock hleft =>
    cases (hasks.eq_of_event (by simpa using hevent)).2

/-- In a round that sees the event set, nothing else is done. -/
lemma Round.eq_of_event {r : Option (Received T)} (h : Round k s interval deadline st steps r st')
    (hevent : .event true ∈ steps) : steps = [.event true] ∧ r = some .cancelled := by
  cases h with
  | ended hlooks =>
    obtain ⟨hsteps, hended⟩ := hlooks.eq_of_event hevent
    injection hended with hended
    exact ⟨hsteps, congrArg some hended⟩
  | polled hlooks hpolls =>
    have hlook := (List.mem_append.mp hevent).resolve_right (hpolls.event_notMem true)
    cases (hlooks.eq_of_event hlook).2

/-- A datagram is read last in its round, after the only poll of the round has reported it. -/
lemma Round.of_read {r : Option (Received T)} {within rest : List (WaitStep T)} {size : Int}
    {outcome : Except OsError Bytes}
    (h : Round k s interval deadline st (within ++ .read size outcome :: rest) r st') :
    rest = [] ∧ size = s.recvBuffer ∧ r = some (.ofRead outcome) ∧
      ∃ looks wait, within = looks ++ [.poll wait (.ok true)] ∧ WaitStep.Unheard looks := by
  generalize hsteps : within ++ .read size outcome :: rest = steps at h
  cases h with
  | ended hlooks =>
    exact absurd (by simp [← hsteps]) (hlooks.read_notMem size outcome)
  | @polled _ _ looks polled wait _ hlooks hpolls =>
    have hmem : .read size outcome ∈ polled := by
      have hmem : .read size outcome ∈ looks ++ polled := by simp [← hsteps]
      exact (List.mem_append.mp hmem).resolve_left (hlooks.read_notMem size outcome)
    obtain ⟨rfl, hsize, hr⟩ := hpolls.of_read hmem
    rw [List.append_cons looks] at hsteps
    have hnotMem : .read size outcome ∉ looks ++ [.poll wait (.ok true)] := by
      simpa using hlooks.read_notMem size outcome
    obtain ⟨rfl, -, rfl⟩ :=
      (List.append_cons_inj_of_notMem hnotMem List.not_mem_nil).mp hsteps.symm
    exact ⟨rfl, hsize, hr, looks, wait, rfl, hlooks.unheard⟩

/-- The only poll of a round follows its looks, and the only reading follows a poll that reports a
datagram. -/
lemma Round.of_poll {r : Option (Received T)} {within rest : List (WaitStep T)} {wait : Option T}
    {outcome : Except OsError Bool}
    (h : Round k s interval deadline st (within ++ .poll wait outcome :: rest) r st') :
    ∃ st₁, Looks k interval deadline st within (.ok wait) st₁ ∧
      Polls k s wait st₁ (.poll wait outcome :: rest) r st' := by
  generalize hsteps : within ++ .poll wait outcome :: rest = steps at h
  cases h with
  | ended hlooks =>
    exact absurd (by simp [← hsteps]) (hlooks.poll_notMem wait outcome)
  | polled hlooks hpolls =>
    obtain ⟨outcome', tail, rfl, htail⟩ := hpolls.eq_cons
    obtain ⟨rfl, hpoll, rfl⟩ := (List.append_cons_inj_of_notMem
      (hlooks.poll_notMem wait outcome) (htail wait outcome)).mp hsteps.symm
    injection hpoll with hwait houtcome
    subst hwait houtcome
    exact ⟨_, hlooks, hpolls⟩

/-- A round that leaves the wait undecided has one poll, which reports no datagram. -/
lemma Round.of_none (h : Round k s interval deadline st steps none st') :
    WaitStep.Unheard steps ∧ steps.countP WaitStep.isPoll = 1 := by
  cases h with
  | polled hlooks hpolls =>
    cases hpolls with
    | unreadable hpoll =>
      refine ⟨WaitStep.unheard_append.mpr ⟨hlooks.unheard, by simp [WaitStep.Unheard]⟩, ?_⟩
      rw [List.countP_append, hlooks.countP_isPoll]
      rfl

lemma Round.of_readable {r : Option (Received T)} {within rest : List (WaitStep T)}
    {wait : Option T}
    (h : Round k s interval deadline st (within ++ .poll wait (.ok true) :: rest) r st') :
    ∃ outcome, rest = [.read s.recvBuffer outcome] ∧ r = some (.ofRead outcome) := by
  obtain ⟨st₁, -, hpolls⟩ := h.of_poll
  cases hpolls with
  | unread hpoll hread => exact ⟨_, rfl, rfl⟩
  | data hpoll hread => exact ⟨_, rfl, rfl⟩

lemma Round.of_data {bytes : Bytes}
    (h : Round k s interval deadline st steps (some (.data bytes)) st') :
    .read s.recvBuffer (.ok bytes) ∈ steps := by
  cases h with
  | ended hlooks => cases hlooks
  | polled _ hpolls =>
    cases hpolls with
    | data hpoll hread => simp

lemma Round.of_failed {cause : OsError}
    (h : Round k s interval deadline st steps (some (.failed cause)) st') :
    (∃ wait, .poll wait (.error cause) ∈ steps) ∨ .read s.recvBuffer (.error cause) ∈ steps := by
  cases h with
  | ended hlooks => cases hlooks
  | @polled _ _ _ _ wait _ _ hpolls =>
    cases hpolls with
    | failed hpoll => exact .inl ⟨wait, by simp⟩
    | unread hpoll hread => exact .inr (by simp)

lemma Round.of_cancelled (h : Round k s interval deadline st steps (some .cancelled) st') :
    .event true ∈ steps := by
  cases h with
  | polled _ hpolls => cases hpolls
  | ended hlooks =>
    cases hlooks with
    | cancelled hasks =>
      cases hasks with
      | asked hinterval hevent => simp

/-- A round ends in a timeout after a look at the clock, and without a poll. -/
lemma Round.of_timedOut {limit : T}
    (h : Round k s interval deadline st steps (some (.timedOut limit)) st') :
    ∃ asked d now, steps = asked ++ [.clock now] ∧ deadline = some (limit, d) ∧ d - now ≤ 0 ∧
      WaitStep.Unheard steps := by
  cases h with
  | polled _ hpolls => cases hpolls
  | ended hlooks =>
    have hunheard := hlooks.unheard
    cases hlooks with
    | expired hasks hdeadline hclock hpassed =>
      exact ⟨_, _, _, rfl, hdeadline, hpassed, hunheard⟩

lemma Round.ne_waiting (h : Round k s interval deadline st steps (some ended) st') :
    ended ≠ .waiting := by
  rintro rfl
  cases h with
  | ended hlooks => cases hlooks
  | polled _ hpolls => cases hpolls

/-! ### The rounds of a wait -/

/-- A wait that is undecided has made all of its polls, and none reported a datagram. -/
lemma Waits.of_waiting (h : Waits k s interval deadline polls st steps .waiting st') :
    WaitStep.Unheard steps ∧ steps.countP WaitStep.isPoll = polls := by
  generalize hended : Received.waiting = ended at h
  induction h with
  | exhausted => exact ⟨by simp, rfl⟩
  | ended hround => exact absurd hended.symm hround.ne_waiting
  | again hround _ ih =>
    obtain ⟨hunheard, hcount⟩ := hround.of_none
    obtain ⟨hlater, hpolls⟩ := ih hended
    refine ⟨WaitStep.unheard_append.mpr ⟨hunheard, hlater⟩, ?_⟩
    rw [List.countP_append, hcount, hpolls, Nat.add_comm]

/-- Every round of a decided wait but the last one reports no datagram. -/
lemma Waits.exists_last (h : Waits k s interval deadline polls st steps ended st')
    (hended : ended ≠ .waiting) :
    ∃ earlier last st₁, steps = earlier ++ last ∧ WaitStep.Unheard earlier ∧
      Round k s interval deadline st₁ last (some ended) st' := by
  induction h with
  | exhausted => exact absurd rfl hended
  | ended hround => exact ⟨[], _, _, rfl, by simp, hround⟩
  | again hround _ ih =>
    obtain ⟨earlier, last, st₁, rfl, hearlier, hlast⟩ := ih hended
    exact ⟨_, last, st₁, (List.append_assoc ..).symm,
      WaitStep.unheard_append.mpr ⟨hround.of_none.1, hearlier⟩, hlast⟩

/-- What comes before and after a step of a wait, by rounds. In the rounds before that of the step
no datagram is reported, and its own round is the last one if it ends the wait. -/
inductive InRound (k : Sockets T (StateM σ)) (s : DatagramSession) (interval : Option T)
    (deadline : Option (T × T)) (x : WaitStep T) (ended : Received T) :
    List (WaitStep T) → List (WaitStep T) → Prop
  | intro {earlier within rest later : List (WaitStep T)} {st st' : σ} {r : Option (Received T)}
      (hearlier : WaitStep.Unheard earlier)
      (hround : Round k s interval deadline st (within ++ x :: rest) r st')
      (hended : ∀ e, r = some e → later = [] ∧ ended = e) :
      InRound k s interval deadline x ended (earlier ++ within) (rest ++ later)

lemma Waits.inRound {before after : List (WaitStep T)} {x : WaitStep T}
    (h : Waits k s interval deadline polls st (before ++ x :: after) ended st') :
    InRound k s interval deadline x ended before after := by
  generalize hsteps : before ++ x :: after = steps at h
  induction h generalizing before after with
  | exhausted => simp at hsteps
  | @ended _ _ _ _ ended hround =>
    subst hsteps
    rw [← List.nil_append before, ← List.append_nil after]
    exact .intro (by simp) hround fun e he => ⟨rfl, Option.some.inj he⟩
  | @again _ _ _ _ steps later ended hround _ ih =>
    -- the step lies in this round or in a later one
    have hagain (bs : List (WaitStep T)) (hlater : bs ++ x :: after = later) :
        InRound k s interval deadline x ended (steps ++ bs) after := by
      obtain ⟨hearlier, hat, hended⟩ := ih hlater
      rw [← List.append_assoc]
      exact .intro (WaitStep.unheard_append.mpr ⟨hround.of_none.1, hearlier⟩) hat hended
    obtain ⟨as, rfl, hafter⟩ | ⟨bs, rfl, hlater⟩ := List.append_eq_append_iff.mp hsteps
    · obtain ⟨rfl, hlater⟩ | ⟨rest, rfl, rfl⟩ := List.cons_eq_append_iff.mp hafter
      · simpa using hagain [] hlater.symm
      · rw [← List.nil_append before]
        exact .intro (by simp) hround fun e he => by cases he
    · exact hagain bs hlater.symm

/-! ### Whole waits -/

/-- The deadline is set, and then the rounds follow. -/
inductive Receives [Add T] (k : Sockets T (StateM σ)) (s : DatagramSession)
    (interval timeout : Option T) (polls : Nat) :
    σ → List (WaitStep T) → Received T → σ → Prop
  | intro {st st₁ st' : σ} {opening steps : List (WaitStep T)} {deadline : Option (T × T)}
      {ended : Received T} (hsets : Sets k timeout st opening deadline st₁)
      (hwaits : Waits k s interval deadline polls st₁ steps ended st') :
      Receives k s interval timeout polls st (opening ++ steps) ended st'

section

variable [Add T] {timeout : Option T}

lemma exists_receives (k : Sockets T (StateM σ)) (s : DatagramSession)
    (interval timeout : Option T) (polls : Nat) (st : σ) :
    ∃ steps ended st', Receives k s interval timeout polls st steps ended st' := by
  obtain ⟨opening, deadline, st₁, hsets⟩ := exists_sets k timeout st
  obtain ⟨steps, ended, st', hwaits⟩ := exists_waits k s interval deadline polls st₁
  exact ⟨_, _, _, .intro hsets hwaits⟩

lemma Receives.followed (h : Receives k s interval timeout polls st steps ended st')
    (earlier : List (WaitStep T)) :
    Receives k.followed s interval timeout polls (st, earlier) steps ended
      (st', earlier ++ steps) := by
  cases h with
  | intro hsets hwaits =>
    rw [← List.append_assoc]
    exact .intro (hsets.followed earlier) (hwaits.followed _)

lemma Receives.of_waiting (h : Receives k s interval timeout polls st steps .waiting st') :
    WaitStep.Unheard steps ∧ steps.countP WaitStep.isPoll = polls := by
  cases h with
  | intro hsets hwaits =>
    obtain ⟨hunheard, hcount⟩ := hwaits.of_waiting
    refine ⟨WaitStep.unheard_append.mpr ⟨hsets.unheard, hunheard⟩, ?_⟩
    rw [List.countP_append, hcount]
    cases hsets <;> simp [WaitStep.isPoll]

/-- The last round of a whole wait. -/
lemma Receives.exists_last (h : Receives k s interval timeout polls st steps ended st')
    (hended : ended ≠ .waiting) :
    ∃ opening deadline st₁ earlier last st₂, steps = opening ++ (earlier ++ last) ∧
      Sets k timeout st opening deadline st₁ ∧ WaitStep.Unheard earlier ∧
      Round k s interval deadline st₂ last (some ended) st' := by
  cases h with
  | intro hsets hwaits =>
    obtain ⟨earlier, last, st₂, rfl, hearlier, hround⟩ := hwaits.exists_last hended
    exact ⟨_, _, _, earlier, last, st₂, rfl, hsets, hearlier, hround⟩

/-- The round of a step of a whole wait, after the deadline is set. -/
lemma Receives.inRound {before after : List (WaitStep T)} {x : WaitStep T}
    (h : Receives k s interval timeout polls st (before ++ x :: after) ended st')
    (hx : ∀ reading, x ≠ .clock reading) :
    ∃ opening deadline st₁ rest, before = opening ++ rest ∧
      Sets k timeout st opening deadline st₁ ∧
      InRound k s interval deadline x ended rest after := by
  generalize hsteps : before ++ x :: after = steps at h
  cases h with
  | intro hsets hwaits =>
    cases hsets with
    | untimed =>
      subst hsteps
      exact ⟨[], none, st, before, rfl, .untimed, hwaits.inRound⟩
    | timed hclock =>
      obtain ⟨-, hclock'⟩ | ⟨rest, rfl, rfl⟩ := List.append_eq_cons_iff.mp hsteps
      · cases hclock'
        exact absurd rfl (hx _)
      · exact ⟨_, _, _, rest, rfl, .timed hclock, hwaits.inRound⟩

end

/-! ### What is carried out -/

variable [DecidableLE T]

lemma Looks.run {r : Except (Received T) (Option T)}
    (h : Looks k interval deadline st steps r st') :
    (beforePoll k interval deadline).run st = (r, st') := by
  rw [beforePoll.eq_def]
  cases h with
  | cancelled hasks =>
    rw [run_bind_of_eq hasks.run]
    rfl
  | untimed hasks hdeadline =>
    rw [run_bind_of_eq hasks.run, hdeadline]
    rfl
  | expired hasks hdeadline hclock hpassed =>
    rw [run_bind_of_eq hasks.run, hdeadline]
    simp only [Bool.false_eq_true, if_false]
    rw [run_bind_of_eq hclock, if_pos hpassed]
    rfl
  | timed hasks hdeadline hclock hleft =>
    rw [run_bind_of_eq hasks.run, hdeadline]
    simp only [Bool.false_eq_true, if_false]
    rw [run_bind_of_eq hclock, if_neg hleft]
    rfl

lemma Waits.run (h : Waits k s interval deadline polls st steps ended st') :
    (await k s interval deadline polls).run st = (ended, st') := by
  induction h with
  | exhausted => rfl
  | ended hround =>
    rw [await]
    cases hround with
    | ended hlooks =>
      rw [run_bind_of_eq hlooks.run]
      rfl
    | polled hlooks hpolls =>
      rw [run_bind_of_eq hlooks.run]
      dsimp only
      rw [run_bind_of_eq hpolls.run]
      rfl
  | again hround _ ih =>
    rw [await]
    cases hround with
    | polled hlooks hpolls =>
      rw [run_bind_of_eq hlooks.run]
      dsimp only
      rw [run_bind_of_eq hpolls.run]
      exact ih

variable [Add T] {timeout : Option T}

lemma Receives.run (h : Receives k s interval timeout polls st steps ended st') :
    (receive k s interval timeout polls).run st = (ended, st') := by
  rw [receive.eq_def]
  cases h with
  | intro hsets hwaits =>
    cases hsets with
    | untimed => exact hwaits.run
    | timed hclock =>
      dsimp only
      rw [run_bind_of_eq hclock]
      exact hwaits.run

end

/-! ### Waits in exact arithmetic -/

/-- The wait of a poll after the given steps: no longer than the poll interval, and than what
remains until the deadline at the time that was just read. With an interval, the event was looked
at since the last poll. -/
structure Fits [Add T] [Sub T] [Zero T] [LT T] [LE T] (interval timeout : Option T)
    (before : List (WaitStep T)) (wait : Option T) : Prop where
  eq_none_iff : wait = none ↔ interval = none ∧ timeout = none
  pos : ∀ w, wait = some w → 0 < w
  le_interval : ∀ i w, interval = some i → wait = some w → w ≤ i
  le_remaining : ∀ limit w, timeout = some limit → wait = some w →
    ∃ start between now, before = .clock start :: (between ++ [.clock now]) ∧
      w ≤ start + limit - now
  event : ∀ i, interval = some i →
    ∃ (earlier : List (WaitStep T)) (readings : List T),
      before = earlier ++ .event false :: readings.map .clock

/-- What is done in a wait, and how it ends. -/
structure WellTimed [Add T] [Sub T] [Zero T] [LT T] [LE T] (size : Int)
    (interval timeout : Option T) (polls : Nat) (steps : List (WaitStep T)) (ended : Received T) :
    Prop where
  /-- A wait times out only at its deadline, when no poll has reported a datagram. -/
  timedOut : ∀ limit, ended = .timedOut limit →
    timeout = some limit ∧ WaitStep.Unheard steps ∧
      ∃ start between last, steps = .clock start :: (between ++ [.clock last]) ∧
        start + limit ≤ last
  /-- Every poll comes before any that reports a datagram, and has a wait that fits. -/
  poll : ∀ before wait outcome after, steps = before ++ .poll wait outcome :: after →
    WaitStep.Unheard before ∧ Fits interval timeout before wait
  /-- Nothing is done after the event was seen set. -/
  event : ∀ before after, steps = before ++ .event true :: after → after = [] ∧ ended = .cancelled
  /-- A poll that reports a datagram is followed by a reading and nothing else. -/
  readable : ∀ before wait after, steps = before ++ .poll wait (.ok true) :: after →
    ∃ outcome, after = [.read size outcome]
  /-- A reading comes last, after the first poll that reports a datagram, and is the result. -/
  read : ∀ before size' outcome after, steps = before ++ .read size' outcome :: after →
    size' = size ∧ after = [] ∧ ended = .ofRead outcome ∧
      ∃ earlier wait, before = earlier ++ [.poll wait (.ok true)] ∧ WaitStep.Unheard earlier
  cancelled : ended = .cancelled → .event true ∈ steps
  data : ∀ bytes, ended = .data bytes → .read size (.ok bytes) ∈ steps
  failed : ∀ cause, ended = .failed cause →
    (∃ wait, .poll wait (.error cause) ∈ steps) ∨ .read size (.error cause) ∈ steps
  /-- A wait is undecided only after all of its polls. -/
  waiting : ended = .waiting → WaitStep.Unheard steps ∧ steps.countP WaitStep.isPoll = polls

section

variable [LinearOrder T]

lemma of_pollWait_eq_some {remaining : Option T} {w : T}
    (h : pollWait interval remaining = some w) :
    (interval = some w ∨ remaining = some w) ∧ (∀ i, interval = some i → w ≤ i) ∧
      ∀ r, remaining = some r → w ≤ r := by
  cases interval with
  | none =>
    obtain rfl : remaining = some w := h
    simp
  | some i =>
    cases remaining with
    | none =>
      obtain rfl : i = w := Option.some.inj h
      simp
    | some r =>
      obtain rfl : (if r < i then r else i) = w := Option.some.inj h
      split
      case isTrue hlt => simp [hlt.le]
      case isFalse hle => simpa using hle

lemma pollWait_eq_none_iff {remaining : Option T} :
    pollWait interval remaining = none ↔ interval = none ∧ remaining = none := by
  cases interval <;> cases remaining <;> simp [pollWait]

variable [AddCommGroup T]
  {timeout : Option T} {deadline : Option (T × T)} {polls : Nat} {ended : Received T}

lemma Looks.fits {st₀ st₁ : σ} {opening looks : List (WaitStep T)} {wait : Option T}
    (hsets : Sets k timeout st₀ opening deadline st₁)
    (hlooks : Looks k interval deadline st looks (.ok wait) st')
    (hinterval : ∀ i, interval = some i → 0 < i) (earlier : List (WaitStep T)) :
    Fits interval timeout (opening ++ (earlier ++ looks)) wait := by
  cases hsets with
  | untimed =>
    cases hlooks with
    | untimed hasks _ =>
      exact {
        eq_none_iff := pollWait_eq_none_iff
        pos := fun w hw => (of_pollWait_eq_some hw).1.elim (hinterval w) (by simp)
        le_interval := fun i w hi hw => (of_pollWait_eq_some hw).2.1 i hi
        le_remaining := by simp
        event := fun i hi => ⟨earlier, [], by simp [hasks.eq_singleton hi]⟩ }
    | timed _ hdeadline _ _ => cases hdeadline
  | @timed limit start _ _ hclock =>
    cases hlooks with
    | untimed hasks hdeadline => cases hdeadline
    | @timed _ _ asked _ d now hasks hdeadline hnow hleft =>
      cases hdeadline
      have hremaining : 0 < start + limit - now := not_le.mp hleft
      exact {
        eq_none_iff := pollWait_eq_none_iff.trans (by simp)
        pos := fun w hw => (of_pollWait_eq_some hw).1.elim (hinterval w) fun hw' =>
          Option.some.inj hw' ▸ hremaining
        le_interval := fun i w hi hw => (of_pollWait_eq_some hw).2.1 i hi
        le_remaining := by
          rintro limit' w ⟨⟩ hw
          exact ⟨start, earlier ++ asked, now, by simp, (of_pollWait_eq_some hw).2.2 _ rfl⟩
        event := fun i hi => ⟨.clock start :: earlier, [now], by simp [hasks.eq_singleton hi]⟩ }

lemma Receives.of_timedOut [IsOrderedAddMonoid T] {limit : T}
    (h : Receives k s interval timeout polls st steps (.timedOut limit) st') :
    timeout = some limit ∧ WaitStep.Unheard steps ∧
      ∃ start between last, steps = .clock start :: (between ++ [.clock last]) ∧
        start + limit ≤ last := by
  obtain ⟨opening, deadline, st₁, earlier, last, st₂, rfl, hsets, hearlier, hround⟩ :=
    h.exists_last (by simp)
  obtain ⟨asked, d, now, rfl, rfl, hpassed, hunheard⟩ := hround.of_timedOut
  have hopening := hsets.unheard
  cases hsets with
  | @timed _ start _ _ hclock =>
    refine ⟨rfl, ?_, start, earlier ++ asked, now, by simp, sub_nonpos.mp hpassed⟩
    simp only [WaitStep.unheard_append] at hunheard ⊢
    exact ⟨hopening, hearlier, hunheard⟩

lemma Receives.wellTimed [IsOrderedAddMonoid T] (hinterval : ∀ i, interval = some i → 0 < i)
    (h : Receives k s interval timeout polls st steps ended st') :
    WellTimed s.recvBuffer interval timeout polls steps ended where
  timedOut limit hended := by
    subst hended
    exact h.of_timedOut
  poll before wait outcome after hsteps := by
    subst hsteps
    obtain ⟨opening, deadline, st₁, rest, rfl, hsets, hround⟩ := h.inRound (by simp)
    cases hround with
    | @intro earlier _ _ _ _ _ _ hearlier hround hended =>
      obtain ⟨st₂, hlooks, hpolls⟩ := hround.of_poll
      exact ⟨by simp [hsets.unheard, hearlier, hlooks.unheard], hlooks.fits hsets hinterval earlier⟩
  event before after hsteps := by
    subst hsteps
    obtain ⟨opening, deadline, st₁, rest, rfl, hsets, hround⟩ := h.inRound (by simp)
    cases hround with
    | @intro _ within rest' _ _ _ _ hearlier hround hended =>
      obtain ⟨hevent, hr⟩ := hround.eq_of_event (by simp)
      obtain ⟨rfl, rfl⟩ := hended _ hr
      obtain ⟨-, rfl⟩ : within = [] ∧ rest' = [] := by
        simpa [List.append_eq_singleton_iff] using hevent
      exact ⟨rfl, rfl⟩
  readable before wait after hsteps := by
    subst hsteps
    obtain ⟨opening, deadline, st₁, rest, rfl, hsets, hround⟩ := h.inRound (by simp)
    cases hround with
    | intro hearlier hround hended =>
      obtain ⟨outcome, rfl, hr⟩ := hround.of_readable
      obtain ⟨rfl, -⟩ := hended _ hr
      exact ⟨outcome, rfl⟩
  read before size outcome after hsteps := by
    subst hsteps
    obtain ⟨opening, deadline, st₁, rest, rfl, hsets, hround⟩ := h.inRound (by simp)
    cases hround with
    | @intro earlier _ _ _ _ _ _ hearlier hround hended =>
      obtain ⟨rfl, hsize, hr, looks, wait, rfl, hlooks⟩ := hround.of_read
      obtain ⟨rfl, rfl⟩ := hended _ hr
      exact ⟨hsize, rfl, rfl, opening ++ (earlier ++ looks), wait, by simp,
        by simp [hsets.unheard, hearlier, hlooks]⟩
  cancelled hended := by
    obtain ⟨_, _, _, _, _, _, rfl, -, -, hround⟩ := h.exists_last (by simp [hended])
    subst hended
    simp [hround.of_cancelled]
  data bytes hended := by
    obtain ⟨_, _, _, _, _, _, rfl, -, -, hround⟩ := h.exists_last (by simp [hended])
    subst hended
    simp [hround.of_data]
  failed cause hended := by
    obtain ⟨_, _, _, _, _, _, rfl, -, -, hround⟩ := h.exists_last (by simp [hended])
    subst hended
    refine hround.of_failed.imp ?_ fun hread => by simp [hread]
    rintro ⟨wait, hpoll⟩
    exact ⟨wait, by simp [hpoll]⟩
  waiting hended := by
    subst hended
    exact h.of_waiting

/-- Every wait, whatever the clock, the event and the socket do, and for any number of polls. -/
theorem receive_wellTimed [IsOrderedAddMonoid T] (k : Sockets T (StateM σ)) (s : DatagramSession)
    (interval timeout : Option T) (polls : Nat) (st : σ)
    (hinterval : ∀ i, interval = some i → 0 < i) :
    ∃ ended st' steps, (receive k s interval timeout polls).run st = (ended, st') ∧
      (receive k.followed s interval timeout polls).run (st, []) = (ended, st', steps) ∧
      WellTimed s.recvBuffer interval timeout polls steps ended := by
  obtain ⟨steps, ended, st', hreceives⟩ := exists_receives k s interval timeout polls st
  exact ⟨ended, st', steps, hreceives.run, (hreceives.followed []).run,
    hreceives.wellTimed hinterval⟩

end

/-- What a clock and a socket are going to answer, one after the other. -/
structure Script where
  readings : List Int
  reports : List Bool

/-- Sockets that answer from a script. The event is never set, and each datagram is one byte. -/
def Script.sockets : Sockets Int (StateM Script) where
  create _ := pure ()
  bind _ := pure ()
  connect _ := pure ()
  localPort := pure 0
  send _ := pure ()
  awaitReadable _ := .mk fun script =>
    (.ok (script.reports.headD false), { script with reports := script.reports.tail })
  receive _ := pure [0xaa]
  close := pure ()
  now script := (script.readings.headD 0, { script with readings := script.readings.tail })
  cancelled := pure false
  log _ := pure ()

/-- After a poll of 2 there is only 1 left of the timeout of 5, and then a datagram is there. -/
theorem receive_wellTimed_scripted :
    let script : Script := ⟨[10, 11, 14], [false, true]⟩
    let steps : List (WaitStep Int) := [.clock 10, .event false, .clock 11,
      .poll (some 2) (.ok false), .event false, .clock 14, .poll (some 1) (.ok true),
      .read 2500 (.ok [0xaa])]
    (∀ i : Int, some 2 = some i → 0 < i) ∧
      (receive Script.sockets ⟨near, far, 2500⟩ (some 2) (some 5) 3).run script =
        (.data [0xaa], ⟨[], []⟩) ∧
      (receive Script.sockets.followed ⟨near, far, 2500⟩ (some 2) (some 5) 3).run (script, []) =
        (.data [0xaa], ⟨[], []⟩, steps) ∧
      WellTimed 2500 (some 2) (some 5) 3 steps (.data [0xaa]) := by
  intro script steps
  have hinterval : ∀ i : Int, some 2 = some i → 0 < i := by
    rintro i ⟨⟩
    decide
  have hsteps : (receive Script.sockets.followed ⟨near, far, 2500⟩ (some 2) (some 5) 3).run
      (script, []) = (.data [0xaa], ⟨[], []⟩, steps) := rfl
  obtain ⟨ended, st', steps', hrun, hsteps', htimed⟩ :=
    receive_wellTimed Script.sockets ⟨near, far, 2500⟩ (some 2) (some 5) 3 script hinterval
  rw [hsteps] at hsteps'
  cases hsteps'
  exact ⟨hinterval, hrun, hsteps, htimed⟩

end DatagramSession

end ScionEcho
