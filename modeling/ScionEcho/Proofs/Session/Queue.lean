import Mathlib.Data.List.Infix
import ScionEcho.Proofs.Session.Waiting

/-!
# Waits and the queue of a socket

Datagrams are in the queue of a socket until they are read, and more may arrive whenever the
socket, the clock or the event is used. A wait looks at the clock before each poll and not after
it: it times out although there is a datagram if the deadline has passed before its first poll, or
if the datagram arrives after its last poll. Otherwise a datagram that waits is read. All this
holds of any times, also of doubles.
-/

namespace ScionEcho

variable {T σ : Type}

/-- The sockets have the given queue: a poll finds nothing only if it is empty, and its first
datagram is the one that is read. Datagrams may be added at any time. -/
structure Sockets.Queues (k : Sockets T (StateM σ)) (queue : σ → List Bytes) : Prop where
  now : ∀ st reading st', k.now.run st = (reading, st') → queue st <+: queue st'
  cancelled : ∀ st set st', k.cancelled.run st = (set, st') → queue st <+: queue st'
  awaitReadable : ∀ wait st readable st', execute (k.awaitReadable wait) st = (.ok readable, st') →
    queue st <+: queue st' ∧ (readable = false → queue st' = [])
  receive : ∀ size st bytes st' data rest, 0 ≤ size → queue st = data :: rest →
    execute (k.receive size) st = (.ok bytes, st') →
      bytes = data.take size.toNat ∧ rest <+: queue st'

/-- A poll or a reading may fail for the given cause. -/
def Sockets.Fails (k : Sockets T (StateM σ)) (cause : OsError) : Prop :=
  ∃ st, (∃ wait, (execute (k.awaitReadable wait) st).1 = .error cause) ∨
    ∃ size, (execute (k.receive size) st).1 = .error cause

namespace DatagramSession

variable {k : Sockets T (StateM σ)} {queue : σ → List Bytes} {s : DatagramSession}
  {interval timeout : Option T} {deadline : Option (T × T)} {polls : Nat} {ended : Received T}
  {steps : List (WaitStep T)} {data : Bytes} {rest : List Bytes} {st st' : σ}

/-! ### What looks and polls leave in the queue -/

lemma Asks.isPrefix_queue (hk : k.Queues queue) {set : Bool} (h : Asks k interval st steps set st') :
    queue st <+: queue st' := by
  cases h with
  | unasked hinterval => exact List.prefix_refl _
  | asked hinterval hevent => exact hk.cancelled _ _ _ hevent

lemma Sets.isPrefix_queue [Add T] (hk : k.Queues queue) {opening : List (WaitStep T)}
    (h : Sets k timeout st opening deadline st') : queue st <+: queue st' := by
  cases h with
  | untimed => exact List.prefix_refl _
  | timed hclock => exact hk.now _ _ _ hclock

/-- A poll that can be made finds the datagram that waits, and the first one is read. -/
lemma Polls.of_queued (hk : k.Queues queue) (hsize : 0 ≤ s.recvBuffer) {wait : Option T}
    {r : Option (Received T)} (h : Polls k s wait st steps r st')
    (hqueue : data :: rest <+: queue st) :
    (r = some (.data (data.take s.recvBuffer.toNat)) ∧ rest <+: queue st') ∨
      ∃ cause, r = some (.failed cause) ∧ k.Fails cause := by
  cases h with
  | failed hpoll => exact .inr ⟨_, rfl, st, .inl ⟨wait, congrArg Prod.fst hpoll⟩⟩
  | unreadable hpoll =>
    obtain ⟨hkept, hempty⟩ := hk.awaitReadable _ _ _ _ hpoll
    have hnil : data :: rest <+: [] := hempty rfl ▸ hqueue.trans hkept
    cases List.prefix_nil.mp hnil
  | unread hpoll hread => exact .inr ⟨_, rfl, _, .inr ⟨_, congrArg Prod.fst hread⟩⟩
  | data hpoll hread =>
    obtain ⟨more, hmore⟩ := hqueue.trans (hk.awaitReadable _ _ _ _ hpoll).1
    obtain ⟨rfl, hrest⟩ := hk.receive _ _ _ _ _ _ hsize hmore.symm hread
    exact .inl ⟨rfl, (List.prefix_append rest more).trans hrest⟩

section

variable [OfNat T 0] [Sub T] [LT T] [LE T] [DecidableLT T]

lemma Looks.isPrefix_queue (hk : k.Queues queue) {r : Except (Received T) (Option T)}
    (h : Looks k interval deadline st steps r st') : queue st <+: queue st' := by
  cases h with
  | cancelled hasks => exact hasks.isPrefix_queue hk
  | untimed hasks hdeadline => exact hasks.isPrefix_queue hk
  | expired hasks hdeadline hclock hpassed =>
    exact (hasks.isPrefix_queue hk).trans (hk.now _ _ _ hclock)
  | timed hasks hdeadline hclock hleft =>
    exact (hasks.isPrefix_queue hk).trans (hk.now _ _ _ hclock)

/-- A round that decides nothing leaves an empty queue. -/
lemma Round.queue_eq_nil (hk : k.Queues queue)
    (h : Round k s interval deadline st steps none st') : queue st' = [] := by
  cases h with
  | polled hlooks hpolls =>
    cases hpolls with
    | unreadable hpoll => exact (hk.awaitReadable _ _ _ _ hpoll).2 rfl

/-! ### Waits -/

/-- The polls of a wait that times out are those of a shorter wait which leaves an empty queue,
unless there are none. -/
lemma Waits.exists_of_timedOut (hk : k.Queues queue) {limit : T}
    (h : Waits k s interval deadline polls st steps (.timedOut limit) st') :
    ∃ used before st₁ looks, used < polls ∧ Waits k s interval deadline used st before .waiting st₁ ∧
      (0 < used → queue st₁ = []) ∧
      Looks k interval deadline st₁ looks (.error (.timedOut limit)) st' := by
  generalize hended : Received.timedOut limit = ended at h
  induction h with
  | exhausted => cases hended
  | ended hround =>
    subst hended
    cases hround with
    | polled _ hpolls => cases hpolls
    | ended hlooks => exact ⟨0, [], _, _, Nat.succ_pos _, .exhausted, by simp, hlooks⟩
  | again hround _ ih =>
    obtain ⟨used, before, st₁, looks, hused, hwaits, hempty, hlooks⟩ := ih hended
    refine ⟨used + 1, _, st₁, looks, Nat.succ_lt_succ hused, .again hround hwaits, ?_, hlooks⟩
    intro _
    cases hwaits with
    | exhausted => exact hround.queue_eq_nil hk
    | ended _ => exact hempty (Nat.succ_pos _)
    | again _ _ => exact hempty (Nat.succ_pos _)

/-- A datagram that waits is read at once, unless the looks or the operating system prevent it. -/
lemma Waits.of_queued (hk : k.Queues queue) (hsize : 0 ≤ s.recvBuffer) (hpolls : 0 < polls)
    (h : Waits k s interval deadline polls st steps ended st')
    (hqueue : data :: rest <+: queue st) :
    (ended = .data (data.take s.recvBuffer.toNat) ∧ rest <+: queue st') ∨
      (∃ cause, ended = .failed cause ∧ k.Fails cause) ∨
        Looks k interval deadline st steps (.error ended) st' := by
  cases h with
  | exhausted => cases hpolls
  | ended hround =>
    cases hround with
    | ended hlooks => exact .inr (.inr hlooks)
    | polled hlooks hpolled =>
      obtain ⟨hended, hrest⟩ | ⟨cause, hended, hcause⟩ :=
        hpolled.of_queued hk hsize (hqueue.trans (hlooks.isPrefix_queue hk))
      · exact .inl ⟨Option.some.inj hended, hrest⟩
      · exact .inr (.inl ⟨cause, Option.some.inj hended, hcause⟩)
  | again hround _ =>
    cases hround with
    | polled hlooks hpolled =>
      obtain ⟨hended, -⟩ | ⟨cause, hended, -⟩ :=
        hpolled.of_queued hk hsize (hqueue.trans (hlooks.isPrefix_queue hk))
      · cases hended
      · cases hended

end

variable [OfNat T 0] [Add T] [Sub T] [LT T] [LE T] [DecidableLT T] [DecidableLE T]

/-- A wait times out at its first look at the clock after some polls, the last of which found an
empty queue. There may be no poll at all. -/
inductive TimesOut (k : Sockets T (StateM σ)) (s : DatagramSession) (interval : Option T)
    (queue : σ → List Bytes) (limit : T) (polls : Nat) (st : σ) : σ → Prop
  | intro {used : Nat} {st₁ st₂ st' : σ} {now : T} (hused : used < polls)
      (hwaiting : (receive k s interval (some limit) used).run st = (.waiting, st₁))
      (hempty : 0 < used → queue st₁ = [])
      (hevent : (isCancelled k interval).run st₁ = (false, st₂))
      (hclock : k.now.run st₂ = (now, st')) (hpassed : (k.now.run st).1 + limit - now ≤ 0) :
      TimesOut k s interval queue limit polls st st'

/-- How a wait ends when there is a datagram in the queue. It is read, unless the operating system
fails, or the first looks find the event set or the deadline passed. -/
inductive FindsQueued (k : Sockets T (StateM σ)) (s : DatagramSession) (interval : Option T)
    (queue : σ → List Bytes) (data : Bytes) (rest : List Bytes) (st : σ) :
    Option T → Received T → σ → Prop
  | read {timeout : Option T} {st' : σ} (hrest : rest <+: queue st') :
      FindsQueued k s interval queue data rest st timeout
        (.data (data.take s.recvBuffer.toNat)) st'
  | failed {timeout : Option T} {cause : OsError} {st' : σ} (hcause : k.Fails cause) :
      FindsQueued k s interval queue data rest st timeout (.failed cause) st'
  | cancelled {timeout : Option T} {st₁ st' : σ}
      (hwaiting : (receive k s interval timeout 0).run st = (.waiting, st₁))
      (hevent : (isCancelled k interval).run st₁ = (true, st')) :
      FindsQueued k s interval queue data rest st timeout .cancelled st'
  | timedOut {limit : T} {st' : σ} (htimesOut : TimesOut k s interval queue limit 1 st st')
      (hlost : data :: rest <+: queue st') :
      FindsQueued k s interval queue data rest st (some limit) (.timedOut limit) st'

lemma Receives.timesOut (hk : k.Queues queue) {limit : T}
    (h : Receives k s interval timeout polls st steps (.timedOut limit) st') :
    timeout = some limit ∧ TimesOut k s interval queue limit polls st st' := by
  cases h with
  | intro hsets hwaits =>
    obtain ⟨used, before, st₁, looks, hused, hbefore, hempty, hlooks⟩ :=
      hwaits.exists_of_timedOut hk
    have hwaiting := (Receives.intro hsets hbefore).run
    cases hlooks with
    | expired hasks hdeadline hclock hpassed =>
      subst hdeadline
      cases hsets with
      | timed hstart =>
        refine ⟨rfl, .intro hused hwaiting hempty hasks.run hclock ?_⟩
        rwa [hstart]

lemma Receives.findsQueued (hk : k.Queues queue) (hsize : 0 ≤ s.recvBuffer) (hpolls : 0 < polls)
    (h : Receives k s interval timeout polls st steps ended st') (hqueue : queue st = data :: rest) :
    FindsQueued k s interval queue data rest st timeout ended st' := by
  cases h with
  | intro hsets hwaits =>
    have hstart : data :: rest <+: queue _ := hqueue ▸ hsets.isPrefix_queue hk
    obtain ⟨rfl, hrest⟩ | ⟨cause, rfl, hcause⟩ | hlooks :=
      hwaits.of_queued hk hsize hpolls hstart
    · exact .read hrest
    · exact .failed hcause
    have hlost := hstart.trans (hlooks.isPrefix_queue hk)
    have hfirst : Receives k s interval timeout 1 st _ ended st' :=
      .intro hsets (.ended (.ended hlooks))
    cases hlooks with
    | cancelled hasks => exact .cancelled (Receives.intro hsets .exhausted).run hasks.run
    | expired hasks hdeadline hclock hpassed =>
      obtain ⟨rfl, htimesOut⟩ := hfirst.timesOut hk
      exact .timedOut htimesOut hlost

/-- A wait times out only at a look at the clock before which the queue was empty at the last poll,
and a datagram that waits from the start is read unless it times out without a poll. -/
theorem receive_queued (hk : k.Queues queue)
    (h : (receive k s interval timeout polls).run st = (ended, st')) :
    (∀ limit, ended = .timedOut limit →
      timeout = some limit ∧ TimesOut k s interval queue limit polls st st') ∧
    ∀ data rest, queue st = data :: rest → 0 ≤ s.recvBuffer → 0 < polls →
      FindsQueued k s interval queue data rest st timeout ended st' := by
  obtain ⟨steps, ended', st'', hreceives⟩ := exists_receives k s interval timeout polls st
  rw [hreceives.run] at h
  obtain ⟨rfl, rfl⟩ := Prod.mk.inj h
  constructor
  · rintro limit rfl
    exact hreceives.timesOut hk
  · intro data rest hqueue hsize hpolls
    exact hreceives.findsQueued hk hsize hpolls hqueue

end DatagramSession

/-- A queue, and what is next to come: readings of the clock, each with the datagrams that arrive
at that look. -/
structure Arrivals where
  queue : List Bytes
  looks : List (Int × List Bytes)

namespace Arrivals

/-- Sockets at which datagrams arrive while the clock is looked at. The event is never set. -/
def sockets : Sockets Int (StateM Arrivals) where
  create _ := pure ()
  bind _ := pure ()
  connect _ := pure ()
  localPort := pure 0
  send _ := pure ()
  awaitReadable _ := .mk fun a => (.ok !a.queue.isEmpty, a)
  receive size := .mk fun a =>
    match a.queue with
    | [] => (.error ⟨"Resource temporarily unavailable"⟩, a)
    | data :: rest => (.ok (data.take size.toNat), { a with queue := rest })
  close := pure ()
  now a :=
    match a.looks with
    | [] => (0, a)
    | (reading, arrived) :: later => (reading, ⟨a.queue ++ arrived, later⟩)
  cancelled := pure false
  log _ := pure ()

lemma sockets_queues : sockets.Queues queue where
  now a reading a' h := by
    obtain ⟨queue, looks⟩ := a
    cases looks with
    | nil =>
      cases h
      exact List.prefix_refl _
    | cons look later =>
      cases h
      exact List.prefix_append _ _
  cancelled a set a' h := by
    cases h
    exact List.prefix_refl _
  awaitReadable wait a readable a' h := by
    cases h
    simp
  receive size a bytes a' data rest hsize hqueue h := by
    obtain ⟨queue, looks⟩ := a
    subst hqueue
    cases h
    exact ⟨rfl, List.prefix_refl _⟩

end Arrivals

namespace DatagramSession

/-- The first of two datagrams is read while there is time, and a datagram that arrives at the last
look is left. -/
theorem receive_queued_arrivals :
    let s : DatagramSession := ⟨near, far, 2500⟩
    let queued : Arrivals := ⟨[[0xaa], [0xbb]], [(0, []), (4, [])]⟩
    let late : Arrivals := ⟨[], [(0, []), (4, []), (5, [[0xaa]])]⟩
    Arrivals.sockets.Queues Arrivals.queue ∧
      (receive Arrivals.sockets s none (some 5) 1).run queued = (.data [0xaa], ⟨[[0xbb]], []⟩) ∧
      FindsQueued Arrivals.sockets s none Arrivals.queue [0xaa] [[0xbb]] queued (some 5)
        (.data [0xaa]) ⟨[[0xbb]], []⟩ ∧
      (receive Arrivals.sockets s none (some 5) 2).run late = (.timedOut 5, ⟨[[0xaa]], []⟩) ∧
      TimesOut Arrivals.sockets s none Arrivals.queue 5 2 late ⟨[[0xaa]], []⟩ := by
  intro s queued late
  have hqueued : (receive Arrivals.sockets s none (some 5) 1).run queued =
      (.data [0xaa], ⟨[[0xbb]], []⟩) := rfl
  have hlate : (receive Arrivals.sockets s none (some 5) 2).run late =
      (.timedOut 5, ⟨[[0xaa]], []⟩) := rfl
  exact ⟨Arrivals.sockets_queues, hqueued,
    (receive_queued Arrivals.sockets_queues hqueued).2 _ _ rfl (by decide) (by decide), hlate,
    ((receive_queued Arrivals.sockets_queues hlate).1 _ rfl).2⟩

/-- A wait does time out while there is a datagram in the queue, whether it was there from the start
or came between the last poll and the last look at the clock. -/
theorem receive_loses_queued :
    let s : DatagramSession := ⟨near, far, 2500⟩
    ¬ (∀ (k : Sockets Int (StateM Arrivals)) (queue : Arrivals → List Bytes)
      (interval timeout : Option Int) (polls : Nat) (limit : Int) (a a' : Arrivals),
      k.Queues queue → 0 < limit →
        (receive k s interval timeout polls).run a = (.timedOut limit, a') → queue a' = []) ∧
    (receive Arrivals.sockets s none (some 5) 1).run ⟨[[0xaa]], [(0, []), (5, [])]⟩ =
      (.timedOut 5, ⟨[[0xaa]], []⟩) ∧
    (receive Arrivals.sockets s none (some 5) 2).run ⟨[], [(0, []), (4, []), (5, [[0xaa]])]⟩ =
      (.timedOut 5, ⟨[[0xaa]], []⟩) := by
  intro s
  refine ⟨fun hall => ?_, rfl, rfl⟩
  have hempty := hall Arrivals.sockets Arrivals.queue none (some 5) 1 5
    ⟨[[0xaa]], [(0, []), (5, [])]⟩ ⟨[[0xaa]], []⟩ Arrivals.sockets_queues (by decide) rfl
  cases hempty

end DatagramSession

end ScionEcho
