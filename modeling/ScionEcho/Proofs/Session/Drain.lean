import ScionEcho.Proofs.Session.Queue

/-!
# Dropping the datagrams that wait

Beside the datagrams in the queue of a socket there are those that are still to come, finitely many.
They arrive in their order whenever the socket, the clock, the event or the log is used. A drain
never waits and ends at the poll that finds the queue empty: by then it has read every datagram that
was there or arrived before, once and in order. What a wait reads after that has arrived after that
poll.
-/

namespace ScionEcho

variable {T σ : Type}

/-! ### Datagrams that come and go -/

/-- From one state to another the given datagrams leave the queue at its front, while some of those
that are still to come arrive at its end. -/
def Flows (queue coming : σ → List Bytes) (removed : List Bytes) (st st' : σ) : Prop :=
  ∃ arrived, coming st = arrived ++ coming st' ∧ queue st ++ arrived = removed ++ queue st'

namespace Flows

variable {queue coming : σ → List Bytes} {removed removed' : List Bytes} {st st₁ st' : σ}

lemma refl (st : σ) : Flows queue coming [] st st := ⟨[], rfl, List.append_nil _⟩

lemma trans (h : Flows queue coming removed st st₁) (h' : Flows queue coming removed' st₁ st') :
    Flows queue coming (removed ++ removed') st st' := by
  obtain ⟨arrived, hcoming, hqueue⟩ := h
  obtain ⟨arrived', hcoming', hqueue'⟩ := h'
  refine ⟨arrived ++ arrived', ?_, ?_⟩
  · rw [hcoming, hcoming', List.append_assoc]
  · rw [← List.append_assoc, hqueue, List.append_assoc, hqueue', List.append_assoc]

/-- No datagram is lost, and none is made up. -/
lemma length_eq (h : Flows queue coming removed st st') :
    (queue st).length + (coming st).length =
      removed.length + ((queue st').length + (coming st').length) := by
  obtain ⟨arrived, hcoming, hqueue⟩ := h
  have hlength := congrArg List.length hqueue
  rw [List.length_append, List.length_append] at hlength
  rw [hcoming, List.length_append]
  omega

/-- A datagram that leaves after the queue was empty is the first that was still to come then. -/
lemma eq_cons_of_nil {data : Bytes} (h : Flows queue coming [data] st st')
    (hempty : queue st = []) :
    ∃ arrived, coming st = data :: (arrived ++ coming st') := by
  obtain ⟨arrived, hcoming, hqueue⟩ := h
  rw [hempty, List.nil_append] at hqueue
  exact ⟨queue st', by rw [hcoming, hqueue]; rfl⟩

end Flows

/-- The sockets have the given queue, which is fed with the datagrams that are still to come. A poll
finds nothing only if the queue is empty, and a reading takes the first datagram of the queue or
fails. -/
structure Sockets.Feeds (k : Sockets T (StateM σ)) (queue coming : σ → List Bytes) : Prop where
  now : ∀ st reading st', k.now.run st = (reading, st') → Flows queue coming [] st st'
  cancelled : ∀ st set st', k.cancelled.run st = (set, st') → Flows queue coming [] st st'
  log : ∀ record st st', (k.log record).run st = ((), st') → Flows queue coming [] st st'
  awaitReadable : ∀ wait st outcome st', execute (k.awaitReadable wait) st = (outcome, st') →
    Flows queue coming [] st st' ∧ (outcome = .ok false → queue st' = [])
  read : ∀ size st bytes st', 0 ≤ size → execute (k.receive size) st = (.ok bytes, st') →
    ∃ data, bytes = data.take size.toNat ∧ Flows queue coming [data] st st'
  unread : ∀ size st cause st', execute (k.receive size) st = (.error cause, st') →
    Flows queue coming [] st st'

namespace DatagramSession

variable {k : Sockets T (StateM σ)} {queue coming : σ → List Bytes} {s : DatagramSession}
  {interval timeout : Option T} {deadline : Option (T × T)} {polls dropped : Nat}
  {steps : List (WaitStep T)} {bytes : Bytes} {cause : OsError} {st st' : σ}

/-! ### What looks and polls let through -/

lemma Asks.flows (hk : k.Feeds queue coming) {set : Bool}
    (h : Asks k interval st steps set st') : Flows queue coming [] st st' := by
  cases h with
  | unasked hinterval => exact .refl st
  | asked hinterval hevent => exact hk.cancelled _ _ _ hevent

lemma Sets.flows [Add T] (hk : k.Feeds queue coming) (h : Sets k timeout st steps deadline st') :
    Flows queue coming [] st st' := by
  cases h with
  | untimed => exact .refl st
  | timed hclock => exact hk.now _ _ _ hclock

/-- A poll that finds nothing finds the queue empty. -/
lemma Polls.of_none (hk : k.Feeds queue coming) {wait : Option T}
    (h : Polls k s wait st steps none st') :
    steps = [.poll wait (.ok false)] ∧ Flows queue coming [] st st' ∧ queue st' = [] := by
  cases h with
  | unreadable hpoll =>
    obtain ⟨hflows, hempty⟩ := hk.awaitReadable _ _ _ _ hpoll
    exact ⟨rfl, hflows, hempty rfl⟩

/-- A poll that yields a datagram takes the first one. -/
lemma Polls.of_data (hk : k.Feeds queue coming) (hsize : 0 ≤ s.recvBuffer) {wait : Option T}
    (h : Polls k s wait st steps (some (.data bytes)) st') :
    ∃ data, bytes = data.take s.recvBuffer.toNat ∧
      steps = [.poll wait (.ok true), .read s.recvBuffer (.ok bytes)] ∧
      Flows queue coming [data] st st' := by
  cases h with
  | data hpoll hread =>
    obtain ⟨data, hbytes, hflows⟩ := hk.read _ _ _ _ hsize hread
    exact ⟨data, hbytes, rfl, (hk.awaitReadable _ _ _ _ hpoll).1.trans hflows⟩

/-- The calls of a poll that fails. -/
inductive Falters (s : DatagramSession) (wait : Option T) (cause : OsError) :
    List (WaitStep T) → Prop
  | unpolled : Falters s wait cause [.poll wait (.error cause)]
  | unread : Falters s wait cause [.poll wait (.ok true), .read s.recvBuffer (.error cause)]

/-- A poll that fails takes nothing. -/
lemma Polls.of_failed (hk : k.Feeds queue coming) {wait : Option T}
    (h : Polls k s wait st steps (some (.failed cause)) st') :
    Falters s wait cause steps ∧ k.Fails cause ∧ Flows queue coming [] st st' := by
  cases h with
  | failed hpoll =>
    exact ⟨.unpolled, ⟨st, .inl ⟨wait, congrArg Prod.fst hpoll⟩⟩,
      (hk.awaitReadable _ _ _ _ hpoll).1⟩
  | unread hpoll hread =>
    exact ⟨.unread, ⟨_, .inr ⟨_, congrArg Prod.fst hread⟩⟩,
      (hk.awaitReadable _ _ _ _ hpoll).1.trans (hk.unread _ _ _ _ hread)⟩

/-! ### The polls of a drain -/

section

variable [OfNat T 0]

/-- The polls of a drain that has dropped so many datagrams before. All of them read a datagram but
the last one. -/
inductive Drains (k : Sockets T (StateM σ)) (s : DatagramSession) :
    Nat → Nat → σ → List (WaitStep T) → Drained → σ → Prop
  | exhausted {dropped : Nat} {st : σ} : Drains k s 0 dropped st [] .draining st
  | empty {polls dropped : Nat} {st st' : σ} {steps : List (WaitStep T)}
      (hpolls : Polls k s (some 0) st steps none st') :
      Drains k s (polls + 1) dropped st steps (.empty dropped) st'
  | failed {polls dropped : Nat} {st st' : σ} {steps : List (WaitStep T)} {cause : OsError}
      (hpolls : Polls k s (some 0) st steps (some (.failed cause)) st') :
      Drains k s (polls + 1) dropped st steps (.failed cause) st'
  | again {polls dropped : Nat} {st st₁ st' : σ} {steps later : List (WaitStep T)} {bytes : Bytes}
      {ended : Drained} (hpolls : Polls k s (some 0) st steps (some (.data bytes)) st₁)
      (hrest : Drains k s polls (dropped + 1) st₁ later ended st') :
      Drains k s (polls + 1) dropped st (steps ++ later) ended st'

variable {ended : Drained}

lemma exists_drains (k : Sockets T (StateM σ)) (s : DatagramSession) (polls dropped : Nat)
    (st : σ) : ∃ steps ended st', Drains k s polls dropped st steps ended st' := by
  induction polls generalizing dropped st with
  | zero => exact ⟨_, _, _, .exhausted⟩
  | succ polls ih =>
    obtain ⟨steps, r, st₁, hpolls⟩ := exists_polls k s (some 0) st
    cases hpolls with
    | failed hpoll => exact ⟨_, _, _, .failed (.failed hpoll)⟩
    | unreadable hpoll => exact ⟨_, _, _, .empty (.unreadable hpoll)⟩
    | unread hpoll hread => exact ⟨_, _, _, .failed (.unread hpoll hread)⟩
    | data hpoll hread =>
      obtain ⟨later, ended, st', hrest⟩ := ih (dropped + 1) st₁
      exact ⟨_, _, _, .again (.data hpoll hread) hrest⟩

lemma Drains.run (h : Drains k s polls dropped st steps ended st') :
    (drain k s polls dropped).run st = (ended, st') := by
  induction h with
  | exhausted => rfl
  | empty hpolls =>
    rw [drain_succ, run_bind_of_eq hpolls.run]
    rfl
  | failed hpolls =>
    rw [drain_succ, run_bind_of_eq hpolls.run]
    rfl
  | again hpolls _ ih =>
    rw [drain_succ, run_bind_of_eq hpolls.run]
    exact ih

lemma Drains.followed (h : Drains k s polls dropped st steps ended st')
    (earlier : List (WaitStep T)) :
    Drains k.followed s polls dropped (st, earlier) steps ended (st', earlier ++ steps) := by
  induction h generalizing earlier with
  | exhausted =>
    rw [List.append_nil]
    exact .exhausted
  | empty hpolls => exact .empty (hpolls.followed earlier)
  | failed hpolls => exact .failed (hpolls.followed earlier)
  | again hpolls _ ih =>
    rw [← List.append_assoc]
    exact .again (hpolls.followed earlier) (ih _)

/-- A drain that has ended is not changed by more polls. -/
lemma Drains.of_le {polls' : Nat} (h : Drains k s polls dropped st steps ended st')
    (hended : ended ≠ .draining) (hle : polls ≤ polls') :
    Drains k s polls' dropped st steps ended st' := by
  induction h generalizing polls' with
  | exhausted => exact absurd rfl hended
  | empty hpolls =>
    obtain ⟨more, rfl⟩ := Nat.exists_eq_add_one_of_ne_zero (Nat.ne_zero_of_lt hle)
    exact .empty hpolls
  | failed hpolls =>
    obtain ⟨more, rfl⟩ := Nat.exists_eq_add_one_of_ne_zero (Nat.ne_zero_of_lt hle)
    exact .failed hpolls
  | again hpolls _ ih =>
    obtain ⟨more, rfl⟩ := Nat.exists_eq_add_one_of_ne_zero (Nat.ne_zero_of_lt hle)
    exact .again hpolls (ih hended (Nat.le_of_succ_le_succ hle))

/-- A drain ends when there are more polls than datagrams. -/
lemma Drains.ne_draining (hk : k.Feeds queue coming) (hsize : 0 ≤ s.recvBuffer)
    (h : Drains k s polls dropped st steps ended st')
    (hpolls : (queue st).length + (coming st).length < polls) : ended ≠ .draining := by
  induction h with
  | exhausted => omega
  | empty _ => simp
  | failed _ => simp
  | again hpolled _ ih =>
    obtain ⟨data, -, -, hflows⟩ := hpolled.of_data hk hsize
    have hlength := hflows.length_eq
    rw [List.length_singleton] at hlength
    exact ih (by omega)

/-- The steps in which a session reads the given datagrams, each after a poll that does not wait. -/
def dropSteps (s : DatagramSession) (data : List Bytes) : List (WaitStep T) :=
  data.flatMap fun datagram => [.poll (some 0) (.ok true),
    .read s.recvBuffer (.ok (datagram.take s.recvBuffer.toNat))]

/-- What is done in a drain, what it results in, and the state at its last poll. The datagrams that
are read are those that leave the queue. -/
inductive Discards (k : Sockets T (StateM σ)) (s : DatagramSession) (queue coming : σ → List Bytes)
    (st : σ) : List (WaitStep T) → Except Failure Nat → σ → Prop
  | emptied {data : List Bytes} {last : σ} (hflows : Flows queue coming data st last)
      (hempty : queue last = []) :
      Discards k s queue coming st (dropSteps s data ++ [.poll (some 0) (.ok false)])
        (.ok data.length) last
  | failed {data : List Bytes} {last : σ} {cause : OsError} {faltering : List (WaitStep T)}
      (hflows : Flows queue coming data st last) (hfalters : Falters s (some 0) cause faltering)
      (hcause : k.Fails cause) :
      Discards k s queue coming st (dropSteps s data ++ faltering)
        (.error (.transport (.reading s.dst cause))) last

/-- A drain begins with a datagram that leaves the queue. -/
lemma Discards.cons {datagram : Bytes} {st₁ : σ} {later : List (WaitStep T)}
    {outcome : Except Failure Nat} {last : σ} (hflows : Flows queue coming [datagram] st st₁)
    (h : Discards k s queue coming st₁ later outcome last) :
    Discards k s queue coming st (dropSteps s [datagram] ++ later) (outcome.map (· + 1)) last := by
  cases h with
  | @emptied data _ hrest hempty =>
    rw [← List.append_assoc, dropSteps, dropSteps, ← List.flatMap_append]
    exact .emptied (hflows.trans hrest) hempty
  | failed hrest hfalters hcause =>
    rw [← List.append_assoc, dropSteps, dropSteps, ← List.flatMap_append]
    exact .failed (hflows.trans hrest) hfalters hcause

/-- A drain that results in a count has found the queue empty in the end. It counts the datagrams
that were there and those that arrived before. -/
lemma Discards.exists_arrived {count : Nat} {last : σ}
    (h : Discards k s queue coming st steps (.ok count) last) :
    (∃ arrived, coming st = arrived ++ coming last ∧
      count = (queue st).length + arrived.length) ∧ queue last = [] := by
  generalize houtcome : Except.ok count = outcome at h
  cases h with
  | emptied hflows hempty =>
    obtain rfl := Except.ok.inj houtcome
    obtain ⟨arrived, hcoming, hqueue⟩ := hflows
    rw [hempty, List.append_nil] at hqueue
    exact ⟨⟨arrived, hcoming, by rw [← hqueue, List.length_append]⟩, hempty⟩
  | failed _ _ _ => cases houtcome

lemma Drains.exists_discards (hk : k.Feeds queue coming) (hsize : 0 ≤ s.recvBuffer)
    (h : Drains k s polls dropped st steps ended st') (hended : ended ≠ .draining) :
    ∃ outcome, ended.toExcept s = some (outcome.map (dropped + ·)) ∧
      Discards k s queue coming st steps outcome st' := by
  induction h with
  | exhausted => exact absurd rfl hended
  | empty hpolls =>
    obtain ⟨rfl, hflows, hempty⟩ := hpolls.of_none hk
    exact ⟨.ok 0, rfl, .emptied hflows hempty⟩
  | failed hpolls =>
    obtain ⟨hfalters, hcause, hflows⟩ := hpolls.of_failed hk
    exact ⟨.error _, rfl, .failed hflows hfalters hcause⟩
  | @again _ dropped _ _ _ _ _ _ _ hpolls _ ih =>
    obtain ⟨datagram, rfl, rfl, hflows⟩ := hpolls.of_data hk hsize
    obtain ⟨outcome, houtcome, hrest⟩ := ih hended
    refine ⟨outcome.map (· + 1), ?_, hrest.cons hflows⟩
    rw [houtcome]
    cases outcome with
    | error e => rfl
    | ok n => exact congrArg (some ∘ Except.ok) (Nat.add_right_comm dropped 1 n)

/-- What follows the polls of a drain is a report of how many datagrams there were, if any. -/
lemma exists_reported (hk : k.Feeds queue coming) (s : DatagramSession) (ended : Drained)
    (last : σ) :
    ∃ st', Flows queue coming [] last st' ∧
      ∀ {polls st steps}, Drains k s polls 0 st steps ended last →
        (discardPending k s polls).run st = (ended, st') ∧
          (discardPending k.followed s polls).run (st, []) = (ended, st', steps) := by
  match ended with
  | .empty 0 | .failed _ | .draining =>
    refine ⟨last, .refl last, fun h => ?_⟩
    rw [discardPending, discardPending, run_bind_of_eq h.run, run_bind_of_eq (h.followed []).run]
    exact ⟨rfl, rfl⟩
  | .empty (dropped + 1) =>
    let record : LogRecord :=
      ⟨loggerName, .debug, s!"Discarded {dropped + 1} late datagrams from {s.dst}"⟩
    refine ⟨((k.log record).run last).2, hk.log record last _ rfl, fun h => ?_⟩
    rw [discardPending, discardPending, run_bind_of_eq h.run, run_bind_of_eq (h.followed []).run]
    exact ⟨rfl, rfl⟩

/-! ### What a wait lets through -/

variable [Sub T] [LT T] [LE T] [DecidableLT T]

lemma Looks.flows (hk : k.Feeds queue coming) {r : Except (Received T) (Option T)}
    (h : Looks k interval deadline st steps r st') : Flows queue coming [] st st' := by
  cases h with
  | cancelled hasks => exact hasks.flows hk
  | untimed hasks hdeadline => exact hasks.flows hk
  | expired hasks hdeadline hclock hpassed =>
    exact (hasks.flows hk).trans (hk.now _ _ _ hclock)
  | timed hasks hdeadline hclock hleft =>
    exact (hasks.flows hk).trans (hk.now _ _ _ hclock)

/-- A wait that yields a datagram takes the first one. -/
lemma Waits.of_data (hk : k.Feeds queue coming) (hsize : 0 ≤ s.recvBuffer)
    (h : Waits k s interval deadline polls st steps (.data bytes) st') :
    ∃ data, bytes = data.take s.recvBuffer.toNat ∧ Flows queue coming [data] st st' := by
  generalize hended : Received.data bytes = ended at h
  induction h with
  | exhausted => cases hended
  | ended hround =>
    subst hended
    cases hround with
    | ended hlooks => cases hlooks
    | polled hlooks hpolls =>
      obtain ⟨data, hbytes, -, hflows⟩ := hpolls.of_data hk hsize
      exact ⟨data, hbytes, (hlooks.flows hk).trans hflows⟩
  | again hround _ ih =>
    obtain ⟨data, hbytes, hflows⟩ := ih hended
    cases hround with
    | polled hlooks hpolls =>
      exact ⟨data, hbytes, (hlooks.flows hk).trans ((hpolls.of_none hk).2.1.trans hflows)⟩

/-- So does a whole wait. -/
lemma flows_of_receive [Add T] [DecidableLE T] (hk : k.Feeds queue coming)
    (hsize : 0 ≤ s.recvBuffer)
    (h : (receive k s interval timeout polls).run st = (.data bytes, st')) :
    ∃ data, bytes = data.take s.recvBuffer.toNat ∧ Flows queue coming [data] st st' := by
  obtain ⟨steps, ended, st'', hreceives⟩ := exists_receives k s interval timeout polls st
  rw [hreceives.run] at h
  obtain ⟨rfl, rfl⟩ := Prod.mk.inj h
  cases hreceives with
  | intro hsets hwaits =>
    obtain ⟨data, hbytes, hflows⟩ := hwaits.of_data hk hsize
    exact ⟨data, hbytes, (hsets.flows hk).trans hflows⟩

/-- Every drain ends, with more polls than there are datagrams. It drops those that leave the queue,
and a wait after it yields none but one that was still to come at its last poll. -/
theorem discardPending_discards [Add T] [DecidableLE T] (hk : k.Feeds queue coming)
    (hsize : 0 ≤ s.recvBuffer) (st : σ) :
    ∃ ended outcome steps last st',
      (∀ polls, (queue st).length + (coming st).length < polls →
        (discardPending k s polls).run st = (ended, st') ∧
          (discardPending k.followed s polls).run (st, []) = (ended, st', steps)) ∧
      ended.toExcept s = some outcome ∧ Discards k s queue coming st steps outcome last ∧
      Flows queue coming [] last st' ∧
      ∀ count, outcome = .ok count →
        ((∃ arrived, coming st = arrived ++ coming last ∧
          count = (queue st).length + arrived.length) ∧ queue last = []) ∧
        ∀ interval timeout polls bytes st₁ st₂, Flows queue coming [] st' st₁ →
          (receive k s interval timeout polls).run st₁ = (.data bytes, st₂) →
            ∃ data arrived, coming last = data :: (arrived ++ coming st₂) ∧
              bytes = data.take s.recvBuffer.toNat := by
  obtain ⟨steps, ended, last, hdrains⟩ :=
    exists_drains k s ((queue st).length + (coming st).length + 1) 0 st
  have hended := hdrains.ne_draining hk hsize (Nat.lt_succ_self _)
  obtain ⟨outcome, houtcome, hdiscards⟩ := hdrains.exists_discards hk hsize hended
  obtain ⟨st', hlater, hreported⟩ := exists_reported hk s ended last
  refine ⟨ended, outcome, steps, last, st', ?_, ?_, hdiscards, hlater, ?_⟩
  · intro polls hpolls
    exact hreported (hdrains.of_le hended hpolls)
  · rw [houtcome]
    cases outcome with
    | error e => rfl
    | ok n => exact congrArg (some ∘ Except.ok) (Nat.zero_add n)
  · rintro count rfl
    obtain ⟨hcount, hempty⟩ := hdiscards.exists_arrived
    refine ⟨⟨hcount, hempty⟩, fun interval timeout polls bytes st₁ st₂ hbetween hreceive => ?_⟩
    obtain ⟨data, hbytes, hread⟩ := flows_of_receive hk hsize hreceive
    obtain ⟨arrived, hcoming⟩ := ((hlater.trans hbetween).trans hread).eq_cons_of_nil hempty
    exact ⟨data, arrived, hcoming, hbytes⟩

end

end DatagramSession

/-- A queue and what is next to come: the datagrams that arrive before each operation, and the
failures of readings. -/
structure Inflow where
  queue : List Bytes
  batches : List (List Bytes)
  failures : List (Option OsError) := []

namespace Inflow

def coming (f : Inflow) : List Bytes := f.batches.flatten

/-- The next batch arrives. -/
def arrive (f : Inflow) : Inflow :=
  { f with queue := f.queue ++ f.batches.headD [], batches := f.batches.tail }

/-- Reads the first datagram, unless that is to fail or there is none. -/
def read (f : Inflow) (size : Int) : Except OsError Bytes × Inflow :=
  match f.failures.headD none, f.queue with
  | some cause, _ => (.error cause, { f with failures := f.failures.tail })
  | none, [] => (.error ⟨"Resource temporarily unavailable"⟩, f)
  | none, data :: rest =>
    (.ok (data.take size.toNat), { f with queue := rest, failures := f.failures.tail })

/-- Sockets at which a batch arrives before every operation. The event is never set. -/
def sockets : Sockets Int (StateM Inflow) where
  create _ := pure ()
  bind _ := pure ()
  connect _ := pure ()
  localPort := pure 0
  send _ := pure ()
  awaitReadable _ := .mk fun f => (.ok !f.arrive.queue.isEmpty, f.arrive)
  receive size := .mk fun f => f.arrive.read size
  close := pure ()
  now f := (0, f.arrive)
  cancelled f := (false, f.arrive)
  log _ f := ((), f.arrive)

lemma flows_arrive (f : Inflow) : Flows queue coming [] f f.arrive := by
  refine ⟨f.batches.headD [], ?_, rfl⟩
  obtain ⟨queue, batches, failures⟩ := f
  cases batches <;> rfl

lemma sockets_feeds : sockets.Feeds queue coming where
  now f reading f' h := by
    cases h
    exact flows_arrive f
  cancelled f set f' h := by
    cases h
    exact flows_arrive f
  log record f f' h := by
    cases h
    exact flows_arrive f
  awaitReadable wait f outcome f' h := by
    cases h
    refine ⟨flows_arrive f, fun hunreadable => ?_⟩
    simpa using hunreadable
  read size f bytes f' _ h := by
    change f.arrive.read size = (.ok bytes, f') at h
    unfold read at h
    split at h <;> cases h
    next data rest hfailure hqueue =>
      refine ⟨data, rfl, (flows_arrive f).trans ⟨[], rfl, ?_⟩⟩
      rw [List.append_nil, hqueue]
      rfl
  unread size f cause f' h := by
    change f.arrive.read size = (.error cause, f') at h
    unfold read at h
    split at h <;> cases h <;> exact (flows_arrive f).trans ⟨[], rfl, List.append_nil _⟩

end Inflow

namespace DatagramSession

/-- Two datagrams wait, and one arrives while they are dropped; a fourth one is read afterwards. If
the second reading fails, what is not read yet stays where it is. -/
theorem discardPending_discards_inflow :
    let s : DatagramSession := ⟨near, far, 2500⟩
    let f : Inflow := ⟨[[], [0xaa]], [[], [[0xbb]], [], [], [], [], [], [[0xcc]]], []⟩
    let g : Inflow := ⟨[[0xaa], [0xbb]], [[], [], [[0xcc]]], [none, some ⟨"Connection refused"⟩]⟩
    Inflow.sockets.Feeds Inflow.queue Inflow.coming ∧ 0 ≤ s.recvBuffer ∧
      (∃ steps last, (discardPending Inflow.sockets s 5).run f = (.empty 3, ⟨[[0xcc]], [], []⟩) ∧
        Discards Inflow.sockets s Inflow.queue Inflow.coming f steps (.ok 3) last ∧
        (receive Inflow.sockets s none (some 5) 1).run ⟨[[0xcc]], [], []⟩ =
          (.data [0xcc], ⟨[], [], []⟩) ∧
        ∃ data arrived, last.coming = data :: arrived ∧ [0xcc] = data.take 2500) ∧
      ∃ steps last, (discardPending Inflow.sockets s 4).run g =
          (.failed ⟨"Connection refused"⟩, ⟨[[0xbb], [0xcc]], [], []⟩) ∧
        Discards Inflow.sockets s Inflow.queue Inflow.coming g steps
          (.error (.transport (.reading far ⟨"Connection refused"⟩))) last := by
  intro s f g
  have hfeeds := Inflow.sockets_feeds
  have hsize : 0 ≤ s.recvBuffer := by decide
  obtain ⟨ended, outcome, steps, last, f', hruns, houtcome, hdiscards, -, hlater⟩ :=
    discardPending_discards hfeeds hsize f
  obtain ⟨ended', outcome', steps', last', g', hruns', houtcome', hdiscards', -, -⟩ :=
    discardPending_discards hfeeds hsize g
  have hdropped : (discardPending Inflow.sockets s 5).run f = (.empty 3, ⟨[[0xcc]], [], []⟩) := rfl
  have hfailed : (discardPending Inflow.sockets s 4).run g =
    (.failed ⟨"Connection refused"⟩, ⟨[[0xbb], [0xcc]], [], []⟩) := rfl
  obtain ⟨rfl, rfl⟩ := Prod.mk.inj ((hruns 5 (by decide)).1.symm.trans hdropped)
  obtain ⟨rfl, rfl⟩ := Prod.mk.inj ((hruns' 4 (by decide)).1.symm.trans hfailed)
  obtain rfl := Option.some.inj houtcome
  obtain rfl := Option.some.inj houtcome'
  refine ⟨hfeeds, hsize, ⟨steps, last, hdropped, hdiscards, rfl, ?_⟩,
    steps', last', hfailed, hdiscards'⟩
  obtain ⟨-, hreceive⟩ := hlater 3 rfl
  obtain ⟨data, arrived, hcoming, hdata⟩ := hreceive none (some 5) 1 [0xcc] _ _ (.refl _) rfl
  exact ⟨data, _, hcoming, hdata⟩

end DatagramSession

end ScionEcho
