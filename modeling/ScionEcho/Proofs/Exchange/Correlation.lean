import Mathlib.Data.List.Basic
import ScionEcho.Proofs.Exchange.Tracking
import ScionEcho.Proofs.Probe.Ids
import ScionEcho.Proofs.Probe.Reference
import ScionEcho.Proofs.Wire.Echo

/-!
# Samples across an unreliable network

Every sample comes from the answer to the request of its own attempt, whatever the network does
with the datagrams. What the run reads is always the answer to one of its requests, so nothing that
arrives can end a run.
-/

namespace ScionEcho.Exchange

open Run

variable {schedule : Schedule} {src dst : Endpoint} {s : RunSettings} {world world' final : World}
  {trials : List Trial} {trial : Trial}

/-- In an attempt, the answer to its own request is received. It has reached the queue after the
queue was emptied and the request was sent. -/
inductive OwnAnswer (schedule : Schedule) (src dst : Endpoint) (s : RunSettings) (attempt : Nat)
    (reply : Bytes) (events : List Event) : Prop
  | mk {request : Bytes} {d : Datagram}
      (hrequest : requestBytes src dst s (schedule.ids attempt) = .ok request)
      (hanswer : Responder.answer request = .ok reply)
      (hdatagram : d = ⟨.client, attempt, reply⟩)
      (hevents : [.discarded attempt, .sent attempt request, .arrived d,
        .received attempt d].Sublist events)

/-- The ids that were drawn have 64 bits, and no two of them are equal. -/
structure DistinctIds (schedule : Schedule) (drawn : Nat) : Prop where
  fits : ∀ n, 0 < n → n ≤ drawn → FitsIn 8 (schedule.ids n)
  ne : ∀ m n, 0 < m → m < n → n ≤ drawn → schedule.ids m ≠ schedule.ids n

lemma DistinctIds.mono {drawn drawn' : Nat} (h : DistinctIds schedule drawn')
    (hle : drawn ≤ drawn') : DistinctIds schedule drawn :=
  ⟨fun n hpos hn => h.fits n hpos (Nat.le_trans hn hle),
    fun m n hpos hlt hn => h.ne m n hpos hlt (Nat.le_trans hn hle)⟩

lemma DistinctIds.eq_of_ids_eq {drawn m n : Nat} (h : DistinctIds schedule drawn) (hm : 0 < m)
    (hmle : m ≤ drawn) (hn : 0 < n) (hnle : n ≤ drawn)
    (heq : schedule.ids m = schedule.ids n) : m = n := by
  rcases Nat.lt_trichotomy m n with hlt | rfl | hgt
  · exact absurd heq (h.ne m n hm hlt hnle)
  · rfl
  · exact absurd heq.symm (h.ne n m hn hgt hmle)

/-- The ids of a generator have 64 bits. All that needs to be asked of them is that none is given out
twice. -/
theorem distinctIds_of_generator {t : Twister} {turns : Nat → Turn} {drawn : Nat}
    (h : ∀ m n, m < n → n < drawn → t.ids m ≠ t.ids n) :
    DistinctIds { turns, ids := fun n => t.ids (n - 1) } drawn where
  fits n _ _ := t.fitsIn_ids (n - 1)
  ne m n hm hlt hn heq := h (m - 1) (n - 1) (by omega) (by omega) (Int.ofNat_inj.mp heq)

lemma OwnAnswer.mono {attempt : Nat} {reply : Bytes} {events events' : List Event}
    (h : OwnAnswer schedule src dst s attempt reply events) (hpart : events <+: events') :
    OwnAnswer schedule src dst s attempt reply events' := by
  obtain ⟨hrequest, hanswer, hdatagram, hevents⟩ := h
  exact ⟨hrequest, hanswer, hdatagram, hevents.trans hpart.sublist⟩

/-! ### What attempts leave -/

lemma Settled.pass (h : Settled schedule src dst s world) :
    Settled schedule src dst s (world.pass schedule) := by
  have hpassed := Tracks.pass (genuine_passesToAnswers schedule src dst s world.drawn) h schedule
  rw [Settled, drawn_pass]
  exact hpassed

/-- What an attempt reads is genuine. If it stems from the attempt itself, it has arrived since the
request was sent. -/
lemma settled_of_receives {id sentAt receivedAt : Int} {reply : Bytes}
    (hreceives : Receives (surroundings schedule src dst) s world id sentAt receivedAt reply world')
    (h : Settled schedule src dst s world) :
    Settled schedule src dst s world' ∧ world'.drawn = world.drawn + 1 ∧
      id = schedule.ids world'.drawn ∧
      ∃ request d, requestBytes src dst s id = .ok request ∧ d.bytes = reply ∧
        d.heading = .client ∧ Genuine schedule src dst s world'.drawn d ∧
          (d.origin = world'.drawn → [.discarded world'.drawn, .sent world'.drawn request,
            .arrived d, .received world'.drawn d].Sublist world'.events) := by
  cases hreceives with
  | @mk request _ st₁ st₂ _ hsends hreceive hclock =>
    obtain ⟨hdrawn₁, hid, hrequest, mark, hmark, htracks₁⟩ := tracks_of_sends hsends h
    have hP := genuine_passesToAnswers schedule src dst s st₁.drawn
    obtain ⟨hdrawn₂, htracks₂, d, hbytes, hgenuine, hheading, howned⟩ :=
      tracks_of_receive hP hreceive htracks₁
    obtain rfl : st₂.pass schedule = world' := congrArg Prod.snd hclock
    have hdrawn : (st₂.pass schedule).drawn = st₁.drawn := by rw [drawn_pass, hdrawn₂]
    rw [← hdrawn] at hmark htracks₂ hgenuine howned hid hdrawn₁
    refine ⟨(htracks₂.pass (hdrawn ▸ hP) schedule).settled, hdrawn₁, hid, request, d, hrequest,
      hbytes, hheading, hgenuine, ?_⟩
    intro horigin
    obtain ⟨later, hevents, hlater⟩ := howned horigin
    refine (List.Sublist.append hmark hlater).trans ?_
    rw [← hevents]
    exact (later_pass schedule st₂).1.sublist

/-- After an attempt that is not fatal, one more id is drawn and everything stems from attempts. -/
lemma settled_of_attempt (hattempt : Attempt (surroundings schedule src dst) s world (.ok trial) world')
    (h : Settled schedule src dst s world) :
    Settled schedule src dst s world' ∧ world'.drawn = world.drawn + 1 := by
  cases hattempt with
  | timedOut hsends hreceive =>
    obtain ⟨hdrawn₁, -, -, mark, -, htracks₁⟩ := tracks_of_sends hsends h
    obtain ⟨hdrawn₂, htracks₂⟩ :=
      tracks_of_receive_error (genuine_passesToAnswers schedule src dst s _) hreceive htracks₁
    rw [← hdrawn₂] at htracks₂ hdrawn₁
    exact ⟨htracks₂.settled, hdrawn₁⟩
  | mismatch hreceives =>
    obtain ⟨hsettled, hdrawn, -⟩ := settled_of_receives hreceives h
    exact ⟨hsettled, hdrawn⟩
  | success hreceives =>
    obtain ⟨hsettled, hdrawn, -⟩ := settled_of_receives hreceives h
    exact ⟨hsettled, hdrawn⟩

lemma settled_of_record {attempts : Nat} {xs : List Int} {r : Except Failure (List Int)}
    (hreport : execute (record (surroundings schedule src dst) attempts xs trial) world = (r, world'))
    (h : Settled schedule src dst s world) :
    Settled schedule src dst s world' ∧ world'.drawn = world.drawn := by
  obtain rfl : _ = world' := congrArg Prod.snd hreport
  rcases record_cases (surroundings schedule src dst) attempts xs trial world with
    ⟨entry, hok⟩ | ⟨elapsed, e, -, -, herror⟩
  · rw [hok]
    exact ⟨h.pass, drawn_pass schedule world⟩
  · rw [herror]
    exact ⟨h, rfl⟩

lemma settled_of_course (h : Course (surroundings schedule src dst) s {} trials world) :
    Settled schedule src dst s world ∧ world.drawn = trials.length := by
  induction h with
  | nil =>
    refine ⟨⟨?_, ?_, [], rfl, ?_⟩, rfl⟩ <;> intro d hd <;> cases hd
  | @snoc trials trial collected st st₁ st₂ st₃ hcourse hgo hattempt hreport ih =>
    obtain ⟨hsettled, hdrawn⟩ := ih
    obtain rfl : st.pass schedule = st₁ := congrArg Prod.snd hgo
    obtain ⟨hsettled₂, hdrawn₂⟩ := settled_of_attempt hattempt hsettled.pass
    obtain ⟨hsettled₃, hdrawn₃⟩ := settled_of_record hreport hsettled₂
    refine ⟨hsettled₃, ?_⟩
    rw [hdrawn₃, hdrawn₂, drawn_pass, hdrawn, List.length_append, List.length_singleton]

/-! ### What attempts read -/

section

variable (hsrc : src.ia.InRange) (hdst : dst.ia.InRange) (hmtu : requestSize src dst ≤ minMtu)
  (hlimit : requestSize src dst ≤ s.maxPacketLength)

include hsrc hdst hmtu hlimit

/-- A genuine datagram that is headed for the client is an echo of the id of its attempt. -/
lemma Genuine.exists_decode {drawn : Nat} {d : Datagram} (hids : DistinctIds schedule drawn)
    (h : Genuine schedule src dst s drawn d) (hheading : d.heading = .client) :
    ∃ packet, Packet.decode d.bytes = .ok packet ∧
      packet.correlationId = .ok (schedule.ids d.origin) := by
  obtain ⟨hpos, hle, request, hrequest, hbytes⟩ := h
  rw [hheading] at hbytes
  obtain ⟨request', reply, packet, hrequest', hanswer, hdecode, hid⟩ :=
    exists_exchange hsrc hdst (hids.fits d.origin hpos hle) hmtu hlimit
  rw [hrequest, Except.ok.injEq] at hrequest'
  subst hrequest'
  rw [hbytes, Except.ok.injEq] at hanswer
  subst hanswer
  exact ⟨packet, hdecode, hid⟩

/-- A success has received the answer to its own request. -/
lemma ownAnswer_of_success (hids : DistinctIds schedule world'.drawn)
    (hattempt : Attempt (surroundings schedule src dst) s world (.ok trial) world')
    (hsuccess : trial.outcome = .success) (h : Settled schedule src dst s world) :
    ∃ id sentAt receivedAt reply,
      Receives (surroundings schedule src dst) s world id sentAt receivedAt reply world' ∧
        OwnAnswer schedule src dst s world'.drawn reply world'.events := by
  cases hattempt with
  | timedOut => cases hsuccess
  | mismatch => cases hsuccess
  | @success id sentAt receivedAt reply packet _ hreceives hdecode hid =>
    obtain ⟨-, hdrawn, hown, request, d, hrequest, rfl, hheading, hgenuine, htrace⟩ :=
      settled_of_receives hreceives h
    refine ⟨id, sentAt, receivedAt, d.bytes, hreceives, ?_⟩
    obtain ⟨packet', hdecode', hid'⟩ :=
      hgenuine.exists_decode hsrc hdst hmtu hlimit hids hheading
    rw [hdecode, Except.ok.injEq] at hdecode'
    subst hdecode'
    rw [hid, Except.ok.injEq, hown] at hid'
    -- two attempts never share an id, so the id tells whose answer this is
    have horigin : d.origin = world'.drawn :=
      (hids.eq_of_ids_eq (by omega) (Nat.le_refl _) hgenuine.pos hgenuine.le hid').symm
    obtain ⟨-, -, request', hrequest', hanswer⟩ := hgenuine
    rw [hheading] at hanswer
    rw [horigin, ← hown, hrequest, Except.ok.injEq] at hrequest'
    subst hrequest'
    refine ⟨by rwa [← hown], hanswer, ?_, htrace horigin⟩
    rw [← horigin, ← hheading]

lemma ownAnswers_of_course (hids : DistinctIds schedule world.drawn)
    (h : Course (surroundings schedule src dst) s {} trials world) :
    ∀ k trial, trials[k]? = some trial → trial.outcome = .success →
      ∃ reply, Reads (surroundings schedule src dst) s {} (trials.take k) reply ∧
        OwnAnswer schedule src dst s (k + 1) reply world.events := by
  induction h with
  | nil =>
    intro k trial htrial
    simp at htrial
  | @snoc trials last collected st st₁ st₂ st₃ hcourse hgo hattempt hreport ih =>
    intro k trial htrial hsuccess
    have hrespects := surroundings_respects schedule src dst
    have hreported : Later st₂ st₃ := by
      have := record_respects hrespects (trials.length + 1) (samples trials) last st₂
      rwa [hreport] at this
    have hattempted : Later st st₂ := (hrespects.cancelled hgo).trans (hattempt.respects hrespects)
    obtain ⟨hsettled, hdrawn⟩ := settled_of_course hcourse
    rcases Nat.lt_or_ge k trials.length with hk | hk
    · rw [List.getElem?_append_left hk] at htrial
      obtain ⟨reply, hreads, hown⟩ :=
        ih (hids.mono (hattempted.trans hreported).2) k trial htrial hsuccess
      refine ⟨reply, ?_, hown.mono (hattempted.trans hreported).1⟩
      rwa [List.take_append_of_le_length (Nat.le_of_lt hk)]
    · obtain ⟨hlt, hget⟩ := List.getElem?_eq_some_iff.mp htrial
      rw [List.length_append, List.length_singleton] at hlt
      obtain rfl : k = trials.length := by omega
      rw [List.getElem?_concat_length, Option.some.injEq] at htrial
      subst htrial
      obtain rfl : st.pass schedule = st₁ := congrArg Prod.snd hgo
      obtain ⟨id, sentAt, receivedAt, reply, hreceives, hown⟩ :=
        ownAnswer_of_success hsrc hdst hmtu hlimit (hids.mono hreported.2) hattempt hsuccess
          hsettled.pass
      obtain ⟨-, hdrawn₂⟩ := settled_of_attempt hattempt hsettled.pass
      rw [hdrawn₂, drawn_pass, hdrawn] at hown
      refine ⟨reply, ?_, hown.mono hreported.1⟩
      rw [List.take_left]
      exact .mk hcourse hgo hreceives

lemma requestBytes_ne {drawn m n : Nat} (hids : DistinctIds schedule drawn) (hm : 0 < m)
    (hlt : m < n) (hn : n ≤ drawn) :
    requestBytes src dst s (schedule.ids m) ≠ requestBytes src dst s (schedule.ids n) := by
  intro heq
  have hmax : requestSize src dst ≤ maxPacketLength := Nat.le_trans hmtu (by decide)
  exact hids.ne m n hm hlt hn <|
    requestBytes_injective hsrc hdst (hids.fits m hm (by omega)) (hids.fits n (by omega) hn) hmax
      hlimit heq

/-- No attempt is fatal if no call fails by itself. -/
lemma not_attempt_error {e : Failure} (hfree : ∀ n, (schedule.turns n).failure = none)
    (hids : DistinctIds schedule world'.drawn) (h : Settled schedule src dst s world) :
    ¬ Attempt (surroundings schedule src dst) s world (.error e) world' := by
  intro hattempt
  cases hattempt with
  | undrawn hdraw => cases congrArg Prod.fst (eq_of_call (f := World.draw schedule) hfree hdraw)
  | unwritten hdraw hrequest =>
    have hdrawn := eq_of_call (f := World.draw schedule) hfree hdraw
    simp only [World.draw, Prod.mk.injEq, Except.ok.injEq, drawn_pass] at hdrawn
    obtain ⟨rfl, rfl⟩ := hdrawn
    obtain ⟨request, -, -, hwritten, -⟩ := exists_exchange (s := s) hsrc hdst
      (hids.fits (world.drawn + 1) (Nat.succ_pos _) (Nat.le_refl _)) hmtu hlimit
    have hrefused : requestBytes src dst s (schedule.ids (world.drawn + 1)) = .error _ := hrequest
    rw [hwritten] at hrefused
    cases hrefused
  | undiscarded _ _ hdiscard =>
    cases congrArg Prod.fst (eq_of_call (f := World.discard) hfree hdiscard)
  | @unsent _ _ request _ _ _ _ _ _ _ _ _ _ hsend =>
    cases congrArg Prod.fst (eq_of_call (f := World.send request) hfree hsend)
  | unreceived _ hreceive hcause =>
    have hreceived := eq_of_call (f := World.receive) hfree hreceive
    unfold World.receive at hreceived
    split at hreceived
    · simp only [Prod.mk.injEq, Except.error.injEq] at hreceived
      exact hcause 0 hreceived.1.symm
    · cases congrArg Prod.fst hreceived
  | undecodable hreceives hdecode =>
    obtain ⟨-, -, -, request, d, -, rfl, hheading, hgenuine, -⟩ := settled_of_receives hreceives h
    obtain ⟨packet, hread, -⟩ := hgenuine.exists_decode hsrc hdst hmtu hlimit hids hheading
    rw [hdecode] at hread
    cases hread
  | invalid hreceives hdecode hid =>
    obtain ⟨-, -, -, request, d, -, rfl, hheading, hgenuine, -⟩ := settled_of_receives hreceives h
    obtain ⟨packet, hread, hecho⟩ := hgenuine.exists_decode hsrc hdst hmtu hlimit hids hheading
    rw [hdecode, Except.ok.injEq] at hread
    subst hread
    rw [hid] at hecho
    cases hecho

end

/-! ### Whole runs -/

/-- Every sample of a run stems from the answer to the request of its own attempt, which has
reached the queue after the attempt had emptied it, however the network delays, loses, repeats and
reorders; and no two attempts send the same request. If no call fails by itself and the run is not
given up, it ends with a measurement, or with its budget exhausted. -/
theorem run_correlates (hsrc : src.ia.InRange) (hdst : dst.ia.InRange)
    (hmtu : requestSize src dst ≤ minMtu) (hlimit : requestSize src dst ≤ s.maxPacketLength)
    (htarget : 1 ≤ s.target) {r : Except Failure Measurement}
    (hrun : execute (run (surroundings schedule src dst) s) {} = (r, final))
    (hids : DistinctIds schedule final.drawn) :
    (∃ trials world, Follows (surroundings schedule src dst) s {} trials world ∧
      Ends (surroundings schedule src dst) s trials world r final ∧
      (∀ m, r = .ok m → m = ⟨samples trials, trials.length⟩) ∧
      (∀ k trial, trials[k]? = some trial → trial.outcome = .success →
        ∃ reply, Reads (surroundings schedule src dst) s {} (trials.take k) reply ∧
          OwnAnswer schedule src dst s (k + 1) reply final.events) ∧
      ∀ j k, j < k → k < trials.length →
        requestBytes src dst s (schedule.ids (j + 1)) ≠
          requestBytes src dst s (schedule.ids (k + 1))) ∧
    ((∀ n, (schedule.turns n).failure = none) → (∀ n, (schedule.turns n).cancelled = false) →
      (∀ n, IsClockReading (schedule.turns n).reading) →
      (∃ m, r = .ok m) ∨ ∃ count attempts, r = .error (.budget count attempts s.target)) := by
  have hrespects := surroundings_respects schedule src dst
  obtain ⟨trials, world, hfollows, hends⟩ := run_ends (surroundings schedule src dst) s {}
  rw [hrun] at hends
  dsimp only at hends
  have hlater := hends.respects hrespects
  obtain ⟨hsettled, hdrawn⟩ := settled_of_course hfollows.course
  refine ⟨⟨trials, world, hfollows, hends, ?_, ?_, ?_⟩, ?_⟩
  · rintro m rfl
    exact hends.eq_of_ok
  · intro k trial htrial hsuccess
    obtain ⟨reply, hreads, hown⟩ := ownAnswers_of_course hsrc hdst hmtu hlimit
      (hids.mono hlater.2) hfollows.course k trial htrial hsuccess
    exact ⟨reply, hreads, hown.mono hlater.1⟩
  · intro j k hlt hk
    exact requestBytes_ne hsrc hdst hmtu hlimit (hids.mono hlater.2) (Nat.succ_pos j) (by omega)
      (by omega)
  · intro hfree hgo hreading
    have hclock : ∀ world, IsClockReading ((surroundings schedule src dst).clock.run world).1 :=
      fun world => hreading world.time
    have hgoes : ∀ world, ((surroundings schedule src dst).cancelled.run world).1 = false :=
      fun world => hgo world.time
    rcases hends.resolve hfollows.course hclock hgoes htarget with
      ⟨-, hr⟩ | ⟨-, -, hr⟩ | ⟨e, st₁, -, -, hcontinue, hattempt, -⟩
    · exact .inl ⟨_, hr⟩
    · exact .inr ⟨_, _, hr⟩
    · obtain rfl : world.pass schedule = st₁ := congrArg Prod.snd hcontinue
      exact (not_attempt_error hsrc hdst hmtu hlimit hfree hids hsettled.pass hattempt).elim

/-- A network that keeps the first request until the second attempt waits for its reply, and is
prompt in the third attempt. The clock ticks with every call. -/
def tardy : Schedule where
  turns n :=
    { moves := if n = 12 then [.deliver 1, .deliver 0] else if n = 20 then [.deliver 0, .deliver 0]
        else []
      reading := (n % 1000 : Nat) }
  ids n := n

/-- The run across the tardy network. -/
def tardyRun : Except Failure Measurement × World :=
  execute (run (surroundings tardy here there) { target := 1, maxAttempts := 3 }) {}

theorem tardyRun_correlates :
    tardyRun.1 = .ok ⟨[3], 3⟩ ∧
      (∃ reply, OwnAnswer tardy here there { target := 1, maxAttempts := 3 } 3 reply
        tardyRun.2.events) ∧
      ((∃ m, tardyRun.1 = .ok m) ∨
        ∃ count attempts, tardyRun.1 = .error (.budget count attempts 1)) := by
  have hdrawn : tardyRun.2.drawn = 3 := by decide +kernel
  have hrun : execute (run (surroundings tardy here there) { target := 1, maxAttempts := 3 }) {} =
      (tardyRun.1, tardyRun.2) := by
    change tardyRun = (tardyRun.1, tardyRun.2)
    cases tardyRun
    rfl
  have hids : DistinctIds tardy tardyRun.2.drawn := by
    rw [hdrawn]
    refine ⟨fun n _ hle => ⟨Int.natCast_nonneg n, ?_⟩, fun m n _ hlt _ heq => ?_⟩
    · have hn : (n : Int) < 256 ^ 8 := by omega
      exact hn
    · have hcast : (m : Int) = n := heq
      omega
  have hreading (n : Nat) : IsClockReading (tardy.turns n).reading := by
    have hn : -2 ^ 63 ≤ ((n % 1000 : Nat) : Int) ∧ ((n % 1000 : Nat) : Int) < 2 ^ 64 := by omega
    exact hn
  obtain ⟨⟨trials, world, hfollows, -, hmeasured, hown, -⟩, hends⟩ :=
    run_correlates (s := { target := 1, maxAttempts := 3 })
      ⟨by decide, by decide, by decide, by decide⟩ ⟨by decide, by decide, by decide, by decide⟩
      (by decide) (by decide) (by decide) hrun hids
  have hresult : tardyRun.1 = .ok ⟨[3], 3⟩ := eq_ok_of_toOption (by decide +kernel)
  refine ⟨hresult, ?_⟩
  have hmeasurement := hmeasured _ hresult
  simp only [Measurement.mk.injEq] at hmeasurement
  obtain ⟨hsamples, hlength⟩ := hmeasurement
  obtain ⟨first, second, third, rfl⟩ := List.length_eq_three.mp (by omega : trials.length = 3)
  have hfew := hfollows.unfinished 2 (by simp)
  have hnone : samples [first, second] = [] := by
    rw [← List.length_eq_zero_iff]
    have hfew : ((samples [first, second]).length : Int) < 1 := hfew
    omega
  have hthird : samples ([first, second] ++ [third]) = [3] := hsamples.symm
  rw [samples_append, hnone, samples_singleton, List.nil_append] at hthird
  obtain ⟨reply, -, hreply⟩ := hown 2 third rfl (Decidable.of_not_not fun hother => by
    rw [Trial.elapsed?_eq_none hother] at hthird
    cases hthird)
  exact ⟨⟨reply, hreply⟩, hends (fun _ => rfl) (fun _ => rfl) hreading⟩

end ScionEcho.Exchange
