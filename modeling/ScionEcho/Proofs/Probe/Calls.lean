import Mathlib.Data.List.Basic
import ScionEcho.Proofs.Probe.Reference
import ScionEcho.Proofs.Wire.Size

/-!
# The calls of a run

Which calls a run makes of its session, its clock and its source of ids, and in which order. An
apparatus is made to keep a list of the calls; the run over it is the run over the apparatus itself,
so what holds of the list holds of the calls of every run. The verdict on an attempt decides which
calls it makes, and there is one block of calls for each attempt. Only the last block may be cut
short.
-/

namespace ScionEcho

/-- A call that a run makes, what it is given and what it yields. -/
inductive Call (E : Type)
  | drawId (outcome : Except Failure Int)
  | discardPending (outcome : Except Failure Nat)
  | clock (reading : Int)
  | send (request : Bytes) (outcome : Except Failure Unit)
  | receive (timeout : Option Seconds) (cancel : Option E) (outcome : Except Failure Bytes)

variable {E σ α : Type}

/-- What is called. -/
inductive CallKind
  | drawId
  | discardPending
  | clock
  | send
  | receive
  deriving DecidableEq

namespace Call

def kind : Call E → CallKind
  | .drawId _ => .drawId
  | .discardPending _ => .discardPending
  | .clock _ => .clock
  | .send _ _ => .send
  | .receive _ _ _ => .receive

/-- The failure that a call yields, if it yields one. -/
def failure? : Call E → Option Failure
  | .drawId (.error e) | .discardPending (.error e) | .send _ (.error e)
  | .receive _ _ (.error e) => some e
  | _ => none

end Call

/-! ### Keeping a list of the calls -/

/-- A call that may fail. It is added to the list with what it yields. -/
def noted (note : Except Failure α → Call E) (x : ExceptT Failure (StateM σ) α) :
    ExceptT Failure (StateM (σ × List (Call E))) α :=
  ExceptT.mk fun (st, calls) =>
    ((execute x st).1, (execute x st).2, calls ++ [note (execute x st).1])

/-- What is not added to the list. -/
def unnoted (x : StateM σ α) : StateM (σ × List (Call E)) α :=
  fun (st, calls) => ((x.run st).1, (x.run st).2, calls)

/-- The apparatus, which also keeps a list of the calls. Looks at the event and at the log are not
on the list. -/
def Apparatus.recorded (a : Apparatus E (StateM σ)) : Apparatus E (StateM (σ × List (Call E))) where
  src := a.src
  dst := a.dst
  drawId := noted .drawId a.drawId
  discardPending := noted .discardPending a.discardPending
  clock := fun (st, calls) =>
    ((a.clock.run st).1, (a.clock.run st).2, calls ++ [.clock (a.clock.run st).1])
  send request := noted (.send request) (a.send request)
  receive timeout cancel := noted (.receive timeout cancel) (a.receive timeout cancel)
  isSet event := unnoted (a.isSet event)
  log entry := unnoted (a.log entry)

namespace Run

/-- The bytes are the echo request with the given id, which is not too long for the settings. -/
structure IsRequest (src dst : Endpoint) (s : RunSettings) (id : Int) (request : Bytes) : Prop where
  encode : (probePacket src dst id).encode s.maxPacketLength = .ok request
  length_le : (request.length : Int) ≤ s.maxPacketLength

/-- An id is drawn, late datagrams are discarded, and the clock is read. -/
def opening (id : Int) (dropped : Nat) (sentAt : Int) : List (Call E) :=
  [.drawId (.ok id), .discardPending (.ok dropped), .clock sentAt]

/-- The calls of an attempt that receives some bytes. The clock is read once more after that. -/
def answered (s : RunSettings) (cancel : Option E) (id : Int) (dropped : Nat) (sentAt : Int)
    (request reply : Bytes) (receivedAt : Int) : List (Call E) :=
  opening id dropped sentAt ++ [.send request (.ok ()), .receive s.timeout cancel (.ok reply),
    .clock receivedAt]

/-- The calls of an attempt with this verdict. If a call fails then it is the last one, and if the
request cannot be encoded then there is only the draw. -/
inductive Block (src dst : Endpoint) (s : RunSettings) (cancel : Option E) :
    Except Failure Trial → List (Call E) → Prop
  | undrawn {e : Failure} : Block src dst s cancel (.error e) [.drawId (.error e)]
  | unwritten {id : Int} {cause : EncodeError}
      (hrequest : (probePacket src dst id).encode s.maxPacketLength = .error cause) :
      Block src dst s cancel (.error (.encode cause)) [.drawId (.ok id)]
  | undiscarded {id : Int} {request : Bytes} {e : Failure}
      (hrequest : IsRequest src dst s id request) :
      Block src dst s cancel (.error e) [.drawId (.ok id), .discardPending (.error e)]
  | unsent {id sentAt : Int} {dropped : Nat} {request : Bytes} {e : Failure}
      (hrequest : IsRequest src dst s id request) :
      Block src dst s cancel (.error e) (opening id dropped sentAt ++ [.send request (.error e)])
  | unreceived {id sentAt : Int} {dropped : Nat} {request : Bytes} {e : Failure}
      (hrequest : IsRequest src dst s id request) (hcause : ∀ limit, e ≠ .timedOut limit) :
      Block src dst s cancel (.error e) (opening id dropped sentAt ++ [.send request (.ok ()),
        .receive s.timeout cancel (.error e)])
  | timedOut {id sentAt : Int} {dropped : Nat} {request : Bytes} {limit : Float}
      (hrequest : IsRequest src dst s id request) :
      Block src dst s cancel (.ok ⟨id, sentAt, none, .timeout⟩) (opening id dropped sentAt ++
        [.send request (.ok ()), .receive s.timeout cancel (.error (.timedOut limit))])
  | undecodable {id sentAt receivedAt : Int} {dropped : Nat} {request reply : Bytes}
      {e : DecodeError} (hrequest : IsRequest src dst s id request)
      (hdecode : Packet.decode reply = .error e) :
      Block src dst s cancel (.error (.decode e))
        (answered s cancel id dropped sentAt request reply receivedAt)
  | invalid {id sentAt receivedAt : Int} {dropped : Nat} {request reply : Bytes} {packet : Packet}
      {e : ReplyError} (hrequest : IsRequest src dst s id request)
      (hdecode : Packet.decode reply = .ok packet) (hid : packet.correlationId = .error e) :
      Block src dst s cancel (.error (.reply e))
        (answered s cancel id dropped sentAt request reply receivedAt)
  | mismatch {id sentAt receivedAt found : Int} {dropped : Nat} {request reply : Bytes}
      {packet : Packet} (hrequest : IsRequest src dst s id request)
      (hdecode : Packet.decode reply = .ok packet) (hid : packet.correlationId = .ok found)
      (hother : found ≠ id) :
      Block src dst s cancel (.ok ⟨id, sentAt, some receivedAt, .mismatch⟩)
        (answered s cancel id dropped sentAt request reply receivedAt)
  | success {id sentAt receivedAt : Int} {dropped : Nat} {request reply : Bytes} {packet : Packet}
      (hrequest : IsRequest src dst s id request)
      (hdecode : Packet.decode reply = .ok packet) (hid : packet.correlationId = .ok id) :
      Block src dst s cancel (.ok ⟨id, sentAt, some receivedAt, .success⟩)
        (answered s cancel id dropped sentAt request reply receivedAt)

/-- After these trials there are too few samples, and attempts are left. -/
structure GoesOn (s : RunSettings) (trials : List Trial) : Prop where
  few : ((samples trials).length : Int) < s.target
  left : trials.length < s.maxAttempts.toNat

/-- What a run yields that makes no call any more after these trials. -/
inductive Stops (s : RunSettings) (cancel : Option E) (trials : List Trial) :
    Except Failure Measurement → Prop
  | completed (henough : s.target ≤ (samples trials).length) :
      Stops s cancel trials (.ok ⟨samples trials, trials.length⟩)
  | unaveraged {cause : NumberError} (henough : s.target ≤ (samples trials).length)
      (haverage : Measurement.averageRttMs ⟨samples trials, trials.length⟩ = .error cause) :
      Stops s cancel trials (.error (.number cause))
  | exhausted (hfew : ((samples trials).length : Int) < s.target)
      (hall : trials.length = s.maxAttempts.toNat) :
      Stops s cancel trials (.error (.budget (samples trials).length trials.length s.target))
  | cancelled (hgoes : GoesOn s trials) (hevent : cancel ≠ none) :
      Stops s cancel trials (.error (.cancelled "Measurement cancelled"))

/-- The result of a run and its calls after these trials: one block for each further attempt, as
long as there are too few samples and attempts are left. Only the last block may be that of a fatal
attempt, and its failure then is the result. -/
inductive Orderly (src dst : Endpoint) (s : RunSettings) (cancel : Option E) :
    List Trial → Except Failure Measurement → List (Call E) → Prop
  | stops {trials : List Trial} {r : Except Failure Measurement}
      (hstops : Stops s cancel trials r) : Orderly src dst s cancel trials r []
  | fatal {trials : List Trial} {e : Failure} {block : List (Call E)} (hgoes : GoesOn s trials)
      (hblock : Block src dst s cancel (.error e) block) :
      Orderly src dst s cancel trials (.error e) block
  | unreported {trials : List Trial} {trial : Trial} {elapsed : Int} {cause : NumberError}
      {block : List (Call E)} (hgoes : GoesOn s trials)
      (hblock : Block src dst s cancel (.ok trial) block)
      (helapsed : roundTrip? trial = some elapsed) (hmillis : millis elapsed = .error cause) :
      Orderly src dst s cancel trials (.error (.number cause)) block
  | append {trials : List Trial} {trial : Trial} {r : Except Failure Measurement}
      {block calls : List (Call E)} (hgoes : GoesOn s trials)
      (hblock : Block src dst s cancel (.ok trial) block)
      (hrest : Orderly src dst s cancel (trials ++ [trial]) r calls) :
      Orderly src dst s cancel trials r (block ++ calls)

variable {src dst : Endpoint} {s : RunSettings} {cancel : Option E} {a : Apparatus E (StateM σ)}
  {st st' : σ} {trials : List Trial} {verdict : Except Failure Trial}
  {r : Except Failure Measurement} {calls : List (Call E)}

lemma isRequest_of_requestBytes {id : Int} {request : Bytes}
    (h : requestBytes src dst s id = .ok request) : IsRequest src dst s id request := by
  rw [requestBytes_eq] at h
  exact ⟨h, Packet.length_le_of_encode h⟩

/-! ### Keeping a list changes nothing -/

lemma execute_noted {note : Except Failure α → Call E} {x : ExceptT Failure (StateM σ) α}
    {outcome : Except Failure α} (h : execute x st = (outcome, st')) (calls : List (Call E)) :
    execute (noted note x) (st, calls) = (outcome, st', calls ++ [note outcome]) :=
  execute_recording h calls

lemma run_recorded_clock {reading : Int} (h : a.clock.run st = (reading, st'))
    (calls : List (Call E)) :
    a.recorded.clock.run (st, calls) = (reading, st', calls ++ [.clock reading]) := by
  change ((a.clock.run st).1, (a.clock.run st).2, calls ++ [.clock (a.clock.run st).1]) = _
  rw [h]

lemma run_recorded_cancelled {stop : Bool}
    (h : (a.surroundings cancel).cancelled.run st = (stop, st')) (calls : List (Call E)) :
    (a.recorded.surroundings cancel).cancelled.run (st, calls) = (stop, st', calls) := by
  cases cancel with
  | none =>
    cases h
    rfl
  | some event =>
    change (((a.isSet event).run st).1, ((a.isSet event).run st).2, calls) = _
    have hset : (a.isSet event).run st = (stop, st') := h
    rw [hset]

lemma execute_recorded_record (a : Apparatus E (StateM σ)) (cancel : Option E) (attempts : Nat)
    (xs : List Int) (trial : Trial) (st : σ) (calls : List (Call E)) :
    execute (record (a.recorded.surroundings cancel) attempts xs trial) (st, calls) =
      ((execute (record (a.surroundings cancel) attempts xs trial) st).1,
        (execute (record (a.surroundings cancel) attempts xs trial) st).2, calls) := by
  unfold record
  cases trial.elapsed? with
  | none => rfl
  | some elapsed =>
    dsimp only
    rw [execute_bind, execute_bind, execute_orFail, execute_orFail]
    cases millis elapsed <;> rfl

lemma execute_recorded_finish (attempts : Nat) (xs : List Int) (st : σ) (calls : List (Call E)) :
    execute (finish (a.recorded.surroundings cancel) s attempts xs) (st, calls) =
      ((execute (finish (a.surroundings cancel) s attempts xs) st).1,
        (execute (finish (a.surroundings cancel) s attempts xs) st).2, calls) := by
  unfold finish
  by_cases hfew : (xs.length : Int) < s.target
  · rw [if_pos hfew, if_pos hfew]
    rfl
  · rw [if_neg hfew, if_neg hfew, execute_bind, execute_bind, execute_orFail, execute_orFail]
    cases Measurement.averageRttMs ⟨xs, attempts⟩ <;> rfl

/-! ### Attempts -/

lemma Sends.recorded {id sentAt : Int} {request : Bytes}
    (h : Sends (a.surroundings cancel) s st id request sentAt st') (calls : List (Call E)) :
    IsRequest a.src a.dst s id request ∧ ∃ dropped,
      Sends (a.recorded.surroundings cancel) s (st, calls) id request sentAt
        (st', calls ++ (opening id dropped sentAt ++ [.send request (.ok ())])) := by
  cases h with
  | mk hdraw hrequest hdiscard hclock hsend =>
    have hsends := Sends.mk (w := a.recorded.surroundings cancel) (execute_noted hdraw calls)
      hrequest (execute_noted hdiscard _) (run_recorded_clock hclock _) (execute_noted hsend _)
    simp only [List.append_assoc, List.cons_append, List.nil_append] at hsends
    exact ⟨isRequest_of_requestBytes hrequest, _, hsends⟩

lemma Receives.recorded {id sentAt receivedAt : Int} {reply : Bytes}
    (h : Receives (a.surroundings cancel) s st id sentAt receivedAt reply st')
    (calls : List (Call E)) :
    ∃ dropped request, IsRequest a.src a.dst s id request ∧
      Receives (a.recorded.surroundings cancel) s (st, calls) id sentAt receivedAt reply
        (st', calls ++ answered s cancel id dropped sentAt request reply receivedAt) := by
  cases h with
  | @mk request _ _ _ _ hsends hreceive hclock =>
    obtain ⟨hrequest, dropped, hsent⟩ := hsends.recorded calls
    have hreceives := Receives.mk hsent (execute_noted hreceive _) (run_recorded_clock hclock _)
    simp only [List.append_assoc, List.cons_append, List.nil_append] at hreceives
    exact ⟨dropped, request, hrequest, hreceives⟩

/-- An attempt makes the calls that go with its verdict. -/
lemma Attempt.recorded (h : Attempt (a.surroundings cancel) s st verdict st')
    (calls : List (Call E)) :
    ∃ block, Attempt (a.recorded.surroundings cancel) s (st, calls) verdict (st', calls ++ block) ∧
      Block a.src a.dst s cancel verdict block := by
  cases h with
  | undrawn hdraw =>
    exact ⟨_, .undrawn (execute_noted hdraw calls), .undrawn⟩
  | unwritten hdraw hrequest =>
    refine ⟨_, .unwritten (execute_noted hdraw calls) hrequest, .unwritten ?_⟩
    rwa [← requestBytes_eq]
  | undiscarded hdraw hrequest hdiscard =>
    have hattempt := Attempt.undiscarded (w := a.recorded.surroundings cancel)
      (execute_noted hdraw calls) hrequest (execute_noted hdiscard _)
    simp only [List.append_assoc, List.cons_append, List.nil_append] at hattempt
    exact ⟨_, hattempt, .undiscarded (isRequest_of_requestBytes hrequest)⟩
  | unsent hdraw hrequest hdiscard hclock hsend =>
    have hattempt := Attempt.unsent (w := a.recorded.surroundings cancel)
      (execute_noted hdraw calls) hrequest (execute_noted hdiscard _) (run_recorded_clock hclock _)
      (execute_noted hsend _)
    simp only [List.append_assoc, List.cons_append, List.nil_append] at hattempt
    exact ⟨_, hattempt, .unsent (isRequest_of_requestBytes hrequest)⟩
  | timedOut hsends hreceive =>
    obtain ⟨hrequest, dropped, hsent⟩ := hsends.recorded calls
    have hattempt := Attempt.timedOut hsent (execute_noted hreceive _)
    simp only [List.append_assoc, List.cons_append, List.nil_append] at hattempt
    exact ⟨_, hattempt, .timedOut hrequest⟩
  | unreceived hsends hreceive hcause =>
    obtain ⟨hrequest, dropped, hsent⟩ := hsends.recorded calls
    have hattempt := Attempt.unreceived hsent (execute_noted hreceive _) hcause
    simp only [List.append_assoc, List.cons_append, List.nil_append] at hattempt
    exact ⟨_, hattempt, .unreceived hrequest hcause⟩
  | undecodable hreceives hdecode =>
    obtain ⟨dropped, request, hrequest, hreceived⟩ := hreceives.recorded calls
    exact ⟨_, .undecodable hreceived hdecode, .undecodable hrequest hdecode⟩
  | invalid hreceives hdecode hid =>
    obtain ⟨dropped, request, hrequest, hreceived⟩ := hreceives.recorded calls
    exact ⟨_, .invalid hreceived hdecode hid, .invalid hrequest hdecode hid⟩
  | mismatch hreceives hdecode hid hother =>
    obtain ⟨dropped, request, hrequest, hreceived⟩ := hreceives.recorded calls
    exact ⟨_, .mismatch hreceived hdecode hid hother, .mismatch hrequest hdecode hid hother⟩
  | success hreceives hdecode hid =>
    obtain ⟨dropped, request, hrequest, hreceived⟩ := hreceives.recorded calls
    exact ⟨_, .success hreceived hdecode hid, .success hrequest hdecode hid⟩

/-! ### Runs -/

lemma stops_of_finish (w : Surroundings (StateM σ)) (cancel : Option E)
    (hdone : s.target ≤ (samples trials).length ∨ trials.length = s.maxAttempts.toNat) (st : σ) :
    Stops s cancel trials (execute (finish w s trials.length (samples trials)) st).1 := by
  rcases finish_cases w s trials.length (samples trials) st with
    ⟨hfew, entry, hr⟩ | ⟨henough, entry, hr⟩ | ⟨henough, e, haverage, hr⟩
  · rw [hr]
    exact .exhausted hfew (by omega)
  · rw [hr]
    exact .completed henough
  · rw [hr]
    exact .unaveraged henough haverage

/-- Without an event, no run is given up. -/
lemma ne_none_of_cancelled (h : (a.surroundings cancel).cancelled.run st = (true, st')) :
    cancel ≠ none := by
  rintro rfl
  cases h

lemma execute_recorded_loop (a : Apparatus E (StateM σ)) (cancel : Option E) (trials : List Trial)
    (left : Nat) (hleft : trials.length + left = s.maxAttempts.toNat) (st : σ)
    (calls : List (Call E)) :
    ∃ made, execute (loop (a.recorded.surroundings cancel) s left trials.length (samples trials))
        (st, calls) =
        ((execute (loop (a.surroundings cancel) s left trials.length (samples trials)) st).1,
          (execute (loop (a.surroundings cancel) s left trials.length (samples trials)) st).2,
            calls ++ made) ∧
      Orderly a.src a.dst s cancel trials
        (execute (loop (a.surroundings cancel) s left trials.length (samples trials)) st).1
          made := by
  -- the calls of one attempt stand before those of the attempts that are left
  induction left generalizing trials st calls with
  | zero =>
    refine ⟨[], ?_, .stops (stops_of_finish _ cancel (.inr (by omega)) st)⟩
    rw [loop, loop, execute_recorded_finish, List.append_nil]
  | succ left ih =>
    rw [loop, loop]
    by_cases henough : s.target ≤ ((samples trials).length : Int)
    · rw [if_pos henough, if_pos henough]
      refine ⟨[], ?_, .stops (stops_of_finish _ cancel (.inl henough) st)⟩
      rw [execute_recorded_finish, List.append_nil]
    have hgoes : GoesOn s trials := ⟨Int.not_le.mp henough, by omega⟩
    rw [if_neg henough, if_neg henough]
    rcases hgo : (a.surroundings cancel).cancelled.run st with ⟨stop, st₁⟩
    rw [execute_bind_of_ok (execute_lift _ st),
      execute_bind_of_ok (execute_lift _ (st, calls)), hgo, run_recorded_cancelled hgo]
    cases stop with
    | true => exact ⟨[], by simp, .stops (.cancelled hgoes (ne_none_of_cancelled hgo))⟩
    | false =>
      simp only [Bool.false_eq_true, if_false]
      obtain ⟨verdict, st₂, hattempt⟩ := exists_attempt (a.surroundings cancel) s st₁
      obtain ⟨block, hmade, hblock⟩ := hattempt.recorded calls
      cases verdict with
      | error e =>
        rw [execute_bind_of_error hattempt.execute_attempt,
          execute_bind_of_error hmade.execute_attempt]
        exact ⟨block, rfl, .fatal hgoes hblock⟩
      | ok trial =>
        rw [execute_bind_of_ok hattempt.execute_attempt, execute_bind_of_ok hmade.execute_attempt]
        have hreport := execute_recorded_record a cancel (trials.length + 1) (samples trials) trial
          st₂ (calls ++ block)
        rcases record_cases (a.surroundings cancel) (trials.length + 1) (samples trials) trial st₂
          with ⟨entry, hreported⟩ | ⟨elapsed, e, helapsed, hmillis, hreported⟩
        · rw [hreported] at hreport
          rw [execute_bind_of_ok hreported, execute_bind_of_ok hreport, ← samples_singleton,
            ← samples_append]
          have hlength : (trials ++ [trial]).length = trials.length + 1 := List.length_append
          obtain ⟨later, hlater, horderly⟩ := ih (trials ++ [trial]) (by omega) _ (calls ++ block)
          rw [hlength] at hlater horderly
          refine ⟨block ++ later, ?_, .append hgoes hblock horderly⟩
          rw [hlater, List.append_assoc]
        · rw [hreported] at hreport
          rw [execute_bind_of_error hreported, execute_bind_of_error hreport]
          rw [elapsed?_eq_roundTrip?] at helapsed
          exact ⟨block, rfl, .unreported hgoes hblock helapsed hmillis⟩

lemma execute_recorded_run (a : Apparatus E (StateM σ)) (cancel : Option E) (s : RunSettings)
    (start : σ) :
    ∃ calls, execute (run (a.recorded.surroundings cancel) s) (start, []) =
        ((execute (run (a.surroundings cancel) s) start).1,
          (execute (run (a.surroundings cancel) s) start).2, calls) ∧
      Orderly a.src a.dst s cancel [] (execute (run (a.surroundings cancel) s) start).1 calls :=
  execute_recorded_loop a cancel [] s.maxAttempts.toNat (Nat.zero_add _) start []

/-! ### One block for each attempt -/

lemma Block.count_drawId (h : Block src dst s cancel verdict calls) :
    (calls.map Call.kind).count .drawId = 1 := by
  cases h <;> rfl

/-- The last thing that a run does: it stops after some attempts, each of which has drawn one id, or
its last attempt is fatal, or a number is out of range. -/
lemma Orderly.end_cases (h : Orderly src dst s cancel trials r calls) :
    (∃ later, Stops s cancel (trials ++ later) r ∧
        (calls.map Call.kind).count .drawId = later.length) ∨
      (∃ e before block, r = .error e ∧ calls = before ++ block ∧
        Block src dst s cancel (.error e) block) ∨
      ∃ cause, r = .error (.number cause) := by
  induction h with
  | @stops trials r hstops =>
    rw [← List.append_nil trials] at hstops
    exact .inl ⟨[], hstops, rfl⟩
  | fatal _ hblock => exact .inr (.inl ⟨_, [], _, rfl, rfl, hblock⟩)
  | unreported => exact .inr (.inr ⟨_, rfl⟩)
  | @append trials trial r block rest _ hblock _ ih =>
    rcases ih with ⟨later, hstops, hcount⟩ | ⟨e, before, last, hr, rfl, hlast⟩ | hnumber
    · rw [List.append_assoc, List.singleton_append] at hstops
      refine .inl ⟨trial :: later, hstops, ?_⟩
      rw [List.map_append, List.count_append, hblock.count_drawId, hcount, List.length_cons,
        Nat.add_comm]
    · exact .inr (.inl ⟨e, block ++ before, last, hr, (List.append_assoc ..).symm, hlast⟩)
    · exact .inr (.inr hnumber)

/-- A measurement tells how many ids were drawn for it. -/
lemma Orderly.count_drawId_of_ok {m : Measurement}
    (h : Orderly src dst s cancel [] (.ok m) calls) :
    (calls.map Call.kind).count .drawId = m.attempts := by
  rcases h.end_cases with ⟨later, hstops, hcount⟩ | ⟨e, before, block, hr, -⟩ | ⟨cause, hr⟩
  · cases hstops with
    | completed => rw [hcount, List.nil_append]
  · cases hr
  · cases hr

lemma Block.exists_failed {count attempts : Nat} {target : Int}
    (h : Block src dst s cancel (.error (.budget count attempts target)) calls) :
    ∃ call ∈ calls, call.failure? = some (.budget count attempts target) := by
  cases h with
  | undrawn => exact ⟨_, List.mem_singleton_self _, rfl⟩
  | undiscarded => exact ⟨.discardPending (.error _), by simp, rfl⟩
  | @unsent _ _ _ request _ _ => exact ⟨.send request (.error _), by simp, rfl⟩
  | unreceived => exact ⟨.receive s.timeout cancel (.error _), by simp, rfl⟩

/-- The report of an exhausted budget does so as well, unless it is the failure of a call. -/
lemma Orderly.count_drawId_of_budget {count attempts : Nat} {target : Int}
    (h : Orderly src dst s cancel [] (.error (.budget count attempts target)) calls) :
    (calls.map Call.kind).count .drawId = attempts ∨
      ∃ call ∈ calls, call.failure? = some (.budget count attempts target) := by
  rcases h.end_cases with ⟨later, hstops, hcount⟩ | ⟨e, before, block, hr, rfl, hblock⟩ |
    ⟨cause, hr⟩
  · cases hstops with
    | exhausted => exact .inl (by rw [hcount, List.nil_append])
  · cases hr
    obtain ⟨call, hcall, hfailed⟩ := hblock.exists_failed
    exact .inr ⟨call, List.mem_append_right before hcall, hfailed⟩
  · cases hr

/-! ### Between the calls -/

/-- So many requests are sent as datagrams are awaited. -/
def Balanced (calls : List (Call E)) : Prop :=
  (calls.map Call.kind).count .send = (calls.map Call.kind).count .receive

lemma Balanced.append {xs ys : List (Call E)} (hxs : Balanced xs) (hys : Balanced ys) :
    Balanced (xs ++ ys) := by
  unfold Balanced at hxs hys ⊢
  rw [List.map_append, List.count_append, List.count_append, hxs, hys]

lemma balanced_opening (id : Int) (dropped : Nat) (sentAt : Int) :
    Balanced (opening id dropped sentAt : List (Call E)) := rfl

lemma Block.balanced {trial : Trial} (h : Block src dst s cancel (.ok trial) calls) :
    Balanced calls := by
  cases h <;> rfl

/-- In a block, at most one request is sent, and if so right after the opening. -/
lemma Block.send_cases (h : Block src dst s cancel verdict calls) :
    (∀ request outcome, .send request outcome ∉ calls) ∨
      ∃ id dropped sentAt request outcome rest,
        calls = opening id dropped sentAt ++ .send request outcome :: rest ∧
          IsRequest src dst s id request ∧
          ∀ request' outcome', .send request' outcome' ∉ rest := by
  cases h with
  | undrawn => exact .inl (by simp)
  | unwritten => exact .inl (by simp)
  | undiscarded => exact .inl (by simp)
  | unsent hrequest => exact .inr ⟨_, _, _, _, _, _, rfl, hrequest, by simp⟩
  | unreceived hrequest => exact .inr ⟨_, _, _, _, _, _, rfl, hrequest, by simp⟩
  | timedOut hrequest => exact .inr ⟨_, _, _, _, _, _, rfl, hrequest, by simp⟩
  | undecodable hrequest => exact .inr ⟨_, _, _, _, _, _, rfl, hrequest, by simp⟩
  | invalid hrequest => exact .inr ⟨_, _, _, _, _, _, rfl, hrequest, by simp⟩
  | mismatch hrequest => exact .inr ⟨_, _, _, _, _, _, rfl, hrequest, by simp⟩
  | success hrequest => exact .inr ⟨_, _, _, _, _, _, rfl, hrequest, by simp⟩

/-- Before the request of a block there is its opening, and nothing else. -/
lemma Block.exists_opening {request : Bytes} {outcome : Except Failure Unit}
    {before after : List (Call E)}
    (h : Block src dst s cancel verdict (before ++ .send request outcome :: after)) :
    ∃ id dropped sentAt, before = opening id dropped sentAt ∧
      IsRequest src dst s id request := by
  rcases h.send_cases with hnone | ⟨id, dropped, sentAt, request', outcome', rest, heq, hrequest,
    hrest⟩
  · exact absurd (by simp) (hnone request outcome)
  have hopening : Call.send request outcome ∉ (opening id dropped sentAt : List (Call E)) := by
    simp [opening]
  obtain ⟨rfl, hsend, -⟩ :=
    (List.append_cons_inj_of_notMem hopening (hrest request outcome)).mp heq.symm
  rw [Call.send.injEq] at hsend
  obtain ⟨rfl, -⟩ := hsend
  exact ⟨id, dropped, sentAt, rfl, hrequest⟩

/-- Before a request is sent there is its opening, and before that there are whole attempts. -/
lemma Orderly.exists_opening {request : Bytes} {outcome : Except Failure Unit}
    {before after : List (Call E)}
    (h : Orderly src dst s cancel trials r (before ++ .send request outcome :: after)) :
    ∃ earlier id dropped sentAt, before = earlier ++ opening id dropped sentAt ∧
      Balanced earlier ∧ IsRequest src dst s id request := by
  generalize hcalls : before ++ .send request outcome :: after = calls at h
  induction h generalizing before with
  | stops => simp at hcalls
  | fatal _ hblock | unreported _ hblock =>
    subst hcalls
    obtain ⟨id, dropped, sentAt, hbefore, hrequest⟩ := hblock.exists_opening
    exact ⟨[], id, dropped, sentAt, hbefore, rfl, hrequest⟩
  | @append trials trial r block rest _ hblock hrest ih =>
    rcases List.append_eq_append_iff.mp hcalls with
      ⟨within, hfirst, hafter⟩ | ⟨others, hbefore, hothers⟩
    · -- the request is sent in the first block, or it opens what follows
      cases within with
      | nil =>
        obtain ⟨earlier, id, dropped, sentAt, hnil, -⟩ := @ih [] hafter
        simp [opening] at hnil
      | cons call within =>
        rw [List.cons_append, List.cons.injEq] at hafter
        obtain ⟨rfl, -⟩ := hafter
        rw [hfirst] at hblock
        obtain ⟨id, dropped, sentAt, hopening, hrequest⟩ := hblock.exists_opening
        exact ⟨[], id, dropped, sentAt, hopening, rfl, hrequest⟩
    · obtain ⟨earlier, id, dropped, sentAt, rfl, hbalanced, hrequest⟩ := ih hothers.symm
      refine ⟨block ++ earlier, id, dropped, sentAt, ?_, hblock.balanced.append hbalanced, hrequest⟩
      rw [hbefore, List.append_assoc]

/-- What was balanced before one request and is balanced before the next is so for one wait. -/
lemma Orderly.count_receive_between {request request' : Bytes}
    {outcome outcome' : Except Failure Unit} {before between after : List (Call E)}
    (h : Orderly src dst s cancel trials r
      (before ++ .send request outcome :: between ++ .send request' outcome' :: after))
    (hbetween : (between.map Call.kind).count .send = 0) :
    (between.map Call.kind).count .receive = 1 := by
  obtain ⟨earlier, id, dropped, sentAt, hlater, hbalanced, -⟩ := h.exists_opening
  rw [List.append_assoc] at h
  obtain ⟨earlier', id', dropped', sentAt', hbefore, hbalanced', -⟩ := h.exists_opening
  have hfirst : Balanced before := by
    rw [hbefore]
    exact hbalanced'.append (balanced_opening id' dropped' sentAt')
  have hsecond : Balanced (before ++ .send request outcome :: between) := by
    rw [hlater]
    exact hbalanced.append (balanced_opening id dropped sentAt)
  unfold Balanced at hfirst hsecond
  rw [List.map_append, List.count_append, List.count_append, List.map_cons, List.count_cons,
    List.count_cons, hbetween, hfirst] at hsecond
  simp [Call.kind] at hsecond
  omega

lemma Block.eq_of_receive {timeout : Option Seconds} {event : Option E}
    {outcome : Except Failure Bytes} (h : Block src dst s cancel verdict calls)
    (hreceive : .receive timeout event outcome ∈ calls) : timeout = s.timeout ∧ event = cancel := by
  cases h <;> simp_all [opening, answered]

/-- Every wait is given the timeout of the settings and the event of the run. -/
lemma Orderly.eq_of_receive {timeout : Option Seconds} {event : Option E}
    {outcome : Except Failure Bytes} (h : Orderly src dst s cancel trials r calls)
    (hreceive : .receive timeout event outcome ∈ calls) : timeout = s.timeout ∧ event = cancel := by
  induction h with
  | stops => simp at hreceive
  | fatal _ hblock | unreported _ hblock => exact hblock.eq_of_receive hreceive
  | append _ hblock _ ih =>
    rw [List.mem_append] at hreceive
    exact hreceive.elim hblock.eq_of_receive ih

/-- Over any session, with any clock and source of ids, a run makes its calls attempt by attempt:
an id is drawn, late datagrams are discarded, the clock is read, the request is sent, a datagram is
awaited, and the clock is read again exactly if there is one. There is one such block for each
attempt that the result counts, and only the last one may be cut short, by the failure that the run
ends with. So every request is the echo request with the id drawn last, and is sent right after late
datagrams were discarded and the clock was read; between two requests one datagram is awaited,
always with the same timeout and event. -/
theorem run_orderly (a : Apparatus E (StateM σ)) (cancel : Option E) (s : RunSettings) (start : σ) :
    ∃ r final calls, execute (run (a.surroundings cancel) s) start = (r, final) ∧
      execute (run (a.recorded.surroundings cancel) s) (start, []) = (r, final, calls) ∧
      Orderly a.src a.dst s cancel [] r calls ∧
      (∀ m, r = .ok m → (calls.map Call.kind).count .drawId = m.attempts) ∧
      (∀ count attempts target, r = .error (.budget count attempts target) →
        (calls.map Call.kind).count .drawId = attempts ∨
          ∃ call ∈ calls, call.failure? = some (.budget count attempts target)) ∧
      (∀ before request outcome after, calls = before ++ .send request outcome :: after →
        ∃ earlier id dropped sentAt,
          before = earlier ++ [.drawId (.ok id), .discardPending (.ok dropped), .clock sentAt] ∧
            IsRequest a.src a.dst s id request) ∧
      (∀ before request outcome between request' outcome' after,
        calls = before ++ .send request outcome :: between ++ .send request' outcome' :: after →
          (between.map Call.kind).count .send = 0 → (between.map Call.kind).count .receive = 1) ∧
      ∀ timeout event outcome, .receive timeout event outcome ∈ calls →
        timeout = s.timeout ∧ event = cancel := by
  obtain ⟨calls, hrecorded, horderly⟩ := execute_recorded_run a cancel s start
  generalize execute (run (a.surroundings cancel) s) start = ended at *
  obtain ⟨r, final⟩ := ended
  refine ⟨r, final, calls, rfl, hrecorded, horderly, ?_, ?_, ?_, ?_, ?_⟩
  · rintro m rfl
    exact horderly.count_drawId_of_ok
  · rintro count attempts target rfl
    exact horderly.count_drawId_of_budget
  · rintro before request outcome after rfl
    obtain ⟨earlier, id, dropped, sentAt, hbefore, -, hrequest⟩ := horderly.exists_opening
    exact ⟨earlier, id, dropped, sentAt, hbefore, hrequest⟩
  · rintro before request outcome between request' outcome' after rfl hbetween
    exact horderly.count_receive_between hbetween
  · intro timeout event outcome hreceive
    exact horderly.eq_of_receive hreceive

/-- Three blocks: one without an answer, one with an answer to another request, and one with its
own. -/
theorem run_orderly_belated :
    ∃ calls,
      execute (run ((belated here there).recorded.surroundings none)
        { target := 1, maxAttempts := 3 }) (0, []) = (.ok ⟨[3], 3⟩, 17, calls) ∧
      Orderly here there { target := 1, maxAttempts := 3 } none [] (.ok ⟨[3], 3⟩) calls ∧
      calls.map Call.kind =
        [.drawId, .discardPending, .clock, .send, .receive,
          .drawId, .discardPending, .clock, .send, .receive, .clock,
          .drawId, .discardPending, .clock, .send, .receive, .clock] := by
  obtain ⟨r, final, calls, -, hrecorded, horderly, -⟩ :=
    run_orderly (belated here there) none { target := 1, maxAttempts := 3 } 0
  have hr : (execute (run ((belated here there).recorded.surroundings none)
      { target := 1, maxAttempts := 3 }) (0, [])).1.toOption = some ⟨[3], 3⟩ := by
    decide +kernel
  have hfinal : (execute (run ((belated here there).recorded.surroundings none)
      { target := 1, maxAttempts := 3 }) (0, [])).2.1 = 17 := by
    decide +kernel
  have hkinds : (execute (run ((belated here there).recorded.surroundings none)
      { target := 1, maxAttempts := 3 }) (0, [])).2.2.map Call.kind =
        [.drawId, .discardPending, .clock, .send, .receive,
          .drawId, .discardPending, .clock, .send, .receive, .clock,
          .drawId, .discardPending, .clock, .send, .receive, .clock] := by
    decide +kernel
  rw [hrecorded] at hr hfinal hkinds
  obtain rfl := eq_ok_of_toOption hr
  obtain rfl : final = 17 := hfinal
  exact ⟨calls, hrecorded, horderly, hkinds⟩

end Run

end ScionEcho
