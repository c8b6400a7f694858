import ScionEcho.Probe.Run
import ScionEcho.Proofs.Fallible

/-!
# Attempts

What one attempt of a run does to the state of its surroundings, call by call. There is one rule
for each way in which an attempt ends, and every attempt ends by exactly one of them.
-/

namespace ScionEcho.Run

variable {σ : Type} {w : Surroundings (StateM σ)} {s : RunSettings} {st st' : σ}

/-- An attempt gets as far as sending its request. -/
inductive Sends (w : Surroundings (StateM σ)) (s : RunSettings) (st : σ) :
    (id : Int) → (request : Bytes) → (sentAt : Int) → σ → Prop
  | mk {id sentAt : Int} {request : Bytes} {dropped : Nat} {st₁ st₂ st₃ st₄ : σ}
      (hdraw : execute w.drawId st = (.ok id, st₁))
      (hrequest : requestBytes w.src w.dst s id = .ok request)
      (hdiscard : execute w.discardPending st₁ = (.ok dropped, st₂))
      (hclock : w.clock.run st₂ = (sentAt, st₃))
      (hsend : execute (w.send request) st₃ = (.ok (), st₄)) : Sends w s st id request sentAt st₄

/-- An attempt gets as far as receiving some bytes. -/
inductive Receives (w : Surroundings (StateM σ)) (s : RunSettings) (st : σ) :
    (id sentAt receivedAt : Int) → (reply : Bytes) → σ → Prop
  | mk {id sentAt receivedAt : Int} {request reply : Bytes} {st₁ st₂ st₃ : σ}
      (hsends : Sends w s st id request sentAt st₁)
      (hreceive : execute (w.receive s.timeout) st₁ = (.ok reply, st₂))
      (hclock : w.clock.run st₂ = (receivedAt, st₃)) : Receives w s st id sentAt receivedAt reply st₃

/-- An attempt and its verdict: a trial, or the failure that ends the run. -/
inductive Attempt (w : Surroundings (StateM σ)) (s : RunSettings) (st : σ) :
    Except Failure Trial → σ → Prop
  | undrawn {e : Failure} {st₁ : σ} (hdraw : execute w.drawId st = (.error e, st₁)) :
      Attempt w s st (.error e) st₁
  | unwritten {id : Int} {e : EncodeError} {st₁ : σ} (hdraw : execute w.drawId st = (.ok id, st₁))
      (hrequest : requestBytes w.src w.dst s id = .error e) :
      Attempt w s st (.error (.encode e)) st₁
  | undiscarded {id : Int} {request : Bytes} {e : Failure} {st₁ st₂ : σ}
      (hdraw : execute w.drawId st = (.ok id, st₁))
      (hrequest : requestBytes w.src w.dst s id = .ok request)
      (hdiscard : execute w.discardPending st₁ = (.error e, st₂)) :
      Attempt w s st (.error e) st₂
  | unsent {id sentAt : Int} {request : Bytes} {dropped : Nat} {e : Failure} {st₁ st₂ st₃ st₄ : σ}
      (hdraw : execute w.drawId st = (.ok id, st₁))
      (hrequest : requestBytes w.src w.dst s id = .ok request)
      (hdiscard : execute w.discardPending st₁ = (.ok dropped, st₂))
      (hclock : w.clock.run st₂ = (sentAt, st₃))
      (hsend : execute (w.send request) st₃ = (.error e, st₄)) :
      Attempt w s st (.error e) st₄
  | timedOut {id sentAt : Int} {request : Bytes} {limit : Float} {st₁ st₂ : σ}
      (hsends : Sends w s st id request sentAt st₁)
      (hreceive : execute (w.receive s.timeout) st₁ = (.error (.timedOut limit), st₂)) :
      Attempt w s st (.ok ⟨id, sentAt, none, .timeout⟩) st₂
  | unreceived {id sentAt : Int} {request : Bytes} {e : Failure} {st₁ st₂ : σ}
      (hsends : Sends w s st id request sentAt st₁)
      (hreceive : execute (w.receive s.timeout) st₁ = (.error e, st₂))
      (hcause : ∀ limit, e ≠ .timedOut limit) :
      Attempt w s st (.error e) st₂
  | undecodable {id sentAt receivedAt : Int} {reply : Bytes} {e : DecodeError} {st₁ : σ}
      (hreceives : Receives w s st id sentAt receivedAt reply st₁)
      (hdecode : Packet.decode reply = .error e) :
      Attempt w s st (.error (.decode e)) st₁
  | invalid {id sentAt receivedAt : Int} {reply : Bytes} {packet : Packet} {e : ReplyError}
      {st₁ : σ} (hreceives : Receives w s st id sentAt receivedAt reply st₁)
      (hdecode : Packet.decode reply = .ok packet) (hid : packet.correlationId = .error e) :
      Attempt w s st (.error (.reply e)) st₁
  | mismatch {id sentAt receivedAt found : Int} {reply : Bytes} {packet : Packet} {st₁ : σ}
      (hreceives : Receives w s st id sentAt receivedAt reply st₁)
      (hdecode : Packet.decode reply = .ok packet) (hid : packet.correlationId = .ok found)
      (hother : found ≠ id) :
      Attempt w s st (.ok ⟨id, sentAt, some receivedAt, .mismatch⟩) st₁
  | success {id sentAt receivedAt : Int} {reply : Bytes} {packet : Packet} {st₁ : σ}
      (hreceives : Receives w s st id sentAt receivedAt reply st₁)
      (hdecode : Packet.decode reply = .ok packet) (hid : packet.correlationId = .ok id) :
      Attempt w s st (.ok ⟨id, sentAt, some receivedAt, .success⟩) st₁

/-! ### The rules are what the program does -/

@[simp] lemma execute_orFail {ε α : Type} (cause : ε → Failure) (x : Except ε α) (st : σ) :
    execute (orFail cause x) st = (x.mapError cause, st) := by
  cases x <;> rfl

/-- The part of an attempt after its request is sent. -/
def awaitReply (w : Surroundings (StateM σ)) (s : RunSettings) (probe sentAt : Int) :
    ExceptT Failure (StateM σ) Trial := do
  match ← ExceptT.lift (w.receive s.timeout).run with
  | .ok reply =>
    let receivedAt ← ExceptT.lift w.clock
    orFail id (judge probe sentAt receivedAt reply)
  | .error (.timedOut _) => return ⟨probe, sentAt, none, .timeout⟩
  | .error e => throw e

lemma attempt_eq (w : Surroundings (StateM σ)) (s : RunSettings) :
    attempt w s = w.drawId >>= fun probe =>
      orFail .encode (requestBytes w.src w.dst s probe) >>= fun request =>
        w.discardPending >>= fun _ => ExceptT.lift w.clock >>= fun sentAt =>
          w.send request >>= fun _ => awaitReply w s probe sentAt := rfl

lemma Sends.execute_attempt {id sentAt : Int} {request : Bytes}
    (h : Sends w s st id request sentAt st') :
    execute (attempt w s) st = execute (awaitReply w s id sentAt) st' := by
  obtain ⟨hdraw, hrequest, hdiscard, hclock, hsend⟩ := h
  rw [attempt_eq, execute_bind_of_ok hdraw, hrequest]
  simp [execute_bind, hdiscard, hclock, hsend]

/-- What a wait yields decides how the attempt goes on. -/
lemma Sends.execute_attempt_eq_match {id sentAt : Int} {request : Bytes}
    (h : Sends w s st id request sentAt st') :
    execute (attempt w s) st =
      match execute (w.receive s.timeout) st' with
      | (.ok reply, st₁) =>
        (judge id sentAt (w.clock.run st₁).1 reply, (w.clock.run st₁).2)
      | (.error (.timedOut _), st₁) => (.ok ⟨id, sentAt, none, .timeout⟩, st₁)
      | (.error e, st₁) => (.error e, st₁) := by
  rw [h.execute_attempt, awaitReply, execute_bind, execute_lift_run]
  rcases execute (w.receive s.timeout) st' with ⟨e | reply, st₁⟩
  · cases e <;> rfl
  · dsimp only
    rw [execute_bind_of_ok (execute_lift w.clock st₁), execute_orFail]
    cases judge id sentAt (w.clock.run st₁).1 reply <;> rfl

lemma Receives.execute_attempt {id sentAt receivedAt : Int} {reply : Bytes}
    (h : Receives w s st id sentAt receivedAt reply st') :
    execute (attempt w s) st = (judge id sentAt receivedAt reply, st') := by
  obtain ⟨hsends, hreceive, hclock⟩ := h
  rw [hsends.execute_attempt_eq_match, hreceive]
  dsimp only
  rw [hclock]

lemma Attempt.execute_attempt {r : Except Failure Trial} (h : Attempt w s st r st') :
    execute (attempt w s) st = (r, st') := by
  cases h with
  | undrawn hdraw =>
    rw [attempt_eq, execute_bind_of_error hdraw]
  | unwritten hdraw hrequest =>
    rw [attempt_eq, execute_bind_of_ok hdraw, hrequest, execute_bind, execute_orFail]
    rfl
  | undiscarded hdraw hrequest hdiscard =>
    rw [attempt_eq, execute_bind_of_ok hdraw, hrequest, execute_bind, execute_orFail]
    exact execute_bind_of_error hdiscard
  | unsent hdraw hrequest hdiscard hclock hsend =>
    rw [attempt_eq, execute_bind_of_ok hdraw, hrequest]
    simp [execute_bind, hdiscard, hclock, hsend]
  | timedOut hsends hreceive =>
    rw [hsends.execute_attempt_eq_match, hreceive]
  | @unreceived _ _ _ e _ _ hsends hreceive hcause =>
    rw [hsends.execute_attempt_eq_match, hreceive]
    cases e with
    | timedOut limit => exact absurd rfl (hcause limit)
    | _ => rfl
  | undecodable hreceives hdecode =>
    rw [hreceives.execute_attempt, judge, hdecode]
  | invalid hreceives hdecode hid =>
    rw [hreceives.execute_attempt, judge, hdecode]
    dsimp only
    rw [hid]
  | mismatch hreceives hdecode hid hother =>
    rw [hreceives.execute_attempt, judge, hdecode]
    dsimp only
    rw [hid]
    dsimp only
    rw [if_neg hother]
  | success hreceives hdecode hid =>
    rw [hreceives.execute_attempt, judge, hdecode]
    dsimp only
    rw [hid]
    dsimp only
    rw [if_pos rfl]

/-- An attempt ends in one way. -/
lemma Attempt.unique {r r' : Except Failure Trial} {st'' : σ} (h : Attempt w s st r st')
    (h' : Attempt w s st r' st'') : r = r' ∧ st' = st'' := by
  have heq := h'.execute_attempt
  rwa [h.execute_attempt, Prod.mk.injEq] at heq

/-- Every attempt ends by one of the rules. -/
lemma exists_attempt (w : Surroundings (StateM σ)) (s : RunSettings) (st : σ) :
    ∃ r st', Attempt w s st r st' := by
  rcases hdraw : execute w.drawId st with ⟨e | id, st₁⟩
  · exact ⟨_, _, .undrawn hdraw⟩
  rcases hrequest : requestBytes w.src w.dst s id with e | request
  · exact ⟨_, _, .unwritten hdraw hrequest⟩
  rcases hdiscard : execute w.discardPending st₁ with ⟨e | dropped, st₂⟩
  · exact ⟨_, _, .undiscarded hdraw hrequest hdiscard⟩
  rcases hclock : w.clock.run st₂ with ⟨sentAt, st₃⟩
  rcases hsend : execute (w.send request) st₃ with ⟨e | ⟨⟩, st₄⟩
  · exact ⟨_, _, .unsent hdraw hrequest hdiscard hclock hsend⟩
  have hsends : Sends w s st id request sentAt st₄ := ⟨hdraw, hrequest, hdiscard, hclock, hsend⟩
  rcases hreceive : execute (w.receive s.timeout) st₄ with ⟨e | reply, st₅⟩
  · by_cases hcause : ∃ limit, e = .timedOut limit
    · obtain ⟨limit, rfl⟩ := hcause
      exact ⟨_, _, .timedOut hsends hreceive⟩
    · rw [not_exists] at hcause
      exact ⟨_, _, .unreceived hsends hreceive hcause⟩
  rcases hafter : w.clock.run st₅ with ⟨receivedAt, st₆⟩
  have hreceives : Receives w s st id sentAt receivedAt reply st₆ := ⟨hsends, hreceive, hafter⟩
  rcases hdecode : Packet.decode reply with e | packet
  · exact ⟨_, _, .undecodable hreceives hdecode⟩
  rcases hid : packet.correlationId with e | found
  · exact ⟨_, _, .invalid hreceives hdecode hid⟩
  by_cases hother : found = id
  · subst hother
    exact ⟨_, _, .success hreceives hdecode hid⟩
  · exact ⟨_, _, .mismatch hreceives hdecode hid hother⟩

/-- The rules describe exactly what an attempt does. -/
theorem attempt_iff {r : Except Failure Trial} :
    Attempt w s st r st' ↔ execute (attempt w s) st = (r, st') := by
  refine ⟨Attempt.execute_attempt, fun h => ?_⟩
  obtain ⟨r₁, st₁, hattempt⟩ := exists_attempt w s st
  rw [hattempt.execute_attempt, Prod.mk.injEq] at h
  obtain ⟨rfl, rfl⟩ := h
  exact hattempt

end ScionEcho.Run
