import ScionEcho.Proofs.Probe.Course

/-!
# Relations that a run respects

A reflexive and transitive relation between states that holds across every call of the surroundings
holds across whole attempts, courses and runs.
-/

namespace ScionEcho

variable {σ : Type} {w : Surroundings (StateM σ)} {s : RunSettings} {R : σ → σ → Prop}
  {start st st' : σ} {trials : List Trial}

/-- A relation holds between the states before and after every call of the surroundings. -/
structure Surroundings.Respects (w : Surroundings (StateM σ)) (R : σ → σ → Prop) : Prop where
  refl : ∀ st, R st st
  trans : ∀ {a b c}, R a b → R b c → R a c
  drawId : ∀ {st r st'}, execute w.drawId st = (r, st') → R st st'
  discardPending : ∀ {st r st'}, execute w.discardPending st = (r, st') → R st st'
  clock : ∀ {st reading st'}, w.clock.run st = (reading, st') → R st st'
  send : ∀ {bytes st r st'}, execute (w.send bytes) st = (r, st') → R st st'
  receive : ∀ {timeout st r st'}, execute (w.receive timeout) st = (r, st') → R st st'
  cancelled : ∀ {st stop st'}, w.cancelled.run st = (stop, st') → R st st'
  log : ∀ entry st, R st ((w.log entry).run st).2

namespace Run

variable (h : w.Respects R)

include h

lemma Sends.respects {id sentAt : Int} {request : Bytes}
    (hsends : Sends w s st id request sentAt st') : R st st' := by
  obtain ⟨hdraw, -, hdiscard, hclock, hsend⟩ := hsends
  exact h.trans (h.drawId hdraw) <| h.trans (h.discardPending hdiscard) <|
    h.trans (h.clock hclock) (h.send hsend)

lemma Receives.respects {id sentAt receivedAt : Int} {reply : Bytes}
    (hreceives : Receives w s st id sentAt receivedAt reply st') : R st st' := by
  obtain ⟨hsends, hreceive, hclock⟩ := hreceives
  exact h.trans (hsends.respects h) (h.trans (h.receive hreceive) (h.clock hclock))

lemma Attempt.respects {r : Except Failure Trial} (hattempt : Attempt w s st r st') :
    R st st' := by
  cases hattempt with
  | undrawn hdraw => exact h.drawId hdraw
  | unwritten hdraw => exact h.drawId hdraw
  | undiscarded hdraw _ hdiscard => exact h.trans (h.drawId hdraw) (h.discardPending hdiscard)
  | unsent hdraw _ hdiscard hclock hsend =>
    exact h.trans (h.drawId hdraw) <| h.trans (h.discardPending hdiscard) <|
      h.trans (h.clock hclock) (h.send hsend)
  | timedOut hsends hreceive => exact h.trans (hsends.respects h) (h.receive hreceive)
  | unreceived hsends hreceive => exact h.trans (hsends.respects h) (h.receive hreceive)
  | undecodable hreceives => exact hreceives.respects h
  | invalid hreceives => exact hreceives.respects h
  | mismatch hreceives => exact hreceives.respects h
  | success hreceives => exact hreceives.respects h

lemma record_respects (attempts : Nat) (xs : List Int) (trial : Trial) (st : σ) :
    R st (execute (record w attempts xs trial) st).2 := by
  rcases record_cases w attempts xs trial st with ⟨entry, hok⟩ | ⟨elapsed, e, -, -, herror⟩
  · rw [hok]
    exact h.log entry st
  · rw [herror]
    exact h.refl st

lemma finish_respects (attempts : Nat) (xs : List Int) (st : σ) :
    R st (execute (finish w s attempts xs) st).2 := by
  rcases finish_cases w s attempts xs st with ⟨-, entry, hfew⟩ | ⟨-, entry, hok⟩ | ⟨-, e, -, herror⟩
  · rw [hfew]
    exact h.log entry st
  · rw [hok]
    exact h.log entry st
  · rw [herror]
    exact h.refl st

lemma Course.respects (hcourse : Course w s start trials st) : R start st := by
  induction hcourse with
  | nil => exact h.refl start
  | @snoc trials trial collected _ _ st₂ st₃ _ hgo hattempt hreport ih =>
    have hreported := record_respects h (trials.length + 1) (samples trials) trial st₂
    rw [hreport] at hreported
    exact h.trans ih <| h.trans (h.cancelled hgo) <| h.trans (hattempt.respects h) hreported

lemma Ends.respects {r : Except Failure Measurement} (hends : Ends w s trials st r st') :
    R st st' := by
  cases hends with
  | finished _ hfinish =>
    have hfinished := finish_respects (s := s) h trials.length (samples trials) st
    rwa [hfinish] at hfinished
  | cancelled _ _ hstop => exact h.cancelled hstop
  | fatal _ _ hgo hattempt => exact h.trans (h.cancelled hgo) (hattempt.respects h)
  | @unreported trial _ _ st₂ _ _ _ hgo hattempt hreport =>
    have hreported := record_respects h (trials.length + 1) (samples trials) trial st₂
    rw [hreport] at hreported
    exact h.trans (h.cancelled hgo) (h.trans (hattempt.respects h) hreported)

end Run

end ScionEcho
