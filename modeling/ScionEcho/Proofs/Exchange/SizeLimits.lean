import ScionEcho.Proofs.CommandLine.Measure
import ScionEcho.Proofs.Config.Check
import ScionEcho.Proofs.Exchange.Loopback

/-!
# Limits of size

Four limits bear on a request and the answer to it: that of the client for what it sends, that of
the common header for every packet, that of the responder for what it answers, and the room of the
session for what it receives. As all requests of a measurement have one size, that size decides at
the outset whether every attempt succeeds, none does, or not even one request is sent.
-/

namespace ScionEcho.Loopback

open Run

variable {sources : Sources} {l : Logging} {src dst : Endpoint} {s : RunSettings}
  {start line line' : Line} {trials : List Trial} {trial : Trial}

/-! ### Runs on the line -/

/-- Attempts that were all answered in full. -/
structure Answered (room : Int) (trials : List Trial) (line : Line) : Prop where
  room : line.room = room
  samples : (samples trials).length = trials.length
  sent : line.history.countP Step.isSent = trials.length
  received : line.history.countP Step.isReceived = trials.length
  taken : ∀ answer taken, .received answer taken ∈ line.history → taken = answer

/-- Attempts none of which was answered. -/
structure Unanswered (trials : List Trial) (line : Line) : Prop where
  samples : samples trials = []
  sent : line.history.countP Step.isSent = trials.length
  silent : ∀ request, .sent request ∈ line.history → reply? request = none

section

variable (hsrc : src.ia.InRange) (hdst : dst.ia.InRange)
  (hlimit : requestSize src dst ≤ s.maxPacketLength)

include hsrc hdst hlimit

lemma Answered.attempt {room : Int} (hmtu : requestSize src dst ≤ minMtu)
    (hroom : requestSize src dst ≤ room) (h : Answered room trials line)
    (hattempt : Attempt (surroundings sources l src dst) s line (.ok trial) line') :
    Answered room (trials ++ [trial]) line' := by
  rw [← h.room] at hroom
  obtain ⟨trial', line₁, hmade, hsample, hline, id, sentAt, request, answer, receivedAt,
    hhistory⟩ := attempt_answered hsrc hdst hlimit hmtu hroom
  obtain ⟨heq, rfl⟩ := hattempt.unique hmade
  obtain rfl := Except.ok.inj heq
  obtain ⟨elapsed, helapsed⟩ := Option.ne_none_iff_exists'.mp hsample
  refine ⟨hline.trans h.room, ?_, ?_, ?_, ?_⟩
  · rw [samples_append, samples_singleton, List.length_append, List.length_append, h.samples,
      helapsed]
    rfl
  · rw [hhistory, List.countP_append, h.sent, List.length_append]
    rfl
  · rw [hhistory, List.countP_append, h.received, List.length_append]
    rfl
  · intro answer' taken hreceived
    rw [hhistory, List.mem_append] at hreceived
    rcases hreceived with hbefore | hnow
    · exact h.taken answer' taken hbefore
    · simp only [List.mem_cons, Step.received.injEq, reduceCtorEq, false_or, or_false,
        List.not_mem_nil] at hnow
      rw [hnow.1, hnow.2]

lemma Unanswered.attempt (hmax : requestSize src dst ≤ maxPacketLength)
    (hlong : minMtu < requestSize src dst) (h : Unanswered trials line)
    (hattempt : Attempt (surroundings sources l src dst) s line (.ok trial) line') :
    Unanswered (trials ++ [trial]) line' := by
  obtain ⟨trial', line₁, hmade, hnone, id, sentAt, request, hsilent, hhistory⟩ :=
    attempt_unanswered hsrc hdst hlimit hmax hlong
  obtain ⟨heq, rfl⟩ := hattempt.unique hmade
  obtain rfl := Except.ok.inj heq
  refine ⟨?_, ?_, ?_⟩
  · rw [samples_append, samples_singleton, h.samples, hnone]
    rfl
  · rw [hhistory, List.countP_append, h.sent, List.length_append]
    rfl
  · intro request' hsent
    rw [hhistory, List.mem_append] at hsent
    rcases hsent with hbefore | hnow
    · exact h.silent request' hbefore
    · simp only [List.mem_cons, Step.sent.injEq, reduceCtorEq, false_or, or_false,
        List.not_mem_nil] at hnow
      rwa [hnow]

end

section

variable {c : Config} (hcheck : c.check = .ok ()) (hsrc : src.ia.InRange) (hdst : dst.ia.InRange)

include hcheck hsrc hdst

end

end ScionEcho.Loopback
