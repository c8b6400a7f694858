import ScionEcho.CommandLine.ClientCommand
import ScionEcho.Proofs.Probe.Ids
import ScionEcho.Proofs.Probe.Reference
import ScionEcho.Proofs.Responder.Dispatch

/-!
# Measurements against a responder

A client measures over a session on which every wait ends with the answer of a responder to the
request that was sent last, or times out if there is none. Of an answer as much is received as the
session has room for. The ids and the readings of the clock are decided from outside, and may
depend on all that has happened.
-/

namespace ScionEcho.Loopback

open Run

/-- What happens during a measurement. -/
inductive Step
  | drew (id : Int)
  | discarded
  | read (reading : Int)
  | sent (request : Bytes)
  /-- An answer arrives, and this much of it is received. -/
  | received (answer taken : Bytes)
  | timedOut

namespace Step

def isSent : Step → Bool
  | .sent _ => true
  | _ => false

def isReceived : Step → Bool
  | .received _ _ => true
  | _ => false

end Step

/-- A session, and what happened on it, the first step first. -/
structure Line where
  /-- The number of bytes that the session receives at most. -/
  room : Int := 0
  last : Option Bytes := none
  history : List Step := []

/-- The ids that are drawn and the readings of the clock, both of 64 bits, and the port that the
operating system gives to the session. -/
structure Sources where
  ids : List Step → Int
  clock : List Step → Int
  port : Int
  fitsIn (history : List Step) : FitsIn 8 (ids history)
  isClockReading (history : List Step) : IsClockReading (clock history)

/-- What the responder sends back for a datagram. -/
def reply? (request : Bytes) : Option Bytes :=
  ((Responder.dispatch Responder.keep request).run []).1

namespace Line

def note (line : Line) (step : Step) : Line := { line with history := line.history ++ [step] }

@[simp] lemma note_history (line : Line) (step : Step) :
    (line.note step).history = line.history ++ [step] := rfl

/-- The responder is given a request. -/
def send (line : Line) (request : Bytes) : Line :=
  { line.note (.sent request) with last := some request }

@[simp] lemma send_last (line : Line) (request : Bytes) :
    (line.send request).last = some request := rfl

@[simp] lemma send_history (line : Line) (request : Bytes) :
    (line.send request).history = line.history ++ [.sent request] := rfl

/-- A wait ends with the answer to the last request, or for want of an answer. -/
def receive (line : Line) : Except Failure Bytes × Line :=
  match line.last.bind reply? with
  | none => (.error (.timedOut 0), line.note .timedOut)
  | some answer =>
    let taken := answer.take line.room.toNat
    (.ok taken, line.note (.received answer taken))

/-- An id is drawn. -/
def draw (sources : Sources) (line : Line) : Line := line.note (.drew (sources.ids line.history))

/-- The clock is read. -/
def tick (sources : Sources) (line : Line) : Line := line.note (.read (sources.clock line.history))

/-- An attempt up to its reading of the clock. -/
def opened (sources : Sources) (line : Line) : Line :=
  ((line.draw sources).note .discarded).tick sources

lemma history_opened (sources : Sources) (line : Line) : ∃ id sentAt,
    (line.opened sources).history = line.history ++ [.drew id, .discarded, .read sentAt] := by
  rw [opened, tick, note_history, note_history, draw, note_history, List.append_assoc,
    List.append_assoc]
  exact ⟨_, _, rfl⟩

end Line

/-! ### What the client finds -/

def peer (sources : Sources) : Peer (StateM Line) where
  connect src dst recvBuffer := ExceptT.mk fun line =>
    (.ok (src.withPort sources.port, dst), { line with room := recvBuffer })
  discardPending := ExceptT.mk fun line => (.ok 0, line.note .discarded)
  send request := ExceptT.mk fun line => (.ok (), line.send request)
  receive _ := fun line => (([], line.receive.1), line.receive.2)
  close := pure ()

/-- The world of a client that is never interrupted and whose reports nobody reads. -/
def world (sources : Sources) : ClientWorld (StateM Line) where
  console :=
    { readConfig := fun _ => pure .missing
      openLogFile := fun _ => pure ()
      appendLogFile := fun _ => pure ()
      stdout := fun _ => pure ()
      stderr := fun _ => pure () }
  peer _ := peer sources
  drawId := ExceptT.mk fun line => (.ok (sources.ids line.history), line.draw sources)
  clock := fun line => (sources.clock line.history, line.tick sources)
  cancelled := pure false
  cancel := pure ()
  installHandlers := pure ()
  restoreHandlers := pure ()
  observe _ := pure ()
  influx _ :=
    { connect := fun _ _ _ => pure ()
      writeApi := pure ()
      write := fun _ _ => pure ()
      close := pure ()
      log := fun _ => pure () }

/-- What a run of the client finds. -/
def surroundings (sources : Sources) (l : Logging) (src dst : Endpoint) :
    Surroundings (StateM Line) :=
  ClientCommand.surroundings (world sources) l (peer sources) src dst

variable {sources : Sources} {l : Logging} {src dst : Endpoint} {s : RunSettings} {line : Line}
  {request : Bytes}

/-! ### Attempts -/

lemma reply?_of_answer_ok {answer : Bytes} (h : Responder.answer request = .ok answer) :
    reply? request = some answer := by
  rw [reply?, Responder.dispatch_of_answer_ok h]

lemma reply?_of_answer_error {ignored : Responder.Ignored}
    (h : Responder.answer request = .error ignored) : reply? request = none := by
  rw [reply?, Responder.dispatch_of_answer_error h]

/-- An answer that the session has room for is received as it is. -/
lemma receive_of_reply {answer : Bytes} (hlast : line.last = some request)
    (hreply : reply? request = some answer) (hroom : (answer.length : Int) ≤ line.room) :
    line.receive = (.ok answer, line.note (.received answer answer)) := by
  have htaken : answer.take line.room.toNat = answer := List.take_of_length_le (by omega)
  rw [Line.receive, hlast, Option.bind_some, hreply]
  dsimp only
  rw [htaken]

lemma receive_of_no_reply (hlast : line.last = some request) (hreply : reply? request = none) :
    line.receive = (.error (.timedOut 0), line.note .timedOut) := by
  rw [Line.receive, hlast, Option.bind_some, hreply]

lemma sends (hrequest : requestBytes src dst s (sources.ids line.history) = .ok request) :
    ∃ sentAt, Sends (surroundings sources l src dst) s line (sources.ids line.history) request
      sentAt ((line.opened sources).send request) := by
  have hdiscard : execute (surroundings sources l src dst).discardPending (line.draw sources) =
      (.ok 0, (line.draw sources).note .discarded) := rfl
  exact ⟨_, .mk rfl hrequest hdiscard rfl rfl⟩

section

variable (hsrc : src.ia.InRange) (hdst : dst.ia.InRange)
  (hlimit : requestSize src dst ≤ s.maxPacketLength)

include hsrc hdst hlimit

/-- Where requests are not too long for the responder, an attempt brings in a sample. -/
lemma attempt_answered (hmtu : requestSize src dst ≤ minMtu)
    (hroom : requestSize src dst ≤ line.room) :
    ∃ trial line', Attempt (surroundings sources l src dst) s line (.ok trial) line' ∧
      trial.elapsed? ≠ none ∧ line'.room = line.room ∧
        ∃ id sentAt request answer receivedAt, line'.history = line.history ++
          [.drew id, .discarded, .read sentAt, .sent request, .received answer answer,
            .read receivedAt] := by
  have hid := sources.fitsIn line.history
  have hmax : requestSize src dst ≤ maxPacketLength := Nat.le_trans hmtu (by decide)
  obtain ⟨request, hrequest, hform⟩ := exists_requestBytes hsrc hdst hid hmax hlimit
  have hlength : request.length = requestSize src dst := by
    rw [hform.wellFormed.2, size_requestPacket]
  obtain ⟨answer, hanswer, hreply, hanswerLength⟩ :=
    exists_answer hform rfl (hlength.trans_le hmtu)
  obtain ⟨sentAt, hsends⟩ := sends (l := l) hrequest
  have hreceive : execute ((surroundings sources l src dst).receive s.timeout)
      ((line.opened sources).send request) = (.ok answer, _) :=
    receive_of_reply (Line.send_last (line.opened sources) request) (reply?_of_answer_ok hanswer)
      (by rwa [hanswerLength, hlength])
  have hreceives := Receives.mk hsends hreceive rfl
  refine ⟨_, _, .success hreceives (Wire.decode_of_packetForm hreply)
    (Packet.correlationId_reply rfl), by simp [Trial.elapsed?], rfl, ?_⟩
  obtain ⟨id, readAt, hopened⟩ := line.history_opened sources
  rw [Line.tick, Line.note_history, Line.note_history, Line.send_history, hopened]
  simp only [List.append_assoc, List.cons_append, List.nil_append]
  exact ⟨id, readAt, request, answer, _, rfl⟩

/-- Where requests are too long for the responder, an attempt is in vain. -/
lemma attempt_unanswered (hmax : requestSize src dst ≤ maxPacketLength)
    (hlong : minMtu < requestSize src dst) :
    ∃ trial line', Attempt (surroundings sources l src dst) s line (.ok trial) line' ∧
      trial.elapsed? = none ∧ ∃ id sentAt request, reply? request = none ∧ line'.history =
        line.history ++ [.drew id, .discarded, .read sentAt, .sent request, .timedOut] := by
  have hid := sources.fitsIn line.history
  obtain ⟨request, hrequest, hform⟩ := exists_requestBytes hsrc hdst hid hmax hlimit
  have hlength : request.length = requestSize src dst := by
    rw [hform.wellFormed.2, size_requestPacket]
  have hreply := reply?_of_answer_error
    (Responder.answer_of_lt hform rfl (hlong.trans_eq hlength.symm))
  obtain ⟨sentAt, hsends⟩ := sends (l := l) hrequest
  have hreceive := receive_of_no_reply (Line.send_last (line.opened sources) request) hreply
  refine ⟨_, _, .timedOut hsends hreceive, by simp [Trial.elapsed?], ?_⟩
  obtain ⟨id, readAt, hopened⟩ := line.history_opened sources
  rw [Line.note_history, Line.send_history, hopened]
  simp only [List.append_assoc, List.cons_append, List.nil_append]
  exact ⟨id, readAt, request, hreply, rfl⟩

end

/-! ### Courses -/

end ScionEcho.Loopback
