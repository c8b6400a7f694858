import ScionEcho.Proofs.Wire.Echo
import ScionEcho.Proofs.Wire.Offsets
import ScionEcho.Proofs.Wire.Size

/-!
# What a responder answers

A responder answers the echo requests that are not too long, with the reply to them, and reports
every other datagram. Nothing that arrives stops it, and no reply is ever answered.
-/

namespace ScionEcho.Responder

/-- What would stop a responder. -/
inductive Escape
  /-- Bytes are read where there are none, or by a type that does not exist. -/
  | reading (fault : Wire.Fault)
  /-- A packet is to be answered that is no echo request. -/
  | notEchoRequest
  /-- A number of the reply does not fit its field. -/
  | fieldOverflow

/-- Answers a datagram, step by step, and takes nothing for granted: the datagram is read by the
reader that checks its every step, and of all that can go wrong only malformed bytes and a reply that
is too long are provided for. The answer comes with what is reported. -/
def dispatchStrictly (data : Bytes) : Except Escape (Option Bytes × List LogRecord) :=
  match Wire.packetAt data with
  | .error (.malformed cause) => .ok (none, [(Ignored.malformed cause).record])
  | .error fault => .error (.reading fault)
  | .ok request =>
    if request.isEchoRequest then
      match request.echoReply? with
      | none => .error .notEchoRequest
      | some reply =>
        match reply.encode minMtu with
        | .error .fieldOverflow => .error .fieldOverflow
        | .error cause => .ok (none, [(Ignored.unanswerable cause).record])
        | .ok bytes => .ok (some bytes, [])
    else .ok (none, [(Ignored.other request.srcIa).record])

/-- A log that keeps its records in their order. -/
def keep (record : LogRecord) : StateM (List LogRecord) Unit := modify (· ++ [record])

/-- The bytes are a packet whose header is that of an echo request, and not too long. -/
def Answerable (data : Bytes) : Prop :=
  ∃ p length checksum, Packet.decode data = .ok p ∧
    p.l4 = .scmp ⟨classGeneral, typeEchoRequest, length, checksum⟩ ∧ data.length ≤ minMtu

variable {data : Bytes} {p : Packet}

/-! ### Echo requests -/

/-- The header decides whether a well-formed packet is an echo request: its payload follows. -/
lemma isEchoRequest_iff_header (h : p.WellFormed) :
    p.isEchoRequest = true ↔
      ∃ length checksum, p.l4 = .scmp ⟨classGeneral, typeEchoRequest, length, checksum⟩ := by
  constructor
  · intro hecho
    obtain ⟨length, checksum, -, -, -, hl4, -⟩ := Packet.isEchoRequest_iff.mp hecho
    exact ⟨length, checksum, hl4⟩
  · rintro ⟨length, checksum, hl4⟩
    have hgoes := h.goesWith
    rw [hl4] at hgoes
    rw [Packet.isEchoRequest_iff]
    match hpayload : p.payload, hgoes with
    | .scmp head (.echo id seq), _ => exact ⟨length, checksum, head, id, seq, hl4, rfl⟩
    | .scmp head (.traceroute ..), ⟨hkind, _⟩ => cases hkind
    | .scmp head (.packetSize ..), ⟨hkind, _⟩ => cases hkind

lemma answerable_iff (h : Wire.PacketForm data p) :
    Answerable data ↔ p.isEchoRequest = true ∧ data.length ≤ minMtu := by
  have hdecode := Wire.decode_of_packetForm h
  rw [isEchoRequest_iff_header h.wellFormed.1]
  constructor
  · rintro ⟨q, length, checksum, hq, hl4, hlength⟩
    rw [hdecode, Except.ok.injEq] at hq
    subst hq
    exact ⟨⟨length, checksum, hl4⟩, hlength⟩
  · rintro ⟨⟨length, checksum, hl4⟩, hlength⟩
    exact ⟨p, length, checksum, hdecode, hl4, hlength⟩

/-- A reply is no request. -/
lemma isEchoRequest_reply (p : Packet) : p.reply.isEchoRequest = false := by
  unfold Packet.isEchoRequest
  split
  · next header _ _ _ hl4 _ =>
    cases hl4
    rfl
  · rfl

/-! ### The cases of an answer -/

lemma answer_of_decode_error {cause : DecodeError} (h : Packet.decode data = .error cause) :
    answer data = .error (.malformed cause) := by
  rw [answer, h]

lemma answer_of_not_isEchoRequest (h : Packet.decode data = .ok p)
    (hother : p.isEchoRequest = false) :
    answer data = .error (.other p.srcIa) := by
  rw [answer, h]
  dsimp only
  rw [Packet.echoReply?, hother]
  rfl

/-- The reply to a request is as long as the request, and so refused if the request is too long. -/
lemma encode_reply_of_lt (h : Wire.PacketForm data p) (hecho : p.isEchoRequest = true)
    (hlong : minMtu < data.length) :
    p.reply.encode minMtu = .error (.tooLong data.length minMtu) := by
  obtain ⟨hwell, hsize⟩ := h.wellFormed
  obtain ⟨hreply, hreplySize⟩ := hwell.reply hecho
  rw [hsize, ← hreplySize]
  apply hreply.fieldsFit.numbersFit.encode_of_limit_lt hreply.fieldsFit.segmentLength_le
  omega

/-- What a reply is written as decides how an echo request is answered. -/
lemma answer_of_isEchoRequest (h : Packet.decode data = .ok p) (hecho : p.isEchoRequest = true) :
    answer data = (p.reply.encode minMtu).mapError .unanswerable := by
  rw [answer, h]
  dsimp only
  rw [Packet.echoReply?_of_isEchoRequest hecho]
  dsimp only
  cases p.reply.encode minMtu <;> rfl

lemma answer_of_lt (h : Wire.PacketForm data p) (hecho : p.isEchoRequest = true)
    (hlong : minMtu < data.length) :
    answer data = .error (.unanswerable (.tooLong data.length minMtu)) := by
  rw [answer_of_isEchoRequest (Wire.decode_of_packetForm h) hecho, encode_reply_of_lt h hecho hlong]
  rfl

lemma dispatch_of_answer_error {ignored : Ignored} (h : answer data = .error ignored)
    (logged : List LogRecord) :
    (dispatch keep data).run logged = (none, logged ++ [ignored.record]) := by
  rw [dispatch, h]
  rfl

lemma dispatch_of_answer_ok {bytes : Bytes} (h : answer data = .ok bytes)
    (logged : List LogRecord) : (dispatch keep data).run logged = (some bytes, logged) := by
  rw [dispatch, h]
  rfl

/-! ### The strict responder -/

lemma dispatchStrictly_of_decode_error {cause : DecodeError}
    (h : Packet.decode data = .error cause) :
    dispatchStrictly data = .ok (none, [(Ignored.malformed cause).record]) := by
  rw [dispatchStrictly, Wire.packetAt_eq, h]
  rfl

lemma dispatchStrictly_of_not_isEchoRequest (h : Packet.decode data = .ok p)
    (hother : p.isEchoRequest = false) :
    dispatchStrictly data = .ok (none, [(Ignored.other p.srcIa).record]) := by
  rw [dispatchStrictly, Wire.packetAt_eq, h, mapError_ok]
  dsimp only
  rw [hother]
  rfl

/-- What a reply is written as decides what the strict responder does for an echo request. -/
lemma dispatchStrictly_of_isEchoRequest (h : Packet.decode data = .ok p)
    (hecho : p.isEchoRequest = true) :
    dispatchStrictly data =
      match p.reply.encode minMtu with
      | .error .fieldOverflow => .error .fieldOverflow
      | .error cause => .ok (none, [(Ignored.unanswerable cause).record])
      | .ok bytes => .ok (some bytes, []) := by
  rw [dispatchStrictly, Wire.packetAt_eq, h, mapError_ok]
  dsimp only
  rw [if_pos hecho, Packet.echoReply?_of_isEchoRequest hecho]

/-- A datagram is reported, or answered if it is to be; the strict responder does the same. -/
lemma answer_cases (data : Bytes) :
    (∃ ignored, answer data = .error ignored ∧ ¬ Answerable data ∧
      dispatchStrictly data = .ok (none, [ignored.record])) ∨
    ∃ p bytes, answer data = .ok bytes ∧ Answerable data ∧
      dispatchStrictly data = .ok (some bytes, []) ∧ Packet.decode data = .ok p ∧
        Packet.decode bytes = .ok p.reply ∧ bytes.length = data.length := by
  cases hdecode : Packet.decode data with
  | error cause =>
    refine .inl ⟨_, answer_of_decode_error hdecode, ?_, dispatchStrictly_of_decode_error hdecode⟩
    rintro ⟨q, -, -, hq, -⟩
    rw [hdecode] at hq
    cases hq
  | ok p =>
    have hform := Wire.packetForm_of_decode hdecode
    rw [answerable_iff hform]
    cases hecho : p.isEchoRequest with
    | false =>
      exact .inl ⟨_, answer_of_not_isEchoRequest hdecode hecho, by simp,
        dispatchStrictly_of_not_isEchoRequest hdecode hecho⟩
    | true =>
      rw [dispatchStrictly_of_isEchoRequest hdecode hecho]
      by_cases hlength : data.length ≤ minMtu
      · obtain ⟨bytes, hencode, hreply, hbytes⟩ := exists_encode_reply hform hecho hlength
        have hanswer : answer data = .ok bytes := by
          rw [answer_of_isEchoRequest hdecode hecho, hencode]
          rfl
        rw [hencode]
        exact .inr ⟨p, bytes, hanswer, ⟨rfl, hlength⟩, rfl, rfl, Wire.decode_of_packetForm hreply,
          hbytes⟩
      · have hlong : minMtu < data.length := by omega
        rw [encode_reply_of_lt hform hecho hlong]
        exact .inl ⟨_, answer_of_lt hform hecho hlong, by simp [hlength], rfl⟩

/-- A responder is stopped by no datagram. It answers the packets whose header is that of an echo
request and which are not too long, and reports each other datagram once. A reply is as long as the
request and is read as the request sent back, and it is never answered itself. -/
theorem dispatch_exact (data : Bytes) (logged : List LogRecord) :
    ∃ reply records, dispatchStrictly data = .ok (reply, records) ∧
      (dispatch keep data).run logged = (reply, logged ++ records) ∧
      ((∃ bytes, reply = some bytes) ↔ Answerable data) ∧
      (reply = none ∧ (∃ record, records = [record]) ∨
        (∃ bytes, reply = some bytes) ∧ records = []) ∧
      ∀ bytes, reply = some bytes → bytes.length = data.length ∧
        (∃ p, Packet.decode data = .ok p ∧ Packet.decode bytes = .ok p.reply) ∧
          ∀ logged', ((dispatch keep bytes).run logged').1 = none := by
  rcases answer_cases data with ⟨ignored, hanswer, hunanswerable, hstrict⟩ |
    ⟨p, bytes, hanswer, hanswerable, hstrict, hdecode, hreply, hlength⟩
  · refine ⟨none, _, hstrict, dispatch_of_answer_error hanswer logged, ?_, .inl ⟨rfl, _, rfl⟩, ?_⟩
    · simp [hunanswerable]
    · intro bytes hbytes
      cases hbytes
  · refine ⟨some bytes, [], hstrict, ?_, ?_, .inr ⟨⟨bytes, rfl⟩, rfl⟩, ?_⟩
    · rw [dispatch_of_answer_ok hanswer logged, List.append_nil]
    · simp [hanswerable]
    · intro bytes' hbytes
      cases hbytes
      refine ⟨hlength, ⟨p, hdecode, hreply⟩, fun logged' => ?_⟩
      have hunanswered := answer_of_not_isEchoRequest hreply (isEchoRequest_reply p)
      rw [dispatch_of_answer_error hunanswered logged']

end ScionEcho.Responder
