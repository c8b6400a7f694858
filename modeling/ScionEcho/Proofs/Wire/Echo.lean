import ScionEcho.Probe.Run
import ScionEcho.Proofs.Wire.Size
import ScionEcho.Responder.Dispatch

/-!
# Echoes on the wire

The request that a run sends is answered with the reply to it, and the reply carries the id of the
request back.
-/

namespace ScionEcho

open Bytes

namespace Packet

/-- A packet without the zones of its hosts, which are never on the wire. -/
def unzoned (p : Packet) : Packet :=
  { p with dstHost := p.dstHost.unzoned, srcHost := p.srcHost.unzoned }

/-- What answers a packet: its record, sent back where the packet came from. -/
def reply (p : Packet) : Packet where
  dstIa := p.srcIa
  srcIa := p.dstIa
  dstHost := p.srcHost
  srcHost := p.dstHost
  path := p.path
  l4 := .scmp ⟨classGeneral, typeEchoReply, p.l4.length, 0⟩
  payload := p.payload

lemma encode_unzoned (p : Packet) (limit : Int) : p.unzoned.encode limit = p.encode limit := by
  obtain ⟨dstIa, srcIa, dstHost, srcHost, path, l4, payload⟩ := p
  cases dstHost <;> cases srcHost <;> rfl

lemma isEchoRequest_iff {p : Packet} :
    p.isEchoRequest = true ↔ ∃ length checksum head id seq,
      p.l4 = .scmp ⟨classGeneral, typeEchoRequest, length, checksum⟩ ∧
        p.payload = .scmp head (.echo id seq) := by
  unfold isEchoRequest
  constructor
  · intro h
    split at h
    · next header head id seq hl4 hpayload =>
      obtain ⟨scmpClass, scmpType, length, checksum⟩ := header
      simp only [Bool.and_eq_true, decide_eq_true_eq] at h
      obtain ⟨rfl, rfl⟩ := h
      exact ⟨length, checksum, head, id, seq, hl4, hpayload⟩
    · cases h
  · rintro ⟨length, checksum, head, id, seq, hl4, hpayload⟩
    simp [hl4, hpayload]

lemma echoReply?_of_isEchoRequest {p : Packet} (h : p.isEchoRequest = true) :
    p.echoReply? = some p.reply := by
  rw [echoReply?, if_pos h]
  rfl

/-- The reply to a well-formed request is well formed, and is as long. -/
lemma WellFormed.reply {p : Packet} (h : p.WellFormed) (hecho : p.isEchoRequest = true) :
    p.reply.WellFormed ∧ p.reply.size = p.size := by
  obtain ⟨length, checksum, head, id, seq, hl4, hpayload⟩ := isEchoRequest_iff.mp hecho
  obtain ⟨⟨hsize, hdstIa, hsrcIa, hdst, hsrc, -, hfits, hgoes⟩, hlength⟩ := h
  have hreplySize : p.reply.size = p.size := by
    simp only [size, Packet.reply]
    omega
  rw [hl4, hpayload] at hgoes
  refine ⟨⟨⟨?_, hsrcIa, hdstIa, hsrc, hdst, ⟨?_, ?_, ?_⟩, hfits, ?_⟩, hlength⟩, hreplySize⟩
  · rwa [hreplySize]
  · constructor <;> simp [classGeneral]
  · constructor <;> simp [typeEchoReply]
  · constructor <;> simp
  · rw [Packet.reply, hpayload]
    exact hgoes

/-- An echo has a correlation id. -/
lemma correlationId_reply {p : Packet} {head : ScmpMeta} {id seq : Int}
    (h : p.payload = .scmp head (.echo id seq)) : p.reply.correlationId = .ok id := by
  rw [correlationId, Packet.reply, h]

end Packet

/-- The reply to an echo request that is not too long can be written, and is as long. -/
lemma exists_encode_reply {data : Bytes} {p : Packet} (h : Wire.PacketForm data p)
    (hecho : p.isEchoRequest = true) (hlength : data.length ≤ minMtu) :
    ∃ bytes, p.reply.encode minMtu = .ok bytes ∧ Wire.PacketForm bytes p.reply ∧
      bytes.length = data.length := by
  obtain ⟨hwell, hsize⟩ := h.wellFormed
  obtain ⟨hreply, hreplySize⟩ := hwell.reply hecho
  obtain ⟨bytes, hencode, hform⟩ := Wire.exists_encode_of_wellFormed hreply
  refine ⟨bytes, hencode minMtu (by omega), hform, ?_⟩
  rw [hform.wellFormed.2, hreplySize, hsize]

/-- Every echo request that is not too long is answered with the reply to it. -/
lemma exists_answer {data : Bytes} {p : Packet} (h : Wire.PacketForm data p)
    (hecho : p.isEchoRequest = true) (hlength : data.length ≤ minMtu) :
    ∃ bytes, Responder.answer data = .ok bytes ∧ Wire.PacketForm bytes p.reply ∧
      bytes.length = data.length := by
  obtain ⟨bytes, hencode, hform, hbytes⟩ := exists_encode_reply h hecho hlength
  refine ⟨bytes, ?_, hform, hbytes⟩
  rw [Responder.answer, Wire.decode_of_packetForm h]
  dsimp only
  rw [Packet.echoReply?_of_isEchoRequest hecho]
  dsimp only
  rw [hencode]

/-! ### The requests of a run -/

/-- The number of bytes of every request from one endpoint to another. -/
def requestSize (src dst : Endpoint) : Nat :=
  56 + dst.host.packed.length + src.host.packed.length + dst.path.length

/-- The request with the given id, as it is read from the wire. -/
def requestPacket (src dst : Endpoint) (id : Int) : Packet where
  dstIa := dst.ia
  srcIa := src.ia
  dstHost := dst.host.unzoned
  srcHost := src.host.unzoned
  path := dst.path
  l4 := .scmp ⟨classGeneral, typeEchoRequest, 32, 0⟩
  payload := .scmp ⟨2, 1⟩ (.echo id 0)

/-- The request with the given id, as it is built from the endpoints. -/
def probePacket (src dst : Endpoint) (id : Int) : Packet :=
  { requestPacket src dst id with dstHost := dst.host, srcHost := src.host }

lemma unzoned_probePacket (src dst : Endpoint) (id : Int) :
    (probePacket src dst id).unzoned = requestPacket src dst id := rfl

lemma ofEchoRequest_of_fitsIn {id : Int} (src dst : Endpoint) (hid : FitsIn 8 id) :
    Packet.ofEchoRequest src dst ⟨id, 0⟩ = .ok (probePacket src dst id) := by
  have hinfo : (Info.echo id 0).Fits := ⟨hid, by constructor <;> simp⟩
  obtain ⟨record, hrecord, hform⟩ := Wire.exists_infoForm hinfo
  have hlength : record.length = 16 := (Wire.infoForm_iff.mp hform).1
  have hpayload : Payload.ofInfo (.echo id 0) = .ok (.scmp ⟨2, 1⟩ (.echo id 0)) := by
    rw [Payload.ofInfo, hrecord]
    dsimp only
    rw [hlength]
    rfl
  obtain ⟨front, hfront⟩ : ∃ front, fields? [(1, 2), (1, 1)] = some front := ⟨_, rfl⟩
  have hfrontLength : front.length = 2 := by
    cases hfront
    rfl
  have hbody : (Payload.scmp ⟨2, 1⟩ (.echo id 0)).bytes? = some (front ++ zeros 6 ++ record) := by
    rw [Payload.bytes?, hfront, hrecord]
    rfl
  have hbodyLength : (front ++ zeros 6 ++ record).length = 24 := by
    simp [hfrontLength, hlength, zeros]
  rw [Packet.ofEchoRequest, hpayload, ok_bind, hbody]
  dsimp only
  rw [hbodyLength]
  rfl

/-- No record is written of an id of more than 64 bits. -/
lemma bytes?_echo_of_not_fitsIn {id : Int} (hid : ¬ FitsIn 8 id) :
    (Info.echo id 0).bytes? = none := by
  rw [Info.bytes?, Wire.fields?_cons, Wire.unsigned?_of_not_fitsIn hid]
  rfl

lemma ofEchoRequest_of_not_fitsIn {id : Int} (src dst : Endpoint) (hid : ¬ FitsIn 8 id) :
    Packet.ofEchoRequest src dst ⟨id, 0⟩ = .error .fieldOverflow := by
  rw [Packet.ofEchoRequest, Payload.ofInfo, bytes?_echo_of_not_fitsIn hid]
  rfl

/-- The bytes of a request are what its packet is written as. -/
lemma requestBytes_eq (src dst : Endpoint) (s : RunSettings) (id : Int) :
    Run.requestBytes src dst s id = (probePacket src dst id).encode s.maxPacketLength := by
  rw [Run.requestBytes]
  by_cases hid : FitsIn 8 id
  · rw [ofEchoRequest_of_fitsIn src dst hid, ok_bind]
  · have hpayload : (probePacket src dst id).payload.bytes? = none := by
      rw [probePacket, requestPacket, Payload.bytes?, bytes?_echo_of_not_fitsIn hid]
      rfl
    rw [ofEchoRequest_of_not_fitsIn src dst hid, error_bind, Packet.encode, Packet.tail?, hpayload]
    rfl

lemma packed_unzoned (host : Host) : host.unzoned.packed = host.packed := by
  cases host <;> rfl

lemma zone?_unzoned (host : Host) : host.unzoned.zone? = none := by
  cases host <;> rfl

lemma size_requestPacket (src dst : Endpoint) (id : Int) :
    (requestPacket src dst id).size = requestSize src dst := by
  simp [Packet.size, requestPacket, requestSize, packed_unzoned, commonLength, iaPairLength,
    l4Length, Payload.size, metaLength, Info.kind, InfoKind.size]
  omega

lemma fieldsFit_requestPacket {src dst : Endpoint} {id : Int} (hsrc : src.ia.InRange)
    (hdst : dst.ia.InRange) (hid : FitsIn 8 id) : (requestPacket src dst id).FieldsFit := by
  have hsegment : (requestPacket src dst id).segmentLength = (32 : Nat) := rfl
  refine ⟨hdst.fitsIn, hsrc.fitsIn, ⟨?_, ?_, ?_⟩, ⟨?_, ?_, hid, ?_⟩, ?_⟩
  · constructor <;> simp [classGeneral]
  · constructor <;> simp [typeEchoRequest]
  · constructor <;> simp
  · constructor <;> simp
  · constructor <;> simp
  · constructor <;> simp
  · rw [hsegment]
    constructor <;> simp

lemma wellFormed_requestPacket {src dst : Endpoint} {id : Int} (hsrc : src.ia.InRange)
    (hdst : dst.ia.InRange) (hid : FitsIn 8 id) (hsize : requestSize src dst ≤ maxPacketLength) :
    (requestPacket src dst id).WellFormed := by
  have hfits := fieldsFit_requestPacket hsrc hdst hid
  refine ⟨⟨?_, hdst, hsrc, zone?_unzoned dst.host, zone?_unzoned src.host, hfits.l4, hfits.payload,
    ?_, ?_⟩, ?_⟩
  · rwa [size_requestPacket]
  · rfl
  · rfl
  · rfl

/-- The request with an id of 64 bits can be written, if its size is within the limit. -/
lemma exists_requestBytes {src dst : Endpoint} {s : RunSettings} {id : Int} (hsrc : src.ia.InRange)
    (hdst : dst.ia.InRange) (hid : FitsIn 8 id) (hsize : requestSize src dst ≤ maxPacketLength)
    (hlimit : requestSize src dst ≤ s.maxPacketLength) :
    ∃ request, Run.requestBytes src dst s id = .ok request ∧
      Wire.PacketForm request (requestPacket src dst id) := by
  have hwell := wellFormed_requestPacket hsrc hdst hid hsize
  obtain ⟨request, hencode, hform⟩ := Wire.exists_encode_of_wellFormed hwell
  refine ⟨request, ?_, hform⟩
  rw [requestBytes_eq, ← Packet.encode_unzoned, unzoned_probePacket]
  apply hencode
  rwa [size_requestPacket]

/-- The request with an id of 64 bits is answered with an echo of that id. -/
lemma exists_exchange {src dst : Endpoint} {s : RunSettings} {id : Int} (hsrc : src.ia.InRange)
    (hdst : dst.ia.InRange) (hid : FitsIn 8 id) (hsize : requestSize src dst ≤ minMtu)
    (hlimit : requestSize src dst ≤ s.maxPacketLength) :
    ∃ request reply packet, Run.requestBytes src dst s id = .ok request ∧
      Responder.answer request = .ok reply ∧ Packet.decode reply = .ok packet ∧
        packet.correlationId = .ok id := by
  have hmax : requestSize src dst ≤ maxPacketLength := Nat.le_trans hsize (by decide)
  obtain ⟨request, hrequest, hform⟩ := exists_requestBytes hsrc hdst hid hmax hlimit
  have hlength : request.length ≤ minMtu := by
    rwa [hform.wellFormed.2, size_requestPacket]
  obtain ⟨reply, hanswer, hreplyForm, -⟩ := exists_answer hform rfl hlength
  exact ⟨request, reply, _, hrequest, hanswer, Wire.decode_of_packetForm hreplyForm,
    Packet.correlationId_reply rfl⟩

/-- A request determines its id. -/
lemma requestBytes_injective {src dst : Endpoint} {s : RunSettings} {id id' : Int}
    (hsrc : src.ia.InRange) (hdst : dst.ia.InRange) (hid : FitsIn 8 id) (hid' : FitsIn 8 id')
    (hsize : requestSize src dst ≤ maxPacketLength)
    (hlimit : requestSize src dst ≤ s.maxPacketLength)
    (heq : Run.requestBytes src dst s id = Run.requestBytes src dst s id') : id = id' := by
  obtain ⟨request, hrequest, hform⟩ := exists_requestBytes hsrc hdst hid hsize hlimit
  obtain ⟨request', hrequest', hform'⟩ := exists_requestBytes hsrc hdst hid' hsize hlimit
  rw [hrequest, hrequest', Except.ok.injEq] at heq
  subst heq
  have hpacket := Wire.decode_of_packetForm hform
  rw [Wire.decode_of_packetForm hform', Except.ok.injEq] at hpacket
  have hpayload := congrArg Packet.payload hpacket
  simp only [requestPacket, Payload.scmp.injEq, Info.echo.injEq] at hpayload
  exact hpayload.2.1.symm

end ScionEcho
