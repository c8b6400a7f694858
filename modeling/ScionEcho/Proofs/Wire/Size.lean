import ScionEcho.Proofs.Wire.RoundTrip

/-!
# Sizes of packets

Of a packet whose numbers fit their fields, the size alone decides whether it is written, and with
which cause it is refused otherwise. The length of the layer-4 segment is computed and written
before the size is compared with anything: a segment too long for its field is refused as a number
that does not fit, whatever the limit.
-/

namespace ScionEcho

open Bytes

/-- Every number of a record fits its field. A pair is written as one number. -/
def Info.NumbersFit : Info → Prop
  | .echo id seq => FitsIn 8 id ∧ FitsIn 2 seq
  | .traceroute ia ifId hopOff _ => FitsIn 8 ia.toInt ∧ FitsIn 8 ifId ∧ FitsIn 1 hopOff
  | .packetSize size mtu => FitsIn 2 size ∧ FitsIn 2 mtu

/-- Every number of a payload fits its field. -/
def Payload.NumbersFit : Payload → Prop
  | .raw _ => True
  | .scmp head info => FitsIn 1 head.infoLines ∧ FitsIn 1 head.protocol ∧ info.NumbersFit

/-- Every number that a packet gives fits its field. Nothing is said of the lengths that are
computed from it. -/
structure Packet.NumbersFit (p : Packet) : Prop where
  dstIa : FitsIn 8 p.dstIa.toInt
  srcIa : FitsIn 8 p.srcIa.toInt
  l4 : p.l4.Fits
  payload : p.payload.NumbersFit

/-- Every number of a packet fits its field, and the length of its layer-4 segment does. -/
structure Packet.FieldsFit (p : Packet) : Prop where
  dstIa : FitsIn 8 p.dstIa.toInt
  srcIa : FitsIn 8 p.srcIa.toInt
  l4 : p.l4.Fits
  payload : p.payload.Fits
  segment : FitsIn 2 p.segmentLength

lemma Info.Fits.numbersFit {info : Info} (h : info.Fits) : info.NumbersFit := by
  cases info with
  | echo id seq => exact h
  | traceroute ia ifId hopOff ingress => exact ⟨h.1.fitsIn, h.2⟩
  | packetSize size mtu => exact h

lemma Payload.Fits.numbersFit {payload : Payload} (h : payload.Fits) : payload.NumbersFit := by
  cases payload with
  | raw data => trivial
  | scmp head info => exact ⟨h.1, h.2.1, h.2.2.numbersFit⟩

lemma Packet.FieldsFit.numbersFit {p : Packet} (h : p.FieldsFit) : p.NumbersFit :=
  ⟨h.dstIa, h.srcIa, h.l4, h.payload.numbersFit⟩

lemma Packet.WellFormedButLength.fieldsFit {p : Packet} (h : p.WellFormedButLength) :
    p.FieldsFit := by
  refine ⟨h.dstIa.fitsIn, h.srcIa.fitsIn, h.l4, h.payload, Wire.fitsIn_natCast ?_⟩
  have hsize := h.size_le
  rw [Packet.size, maxPacketLength] at hsize
  rw [Packet.segmentLength]
  omega

namespace Wire

/-! ### Numbers that fit are written -/

/-- Numbers that fit their fields are written, in as many bytes as the fields have. -/
lemma exists_fields?_of_fitsIn (items : List (Nat × Int))
    (h : ∀ item ∈ items, FitsIn item.1 item.2) :
    ∃ bytes, fields? items = some bytes ∧ bytes.length = (items.map Prod.fst).sum := by
  induction items with
  | nil => exact ⟨[], rfl, rfl⟩
  | cons item items ih =>
    obtain ⟨width, n⟩ := item
    obtain ⟨hpos, hlt⟩ : FitsIn width n := h (width, n) (by simp)
    obtain ⟨others, hothers, hlength⟩ := ih fun item hitem => h item (by simp [hitem])
    lift n to ℕ using hpos
    refine ⟨ofNat width n ++ others, ?_, by simp [hlength]⟩
    rw [fields?_cons, unsigned?_natCast (by exact_mod_cast hlt), hothers]
    rfl

lemma exists_infoBytes {info : Info} (h : info.NumbersFit) :
    ∃ record, info.bytes? = some record ∧ record.length = info.kind.size := by
  cases info with
  | echo id seq =>
    obtain ⟨hid, hseq⟩ := h
    obtain ⟨front, hfront, hlength⟩ :=
      exists_fields?_of_fitsIn [(8, id), (2, seq)] (by simp [hid, hseq])
    refine ⟨front ++ zeros 6, by rw [Info.bytes?, hfront]; rfl, ?_⟩
    simp [hlength, zeros, Info.kind, InfoKind.size]
  | traceroute ia ifId hopOff ingress =>
    obtain ⟨hia, hifId, hhopOff⟩ := h
    obtain ⟨front, hfront, hlength⟩ :=
      exists_fields?_of_fitsIn [(8, ia.toInt), (8, ifId), (1, hopOff)]
        (by simp [hia, hifId, hhopOff])
    refine ⟨front ++ (if ingress then 1 else 0) :: zeros 6, by rw [Info.bytes?, hfront]; rfl, ?_⟩
    simp [hlength, zeros, Info.kind, InfoKind.size]
  | packetSize size mtu =>
    obtain ⟨hsize, hmtu⟩ := h
    obtain ⟨front, hfront, hlength⟩ :=
      exists_fields?_of_fitsIn [(2, size), (2, mtu)] (by simp [hsize, hmtu])
    refine ⟨front ++ zeros 4, by rw [Info.bytes?, hfront]; rfl, ?_⟩
    simp [hlength, zeros, Info.kind, InfoKind.size]

lemma exists_payloadBytes {payload : Payload} (h : payload.NumbersFit) :
    ∃ body, payload.bytes? = some body ∧ body.length = payload.size := by
  cases payload with
  | raw body => exact ⟨body, rfl, rfl⟩
  | scmp head info =>
    obtain ⟨hlines, hprotocol, hinfo⟩ := h
    obtain ⟨front, hfront, hfrontLength⟩ :=
      exists_fields?_of_fitsIn [(1, head.infoLines), (1, head.protocol)]
        (by simp [hlines, hprotocol])
    obtain ⟨record, hrecord, hrecordLength⟩ := exists_infoBytes hinfo
    refine ⟨front ++ zeros 6 ++ record, ?_, ?_⟩
    · rw [Payload.bytes?, hfront, hrecord]
      rfl
    · simp [hfrontLength, hrecordLength, zeros, Payload.size, metaLength]
      omega

lemma exists_l4Bytes {l4 : L4Header} {length : Nat} (h : l4.Fits) (hlength : FitsIn 2 length) :
    ∃ front, l4.bytes? length = some front ∧ front.length = l4Length := by
  cases l4 with
  | scmp header =>
    obtain ⟨hclass, htype, hchecksum⟩ := h
    exact exists_fields?_of_fitsIn _ (by simp [hclass, htype, hlength, hchecksum])
  | udp header =>
    obtain ⟨hsrc, hdst, hchecksum⟩ := h
    exact exists_fields?_of_fitsIn _ (by simp [hsrc, hdst, hlength, hchecksum])

/-- All but the common header of a packet whose numbers fit can be written, if the length of its
layer-4 segment fits too. -/
lemma exists_tail? {p : Packet} (h : p.NumbersFit) (hsegment : FitsIn 2 p.segmentLength) :
    ∃ tail, p.tail? = some tail ∧ commonLength + tail.length = p.size := by
  obtain ⟨ias, hias, hiasLength⟩ :=
    exists_fields?_of_fitsIn [(8, p.dstIa.toInt), (8, p.srcIa.toInt)] (by simp [h.dstIa, h.srcIa])
  obtain ⟨body, hbody, hbodyLength⟩ := exists_payloadBytes h.payload
  obtain ⟨front, hfront, hfrontLength⟩ := exists_l4Bytes h.l4 hsegment
  rw [Packet.segmentLength, ← hbodyLength] at hfront
  refine ⟨ias ++ p.dstHost.packed ++ p.srcHost.packed ++ p.path ++ front ++ body, ?_, ?_⟩
  · simp [Packet.tail?, hbody, hfront, hias]
  · simp [hiasLength, hfrontLength, hbodyLength, Packet.size, iaPairLength]
    omega

/-! ### A length that does not fit is not written -/

end Wire

namespace Packet

/-! ### What the size decides -/

variable {p : Packet} {limit : Int}

/-- The largest length that a layer-4 header can state. -/
def maxSegmentLength : Nat := 0xffff

lemma fitsIn_segmentLength (h : p.segmentLength ≤ maxSegmentLength) :
    FitsIn 2 p.segmentLength := by
  rw [maxSegmentLength] at h
  exact Wire.fitsIn_natCast (by omega)

lemma FieldsFit.segmentLength_le (h : p.FieldsFit) : p.segmentLength ≤ maxSegmentLength := by
  obtain ⟨-, hlt⟩ := h.segment
  rw [maxSegmentLength]
  omega

/-- A packet of a size that the common header can state has no segment too long for its field. -/
lemma segmentLength_le_of_size_le (h : p.size ≤ maxPacketLength) :
    p.segmentLength ≤ maxSegmentLength := by
  rw [size, maxPacketLength] at h
  rw [segmentLength, maxSegmentLength]
  omega

/-- A packet within both limits is written, in as many bytes as it has. -/
lemma NumbersFit.exists_encode (h : p.NumbersFit) (hlimit : p.size ≤ limit)
    (hsize : p.size ≤ maxPacketLength) :
    ∃ bytes, p.encode limit = .ok bytes ∧ bytes.length = p.size := by
  obtain ⟨tail, htail, htotal⟩ :=
    Wire.exists_tail? h (fitsIn_segmentLength (segmentLength_le_of_size_le hsize))
  refine ⟨p.commonHeader p.size ++ tail, ?_, ?_⟩
  · rw [encode, htail]
    dsimp only
    rw [htotal, if_neg (by omega), if_neg (by omega)]
  · rw [List.length_append, length_commonHeader, htotal]

/-- A packet longer than the limit is refused for its length. -/
lemma NumbersFit.encode_of_limit_lt (h : p.NumbersFit)
    (hsegment : p.segmentLength ≤ maxSegmentLength) (hsize : limit < p.size) :
    p.encode limit = .error (.tooLong p.size limit) := by
  obtain ⟨tail, htail, htotal⟩ := Wire.exists_tail? h (fitsIn_segmentLength hsegment)
  rw [encode, htail]
  dsimp only
  rw [htotal, if_pos hsize]

/-- What is written is within the limit. -/
lemma length_le_of_encode {bytes : Bytes} (h : p.encode limit = .ok bytes) :
    (bytes.length : Int) ≤ limit := by
  unfold encode at h
  split at h
  · cases h
  · next tail htail =>
    dsimp only at h
    split_ifs at h with hlimit hmax
    cases h
    rw [List.length_append, length_commonHeader]
    omega

end Packet

end ScionEcho
