import Mathlib.Tactic.Lift
import ScionEcho.Proofs.Wire.WellFormed

/-!
# Writing and reading back

A packet that is written and read back is found unchanged exactly if it is well formed. Half of it
holds because everything that is read is well formed; for the other half, what is written of a
well-formed packet is in the grammar, part by part.
-/

namespace ScionEcho

open Bytes

/-- A header with another length. -/
def L4Header.withLength (length : Int) : L4Header → L4Header
  | .scmp h => .scmp { h with length }
  | .udp h => .udp { h with length }

lemma L4Header.withLength_length (l4 : L4Header) : l4.withLength l4.length = l4 := by
  cases l4 <;> rfl

/-- A host without its zone. -/
def Host.unzoned : Host → Host
  | .v4 octets => .v4 octets
  | .v6 octets _ => .v6 octets none

namespace Wire

/-! ### What is written is in the grammar -/

lemma unsigned?_natCast {width n : Nat} (h : n < 256 ^ width) :
    unsigned? width n = some (ofNat width n) := by
  have hfits : (n : Int) < fieldCount width := by
    rw [fieldCount_eq]
    exact_mod_cast h
  rw [unsigned?, if_pos ⟨Int.natCast_nonneg n, hfits⟩, Int.toNat_natCast]

lemma unsigned?_of_not_fitsIn {width : Nat} {n : Int} (h : ¬ FitsIn width n) :
    unsigned? width n = none := by
  have hlarge : ¬ (0 ≤ n ∧ n < fieldCount width) := by
    rw [fieldCount_eq]
    exact_mod_cast h
  rw [unsigned?, if_neg hlarge]

lemma exists_unsigned?_of_fitsIn {width : Nat} {n : Int} (h : FitsIn width n) :
    ∃ bytes, unsigned? width n = some bytes := by
  obtain ⟨hnonneg, hlt⟩ := h
  lift n to ℕ using hnonneg
  exact ⟨_, unsigned?_natCast (by exact_mod_cast hlt)⟩

/-- The bytes of a field tell its number. -/
lemma toNat_of_unsigned? {width : Nat} {n : Int} {bytes : Bytes}
    (h : unsigned? width n = some bytes) : (toNat bytes : Int) = n := by
  rw [unsigned?] at h
  split_ifs at h with hfits
  obtain ⟨hnonneg, hlt⟩ := hfits
  obtain rfl := Option.some.inj h
  rw [toNat_ofNat, Nat.mod_eq_of_lt (by omega), Int.toNat_of_nonneg hnonneg]

lemma fields?_cons (width : Nat) (n : Int) (items : List (Nat × Int)) :
    fields? ((width, n) :: items) =
      (unsigned? width n).bind fun first => (fields? items).map (first ++ ·) := by
  unfold fields?
  rw [List.mapM_cons]
  cases hn : unsigned? width n with
  | none => simp [hn]
  | some first =>
    cases items.mapM fun (width, n) => unsigned? width n with
    | none => simp [hn]
    | some others => simp [hn]

/-- Numbers that fit their fields are written as a row. -/
lemma exists_fields? (items : List (Nat × Nat)) (h : ∀ item ∈ items, item.2 < 256 ^ item.1) :
    ∃ bytes, fields? (items.map fun item => (item.1, (item.2 : Int))) = some bytes ∧
      IsRow items bytes := by
  induction items with
  | nil => exact ⟨[], rfl, .nil⟩
  | cons item items ih =>
    obtain ⟨width, n⟩ := item
    obtain ⟨others, hothers, hrow⟩ := ih fun item hitem => h item (by simp [hitem])
    have hn : n < 256 ^ width := h (width, n) (by simp)
    refine ⟨ofNat width n ++ others, ?_, .cons hn hrow⟩
    rw [List.map_cons, fields?_cons, unsigned?_natCast hn, hothers]
    rfl

lemma exists_infoForm {info : Info} (h : info.Fits) :
    ∃ bytes, info.bytes? = some bytes ∧ InfoForm info.kind bytes info := by
  cases info with
  | echo id seq =>
    obtain ⟨⟨hid, hidLt⟩, hseq, hseqLt⟩ := h
    lift id to ℕ using hid
    lift seq to ℕ using hseq
    obtain ⟨front, hfront, hrow⟩ := exists_fields? [(8, id), (2, seq)] (by simp; omega)
    have hwritten : fields? [(8, (id : Int)), (2, (seq : Int))] = some front := hfront
    refine ⟨front ++ zeros 6, ?_, .echo hrow List.length_replicate⟩
    rw [Info.bytes?, hwritten]
    rfl
  | traceroute ia ifId hopOff ingress =>
    obtain ⟨hia, ⟨hifId, hifIdLt⟩, hhopOff, hhopOffLt⟩ := h
    obtain ⟨hiaPos, hiaLt⟩ := hia.fitsIn
    obtain ⟨n, hn⟩ := Int.eq_ofNat_of_zero_le hiaPos
    have hofInt : .ofInt n = ia := by rw [← hn, IsdAs.ofInt_toInt hia]
    lift ifId to ℕ using hifId
    lift hopOff to ℕ using hhopOff
    obtain ⟨front, hfront, hrow⟩ :=
      exists_fields? [(8, n), (8, ifId), (1, hopOff)] (by simp; omega)
    have hwritten : fields? [(8, (n : Int)), (8, (ifId : Int)), (1, (hopOff : Int))] = some front :=
      hfront
    have hside : IsRow [(1, if ingress then 1 else 0)] [if ingress then 1 else 0] := by
      cases ingress <;> exact ⟨by simp, rfl⟩
    have hform := InfoForm.traceroute (hrow.append hside) (List.length_replicate (a := 0) (n := 6))
    rw [hofInt] at hform
    refine ⟨front ++ (if ingress then 1 else 0) :: zeros 6, ?_, ?_⟩
    · rw [Info.bytes?, hn, hwritten]
      rfl
    · cases ingress <;> simpa [zeros, Info.kind] using hform
  | packetSize size mtu =>
    obtain ⟨⟨hsize, hsizeLt⟩, hmtu, hmtuLt⟩ := h
    lift size to ℕ using hsize
    lift mtu to ℕ using hmtu
    obtain ⟨front, hfront, hrow⟩ := exists_fields? [(2, size), (2, mtu)] (by simp; omega)
    have hwritten : fields? [(2, (size : Int)), (2, (mtu : Int))] = some front := hfront
    refine ⟨front ++ zeros 4, ?_, .packetSize hrow List.length_replicate⟩
    rw [Info.bytes?, hwritten]
    rfl

lemma exists_l4Form {l4 : L4Header} {payload : Payload} (hl4 : l4.Fits) (hpayload : payload.Fits)
    (hgoes : payload.GoesWith l4) (hsize : l4Length + payload.size < 256 ^ 2) :
    ∃ front body, payload.bytes? = some body ∧ l4.bytes? (l4Length + body.length) = some front ∧
      L4Form l4.protocol (front ++ body) (l4.withLength (l4Length + payload.size : Nat)) payload := by
  match l4, payload, hgoes with
  | .udp ⟨srcPort, dstPort, length, checksum⟩, .raw body, _ =>
    obtain ⟨⟨hsrc, hsrcLt⟩, ⟨hdst, hdstLt⟩, hsum, hsumLt⟩ := hl4
    dsimp only at hsrc hsrcLt hdst hdstLt hsum hsumLt
    lift srcPort to ℕ using hsrc
    lift dstPort to ℕ using hdst
    lift checksum to ℕ using hsum
    rw [Payload.size] at hsize
    obtain ⟨front, hfront, hrow⟩ := exists_fields?
      [(2, srcPort), (2, dstPort), (2, l4Length + body.length), (2, checksum)] (by simp; omega)
    exact ⟨front, body, rfl, hfront, .udp hrow rfl⟩
  | .scmp ⟨scmpClass, scmpType, length, checksum⟩, .scmp ⟨lines, protocol⟩ info,
      ⟨hkind, hlines⟩ =>
    obtain ⟨⟨hclass, hclassLt⟩, ⟨htype, htypeLt⟩, hsum, hsumLt⟩ := hl4
    obtain ⟨⟨hlinesPos, hlinesLt⟩, ⟨hprotocol, hprotocolLt⟩, hinfo⟩ := hpayload
    dsimp only at hclass hclassLt htype htypeLt hsum hsumLt hkind hlines
    dsimp only at hlinesPos hlinesLt hprotocol hprotocolLt
    lift scmpClass to ℕ using hclass
    lift scmpType to ℕ using htype
    lift checksum to ℕ using hsum
    lift lines to ℕ using hlinesPos
    lift protocol to ℕ using hprotocol
    obtain ⟨record, hrecord, hform⟩ := exists_infoForm hinfo
    obtain ⟨ahead, hahead, haheadRow⟩ :=
      exists_fields? [(1, lines), (1, protocol)] (by simp; omega)
    have hwritten : fields? [(1, (lines : Int)), (1, (protocol : Int))] = some ahead := hahead
    have hreserved : (zeros 6).length = 6 := List.length_replicate
    have hrecordLength : record.length = info.kind.size := (infoForm_iff.mp hform).1
    have hbody : ScmpForm scmpClass scmpType (ahead ++ zeros 6 ++ record)
        (.scmp ⟨lines, protocol⟩ info) :=
      .mk haheadRow hreserved hkind hform (by rw [hrecordLength]; exact_mod_cast hlines.symm)
    have hbodyLength := (hbody.fits 0 0).2.1
    obtain ⟨front, hfront, hrow⟩ := exists_fields?
      [(2, scmpClass), (2, scmpType), (2, l4Length + (ahead ++ zeros 6 ++ record).length),
        (2, checksum)] (by simp only [← hbodyLength]; simp; omega)
    refine ⟨front, ahead ++ zeros 6 ++ record, ?_, hfront, ?_⟩
    · rw [Payload.bytes?, hwritten, hrecord]
      rfl
    · rw [hbodyLength]
      exact .scmp hrow rfl hbody

lemma unzoned_eq_self {host : Host} (h : host.zone? = none) : host.unzoned = host := by
  cases host with
  | v4 octets => rfl
  | v6 octets zone =>
    rw [Host.zone?] at h
    rw [h]
    rfl

lemma hostForm_unzoned (host : Host) : HostForm host.typeNumber host.packed host.unzoned := by
  cases host with
  | v4 octets => exact .v4 octets
  | v6 octets zone => exact .v6 octets

lemma isRow_commonHeader {p : Packet} {total : Nat} (htotal : total ≤ maxPacketLength)
    (hpath : p.path.length ≤ total) :
    IsRow [(1, 0), (1, p.l4.protocol.number), (2, total), (1, p.dstHost.typeNumber),
      (1, p.srcHost.typeNumber), (2, p.path.length)] (p.commonHeader total) := by
  have hprotocol : p.l4.protocol.number < 256 := by cases p.l4.protocol <;> decide
  have htype (host : Host) : host.typeNumber < 256 := by cases host <;> simp [Host.typeNumber]
  have := htype p.dstHost
  have := htype p.srcHost
  rw [maxPacketLength] at htotal
  refine ⟨by simp; omega, ?_⟩
  simp [Packet.commonHeader, row, ofNat]

/-- A packet that is well formed but for the length that it states is written as the grammar has
it, with the right length in place of the stated one. -/
lemma exists_encode {p : Packet} (h : p.WellFormedButLength) :
    ∃ data, (∀ limit : Int, p.size ≤ limit → p.encode limit = .ok data) ∧
      PacketForm data { p with l4 := p.l4.withLength p.segmentLength } := by
  obtain ⟨hsize, hdstIa, hsrcIa, hdst, hsrc, hl4, hpayload, hgoes⟩ := h
  obtain ⟨dstIa, hdstInt⟩ := Int.eq_ofNat_of_zero_le hdstIa.fitsIn.1
  obtain ⟨srcIa, hsrcInt⟩ := Int.eq_ofNat_of_zero_le hsrcIa.fitsIn.1
  have hdstLt := hdstIa.fitsIn.2
  have hsrcLt := hsrcIa.fitsIn.2
  obtain ⟨ias, hias, hiasRow⟩ :=
    exists_fields? [(8, dstIa), (8, srcIa)] (by simp; omega)
  have hwritten : fields? [(8, p.dstIa.toInt), (8, p.srcIa.toInt)] = some ias := by
    rw [hdstInt, hsrcInt]
    exact hias
  have hsegmentLt : l4Length + p.payload.size < 256 ^ 2 := by
    rw [Packet.size, maxPacketLength] at hsize
    omega
  obtain ⟨front, body, hbody, hfront, hform⟩ := exists_l4Form hl4 hpayload hgoes hsegmentLt
  have htail : p.tail? = some (ias ++ p.dstHost.packed ++ p.srcHost.packed ++ p.path ++ front ++
      body) := by
    simp [Packet.tail?, hbody, hfront, hwritten]
  have htotal : commonLength + (ias ++ p.dstHost.packed ++ p.srcHost.packed ++ p.path ++ front ++
      body).length = p.size := by
    obtain ⟨-, -, -, hsegment, -⟩ := hform.fits
    have hiasLength := hiasRow.length
    simp [rowLength] at hiasLength hsegment
    simp [Packet.size, hiasLength, iaPairLength]
    omega
  obtain ⟨data, hdata⟩ : ∃ data, data = p.commonHeader p.size ++
    (ias ++ p.dstHost.packed ++ p.srcHost.packed ++ p.path ++ front ++ body) := ⟨_, rfl⟩
  refine ⟨data, ?_, ?_⟩
  · intro limit hlimit
    rw [Packet.encode, htail]
    dsimp only
    rw [htotal, if_neg (by omega), if_neg (by omega), hdata]
  · have hlength : data.length = p.size := by
      rw [hdata, List.length_append, length_commonHeader, htotal]
    have hheader := isRow_commonHeader (p := p) hsize (by rw [Packet.size]; omega)
    rw [← hlength] at hheader
    have hpacket := PacketForm.mk (by rw [hlength, hdata]; simp) hheader hiasRow
      (hostForm_unzoned p.dstHost) (hostForm_unzoned p.srcHost) hform
    rw [← hdstInt, ← hsrcInt, IsdAs.ofInt_toInt hdstIa, IsdAs.ofInt_toInt hsrcIa,
      unzoned_eq_self hdst, unzoned_eq_self hsrc] at hpacket
    exact hpacket

/-- A well-formed packet is written as the grammar has it. -/
lemma exists_encode_of_wellFormed {p : Packet} (h : p.WellFormed) :
    ∃ data, (∀ limit : Int, p.size ≤ limit → p.encode limit = .ok data) ∧ PacketForm data p := by
  obtain ⟨data, hencode, hform⟩ := exists_encode h.toWellFormedButLength
  rw [← h.length, L4Header.withLength_length] at hform
  exact ⟨data, hencode, hform⟩

end Wire

/-! ### The round trip -/

namespace Packet

/-- Writing a packet and reading it back yields the same packet exactly if the packet is well
formed. If it is well formed but for the length that it states, the packet with the right length
is read back. -/
theorem decode_encode_iff_wellFormed (p : Packet) :
    ((∃ data, p.encode maxPacketLength = .ok data ∧ decode data = .ok p) ↔ p.WellFormed) ∧
      (p.WellFormedButLength → ∃ data, p.encode maxPacketLength = .ok data ∧
        decode data = .ok { p with l4 := p.l4.withLength p.segmentLength }) := by
  have hwritten (h : p.WellFormedButLength) : ∃ data, p.encode maxPacketLength = .ok data ∧
      decode data = .ok { p with l4 := p.l4.withLength p.segmentLength } := by
    obtain ⟨data, hencode, hform⟩ := Wire.exists_encode h
    exact ⟨data, hencode _ (by exact_mod_cast h.size_le), Wire.decode_of_packetForm hform⟩
  refine ⟨⟨?_, ?_⟩, hwritten⟩
  · rintro ⟨data, -, hdecode⟩
    exact (Wire.packetForm_of_decode hdecode).wellFormed.1
  · intro h
    obtain ⟨data, hencode, hdecode⟩ := hwritten h.toWellFormedButLength
    rw [← h.length, L4Header.withLength_length] at hdecode
    exact ⟨data, hencode, hdecode⟩

/-- A datagram of one byte that states no length, from AS 1 to AS 2 of the same ISD. -/
def unstatedDatagram : Packet where
  dstIa := ⟨1, 2⟩
  srcIa := ⟨1, 1⟩
  dstHost := .v4 #v[10, 0, 0, 2]
  srcHost := .v4 #v[10, 0, 0, 1]
  path := [7, 7]
  l4 := .udp ⟨30041, 40000, 0, 0⟩
  payload := .raw [5]

theorem decode_encode_unstatedDatagram :
    unstatedDatagram.WellFormedButLength ∧ ∃ data,
      unstatedDatagram.encode maxPacketLength = .ok data ∧
        decode data = .ok { unstatedDatagram with l4 := .udp ⟨30041, 40000, 9, 0⟩ } := by
  have h : unstatedDatagram.WellFormedButLength := by
    refine ⟨by decide, ⟨?_, ?_, ?_, ?_⟩, ⟨?_, ?_, ?_, ?_⟩, rfl, rfl, ⟨⟨?_, ?_⟩, ⟨?_, ?_⟩, ?_, ?_⟩,
      trivial, trivial⟩ <;> decide
  exact ⟨h, (decode_encode_iff_wellFormed unstatedDatagram).2 h⟩

end Packet

end ScionEcho
