import ScionEcho.Proofs.Wire.RoundTrip

/-!
# Canonical bytes

Not every byte of a packet matters: reserved bytes are skipped, and of the mark of an ingress side
it matters only whether it is zero. Writing a packet that was read settles these bytes and keeps all
others, so of all the spellings of a packet one is written.
-/

namespace ScionEcho

open Bytes

/-- What a byte of a packet is for. -/
inductive ByteRole
  /-- A part of a number, an address, a path or raw data. -/
  | content
  /-- A mark, which is set unless the byte is zero. -/
  | mark
  /-- A byte that is skipped. -/
  | reserved
  deriving DecidableEq, Repr

/-- The byte that is written where the given one was read. -/
def ByteRole.settle : ByteRole → UInt8 → UInt8
  | .content, b => b
  | .mark, b => if b = 0 then 0 else 1
  | .reserved, _ => 0

/-- What the bytes of a record are for, by their places in it. -/
def InfoKind.role : InfoKind → Nat → ByteRole
  | .echo, i => if i < 10 then .content else .reserved
  | .traceroute, i => if i < 17 then .content else if i = 17 then .mark else .reserved
  | .packetSize, i => if i < 4 then .content else .reserved

/-- What the bytes of a payload are for, by their places in it. -/
def Payload.role : Payload → Nat → ByteRole
  | .raw _, _ => .content
  | .scmp _ info, i =>
    if i < 2 then .content
    else if i < metaLength then .reserved
    else info.kind.role (i - metaLength)

namespace Packet

/-- The number of bytes in front of the payload of a packet. -/
def payloadOffset (p : Packet) : Nat :=
  commonLength + iaPairLength + p.dstHost.packed.length + p.srcHost.packed.length +
    p.path.length + l4Length

/-- What the bytes of a packet are for, by their places in it. -/
def role (p : Packet) (i : Nat) : ByteRole :=
  if i < p.payloadOffset then .content else p.payload.role (i - p.payloadOffset)

end Packet

namespace Bytes

/-- Bytes with each of them settled by its role. -/
def settle (role : Nat → ByteRole) (bytes : Bytes) : Bytes :=
  bytes.mapIdx fun i b => (role i).settle b

variable {role : Nat → ByteRole}

@[simp] lemma length_settle (role : Nat → ByteRole) (bytes : Bytes) :
    (settle role bytes).length = bytes.length :=
  List.length_mapIdx

lemma getElem?_settle (role : Nat → ByteRole) (bytes : Bytes) (i : Nat) :
    (settle role bytes)[i]? = bytes[i]?.map (role i).settle :=
  List.getElem?_mapIdx

lemma settle_append (role : Nat → ByteRole) (a b : Bytes) :
    settle role (a ++ b) = settle role a ++ settle (fun i => role (a.length + i)) b := by
  simp only [settle, List.mapIdx_append, Nat.add_comm]

lemma settle_congr {role' : Nat → ByteRole} {bytes : Bytes}
    (h : ∀ i < bytes.length, role i = role' i) : settle role bytes = settle role' bytes := by
  apply List.ext_getElem?
  intro i
  rw [getElem?_settle, getElem?_settle]
  by_cases hi : i < bytes.length
  · rw [h i hi]
  · rw [List.getElem?_eq_none (by omega)]
    rfl

lemma settle_eq_self (bytes : Bytes) (h : ∀ i < bytes.length, role i = .content) :
    settle role bytes = bytes := by
  apply List.ext_getElem?
  intro i
  rw [getElem?_settle]
  by_cases hi : i < bytes.length
  · rw [h i hi, List.getElem?_eq_getElem hi]
    rfl
  · rw [List.getElem?_eq_none (by omega)]
    rfl

lemma settle_eq_zeros (bytes : Bytes) (h : ∀ i < bytes.length, role i = .reserved) :
    settle role bytes = zeros bytes.length := by
  apply List.ext_getElem?
  intro i
  rw [getElem?_settle, zeros, List.getElem?_replicate]
  by_cases hi : i < bytes.length
  · rw [h i hi, List.getElem?_eq_getElem hi, if_pos hi]
    rfl
  · rw [List.getElem?_eq_none (by omega), if_neg hi]
    rfl

/-- Reserved bytes behind others become zeros. -/
lemma settle_append_reserved {front reserved : Bytes}
    (h : ∀ i, front.length ≤ i → role i = .reserved) :
    settle role (front ++ reserved) = settle role front ++ zeros reserved.length := by
  rw [settle_append, settle_eq_zeros reserved]
  intro i _
  exact h _ (Nat.le_add_right _ _)

/-! ### Rows that were read are written alike -/

lemma IsRow.split (xs ys : List (Nat × Nat)) {bytes : Bytes} (h : IsRow (xs ++ ys) bytes) :
    bytes = row xs ++ row ys ∧ IsRow xs (row xs) ∧ IsRow ys (row ys) := by
  obtain ⟨hfits, rfl⟩ := h
  refine ⟨by simp [row], ⟨?_, rfl⟩, ⟨?_, rfl⟩⟩
  · intro item hitem
    exact hfits item (List.mem_append_left ys hitem)
  · intro item hitem
    exact hfits item (List.mem_append_right xs hitem)

end Bytes

namespace Wire

lemma fields?_of_isRow {items : List (Nat × Nat)} {bytes : Bytes} (h : IsRow items bytes) :
    fields? (items.map fun item => (item.1, (item.2 : Int))) = some bytes := by
  obtain ⟨written, hwritten, hrow⟩ := exists_fields? items h.fits
  rw [hwritten, hrow.eq_row, h.eq_row]

/-! ### Parts of a packet that were read are written alike -/

/-- A mark is written as a byte of its own. -/
lemma settle_mark {role : Nat → ByteRole} {mark : Nat} {bytes : Bytes} (h : IsRow [(1, mark)] bytes)
    (hmark : role 0 = .mark) : settle role bytes = [if mark ≠ 0 then 1 else 0] := by
  have hlt : mark < 256 := h.fits (1, mark) (by simp)
  have hbytes : bytes = [UInt8.ofNat mark] := h.eq_row
  have hzero : UInt8.ofNat mark = 0 ↔ mark = 0 := by
    rw [← UInt8.toNat_inj, UInt8.toNat_ofNat', UInt8.toNat_zero]
    omega
  rw [hbytes, settle, List.mapIdx_cons, hmark, ByteRole.settle]
  by_cases hmark : mark = 0
  · rw [if_pos (hzero.mpr hmark), if_neg (not_not.mpr hmark)]
    rfl
  · rw [if_neg (mt hzero.mp hmark), if_pos hmark]
    rfl

/-- The record that bytes spell is written as these bytes, settled. -/
lemma InfoForm.bytes?_eq {kind : InfoKind} {bytes : Bytes} {info : Info}
    (h : InfoForm kind bytes info) : info.bytes? = some (settle kind.role bytes) := by
  cases h with
  | @echo front reserved id seq hfront hreserved =>
    have hlength : front.length = 10 := hfront.length
    have hrow := fields?_of_isRow hfront
    have hwritten : fields? [(8, (id : Int)), (2, (seq : Int))] = some front := hrow
    have hsettled : settle InfoKind.echo.role (front ++ reserved) = front ++ zeros 6 := by
      rw [settle_append_reserved, settle_eq_self front, hreserved]
      · intro i hi
        exact if_pos (by omega)
      · intro i hi
        exact if_neg (by omega)
    rw [Info.bytes?, hwritten, hsettled]
    rfl
  | @traceroute front reserved ia ifId hopOff ingress hfront hreserved =>
    obtain ⟨rfl, hnumbers, hside⟩ :=
      IsRow.split [(8, ia), (8, ifId), (1, hopOff)] [(1, ingress)] hfront
    have hrow := fields?_of_isRow hnumbers
    generalize row [(8, ia), (8, ifId), (1, hopOff)] = numbers at *
    generalize row [(1, ingress)] = side at *
    have hlength : numbers.length = 17 := hnumbers.length
    have hone : side.length = 1 := hside.length
    have hwritten : fields? [(8, (ia : Int)), (8, (ifId : Int)), (1, (hopOff : Int))] =
        some numbers := hrow
    have hsettled : settle InfoKind.traceroute.role (numbers ++ side ++ reserved) =
        numbers ++ [if ingress ≠ 0 then 1 else 0] ++ zeros 6 := by
      rw [settle_append_reserved, settle_append, settle_eq_self numbers, settle_mark hside, hreserved]
      · rw [hlength]
        rfl
      · intro i hi
        exact if_pos (by omega)
      · intro i hi
        rw [List.length_append] at hi
        rw [InfoKind.role, if_neg (by omega), if_neg (by omega)]
    rw [Info.bytes?, IsdAs.toInt_ofInt, hwritten, hsettled]
    simp
  | @packetSize front reserved size mtu hfront hreserved =>
    have hlength : front.length = 4 := hfront.length
    have hrow := fields?_of_isRow hfront
    have hwritten : fields? [(2, (size : Int)), (2, (mtu : Int))] = some front := hrow
    have hsettled : settle InfoKind.packetSize.role (front ++ reserved) = front ++ zeros 4 := by
      rw [settle_append_reserved, settle_eq_self front, hreserved]
      · intro i hi
        exact if_pos (by omega)
      · intro i hi
        exact if_neg (by omega)
    rw [Info.bytes?, hwritten, hsettled]
    rfl

/-- The body of an SCMP message is written as it was read, settled. -/
lemma ScmpForm.bytes?_eq {scmpClass scmpType : Nat} {body : Bytes} {payload : Payload}
    (h : ScmpForm scmpClass scmpType body payload) :
    payload.bytes? = some (settle payload.role body) := by
  cases h with
  | @mk front reserved record lines protocol kind info hfront hreserved hkind hrecord hlines =>
    obtain ⟨rfl, -⟩ := hrecord.fits
    have hlength : front.length = 2 := hfront.length
    have hahead : (front ++ reserved).length = metaLength := by
      rw [List.length_append, hlength, hreserved, metaLength]
    have hrow := fields?_of_isRow hfront
    have hwritten : fields? [(1, (lines : Int)), (1, (protocol : Int))] = some front := hrow
    have hsettledRecord : settle (fun i => (Payload.scmp ⟨lines, protocol⟩ info).role (metaLength + i))
        record = settle info.kind.role record := by
      apply settle_congr
      intro i _
      rw [Payload.role, if_neg (by rw [metaLength]; omega), if_neg (by omega),
        Nat.add_sub_cancel_left]
    have hsettled : settle (Payload.scmp ⟨lines, protocol⟩ info).role (front ++ reserved ++ record) =
        front ++ zeros 6 ++ settle info.kind.role record := by
      rw [settle_append, hahead, hsettledRecord, settle_append,
        settle_eq_self front, settle_eq_zeros reserved, hreserved]
      · intro i hi
        rw [Payload.role, if_neg (by omega), if_pos (by rw [metaLength]; omega)]
      · intro i hi
        rw [Payload.role, if_pos (by omega)]
    rw [Payload.bytes?, hwritten, hrecord.bytes?_eq, hsettled]
    rfl

/-- A layer-4 header is written as it was read, and what follows it is settled. -/
lemma L4Form.bytes?_eq {protocol : Protocol} {segment : Bytes} {l4 : L4Header} {payload : Payload}
    (h : L4Form protocol segment l4 payload) :
    ∃ front body, segment = front ++ body ∧ front.length = l4Length ∧ l4.protocol = protocol ∧
      l4.bytes? (l4Length + body.length) = some front ∧
        payload.bytes? = some (settle payload.role body) := by
  cases h with
  | @scmp front body scmpClass scmpType length checksum payload hfront hlength hbody =>
    have hrow := fields?_of_isRow hfront
    rw [hlength] at hrow
    exact ⟨front, body, rfl, hfront.length, rfl, hrow, hbody.bytes?_eq⟩
  | @udp front body srcPort dstPort length checksum hfront hlength =>
    have hrow := fields?_of_isRow hfront
    rw [hlength] at hrow
    have hraw : settle (Payload.raw body).role body = body := settle_eq_self body fun _ _ => rfl
    exact ⟨front, body, rfl, hfront.length, rfl, hrow, by rw [hraw]; rfl⟩

lemma HostForm.eq_typeNumber {type : Nat} {bytes : Bytes} {host : Host}
    (h : HostForm type bytes host) : type = host.typeNumber := by
  cases h <;> rfl

/-- Only the payload of a packet has bytes to settle. -/
lemma settle_role_append {p : Packet} {front : Bytes} (h : front.length = p.payloadOffset)
    (body : Bytes) : settle p.role (front ++ body) = front ++ settle p.payload.role body := by
  rw [settle_append, settle_eq_self front, h]
  · congr 1
    apply settle_congr
    intro i _
    rw [Packet.role, if_neg (by omega), Nat.add_sub_cancel_left]
  · intro i hi
    rw [Packet.role, if_pos (by omega)]

/-- The bytes of a packet, part by part: each part is written as it was read, but for the payload,
which is settled. -/
lemma PacketForm.exists_parts {data : Bytes} {p : Packet} (h : PacketForm data p) :
    ∃ ias front body, data = p.commonHeader data.length ++ ias ++ p.dstHost.packed ++
        p.srcHost.packed ++ p.path ++ front ++ body ∧
      ias.length = iaPairLength ∧ front.length = l4Length ∧
      fields? [(8, p.dstIa.toInt), (8, p.srcIa.toInt)] = some ias ∧
      p.l4.bytes? (l4Length + body.length) = some front ∧
      p.payload.bytes? = some (settle p.payload.role body) := by
  obtain ⟨hwell, hsize⟩ := h.wellFormed
  have hmax : data.length ≤ maxPacketLength := hsize ▸ hwell.size_le
  have hpath : p.path.length ≤ data.length := by
    rw [hsize, Packet.size]
    omega
  have hcommon := isRow_commonHeader hmax hpath
  cases h with
  | @mk header ias dst src path segment protocol dstType srcType dstIa srcIa dstHost srcHost
      l4 payload hdata hheader hias hdst hsrc hsegment =>
    obtain ⟨front, body, rfl, hfront, rfl, hl4, hbody⟩ := hsegment.bytes?_eq
    have hrow := fields?_of_isRow hias
    rw [hdst.eq_typeNumber, hsrc.eq_typeNumber] at hheader
    refine ⟨ias, front, body, ?_, hias.length, hfront, ?_, hl4, hbody⟩
    · rw [hcommon.eq_row, ← hheader.eq_row, ← hdst.eq_packed, ← hsrc.eq_packed, hdata]
      simp only [List.append_assoc]
    · rw [IsdAs.toInt_ofInt, IsdAs.toInt_ofInt]
      exact hrow

/-- A packet that was read is written as its bytes, settled. -/
lemma PacketForm.encode_eq {data : Bytes} {p : Packet} (h : PacketForm data p) :
    p.encode maxPacketLength = .ok (settle p.role data) := by
  have hmax : data.length ≤ maxPacketLength := h.wellFormed.2 ▸ h.wellFormed.1.size_le
  obtain ⟨ias, front, body, hdata, hias, hfront, hwritten, hl4, hbody⟩ := h.exists_parts
  have htail : p.tail? = some (ias ++ p.dstHost.packed ++ p.srcHost.packed ++ p.path ++ front ++
      settle p.payload.role body) := by
    simp [Packet.tail?, hbody, hl4, hwritten]
  have htotal : commonLength + (ias ++ p.dstHost.packed ++ p.srcHost.packed ++ p.path ++ front ++
      settle p.payload.role body).length = data.length := by
    have hlength := congrArg List.length hdata
    simp only [List.length_append, length_settle, length_commonHeader] at hlength ⊢
    omega
  have hsettled : settle p.role data = p.commonHeader data.length ++ (ias ++ p.dstHost.packed ++
      p.srcHost.packed ++ p.path ++ front ++ settle p.payload.role body) := by
    generalize hheader : p.commonHeader data.length = header at *
    have hlength : header.length = commonLength := by rw [← hheader, length_commonHeader]
    rw [hdata, settle_role_append]
    · simp only [List.append_assoc]
    · simp only [List.length_append, hlength, hias, hfront, Packet.payloadOffset]
  rw [Packet.encode, htail]
  dsimp only
  rw [htotal, if_neg (by omega), if_neg (by omega), hsettled]

end Wire

namespace Packet

/-- A datagram has no byte to settle. -/
lemma WellFormed.role_of_udp {p : Packet} (h : p.WellFormed) (hudp : p.l4.protocol = .udp)
    (i : Nat) : p.role i = .content := by
  obtain ⟨dstIa, srcIa, dstHost, srcHost, path, l4, payload⟩ := p
  have hgoes := h.goesWith
  match l4, payload, hgoes with
  | .udp header, .raw body, _ =>
    unfold role
    split <;> rfl
  | .scmp header, .scmp head info, _ => cases hudp

/-- Writing a packet that was read yields bytes as many as were read. They are the same bytes but
for those that are reserved, which become zeros, and the mark of an ingress side, which becomes one
if it is set; a datagram has no such bytes. They are read as the same packet, so writing settles them
once and for all. -/
theorem encode_of_decode {data : Bytes} {p : Packet} (h : decode data = .ok p) :
    ∃ bytes, p.encode maxPacketLength = .ok bytes ∧ bytes.length = data.length ∧
      (∀ i, bytes[i]? = data[i]?.map (p.role i).settle) ∧
      (p.l4.protocol = .udp → bytes = data) ∧
      decode bytes = .ok p ∧ ∀ q, decode bytes = .ok q → q.encode maxPacketLength = .ok bytes := by
  have hform := Wire.packetForm_of_decode h
  have hwell := hform.wellFormed.1
  have hencode := hform.encode_eq
  have hdecode : decode (settle p.role data) = .ok p := by
    obtain ⟨bytes, hwritten, hwrittenForm⟩ := Wire.exists_encode_of_wellFormed hwell
    have heq := hwritten maxPacketLength (by exact_mod_cast hwell.size_le)
    rw [hencode, Except.ok.injEq] at heq
    rw [heq]
    exact Wire.decode_of_packetForm hwrittenForm
  refine ⟨settle p.role data, hencode, length_settle _ _, getElem?_settle _ _, ?_, hdecode, ?_⟩
  · intro hudp
    apply settle_eq_self
    intro i _
    exact hwell.role_of_udp hudp i
  · intro q hq
    rw [hdecode, Except.ok.injEq] at hq
    rw [← hq, hencode]

/-- A traceroute reply whose reserved bytes are not zero, with a mark of 7, from an IPv4 host to an
IPv6 host. -/
def unsettledBytes : Bytes :=
  [0, 1, 0, 87, 2, 1, 0, 3] ++ [0, 1, 0, 0, 0, 0, 0, 2] ++ [0, 1, 0, 0, 0, 0, 0, 1] ++
    [32, 1, 13, 184, 0, 0, 0, 0, 0, 0, 0, 0, 0, 0, 0, 9] ++ [10, 0, 0, 4] ++ [5, 6, 7] ++
    [0, 0, 0, 4, 0, 40, 190, 239] ++ [3, 1, 9, 9, 9, 9, 9, 9] ++
    [0, 1, 0, 0, 0, 0, 0, 7, 0, 0, 0, 0, 0, 0, 0, 11, 2, 7, 8, 8, 8, 8, 8, 8]

def unsettledPacket : Packet where
  dstIa := ⟨1, 2⟩
  srcIa := ⟨1, 1⟩
  dstHost := .v6 #v[32, 1, 13, 184, 0, 0, 0, 0, 0, 0, 0, 0, 0, 0, 0, 9] none
  srcHost := .v4 #v[10, 0, 0, 4]
  path := [5, 6, 7]
  l4 := .scmp ⟨0, 4, 40, 48879⟩
  payload := .scmp ⟨3, 1⟩ (.traceroute ⟨1, 7⟩ 11 2 true)

theorem encode_of_decode_unsettled :
    decode unsettledBytes = .ok unsettledPacket ∧
      ∃ bytes, unsettledPacket.encode maxPacketLength = .ok bytes ∧ bytes.length = 87 ∧
        bytes[57]? = some 0 ∧ bytes[80]? = some 1 ∧ bytes[86]? = some 0 ∧
          decode bytes = .ok unsettledPacket := by
  have h : decode unsettledBytes = .ok unsettledPacket := by rfl
  obtain ⟨bytes, hencode, hlength, hbytes, -, hdecode, -⟩ := encode_of_decode h
  refine ⟨h, bytes, hencode, hlength, ?_, ?_, ?_, hdecode⟩
  · rw [hbytes]
    rfl
  · rw [hbytes]
    rfl
  · rw [hbytes]
    rfl

end Packet

end ScionEcho
