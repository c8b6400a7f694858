import ScionEcho.Packet.Decode
import ScionEcho.Proofs.Fallible
import ScionEcho.Proofs.Wire.Row

/-!
# The grammar of packets

Which bytes are a packet, and what they say, as relations between bytes and values: one rule for
each way in which a part of a packet can be spelled. The rules say nothing about reading or
writing. Reading accepts exactly what they describe, and the lemmas of this module show it reader
by reader.
-/

namespace ScionEcho.Wire

open Bytes

/-! ### The rules -/

/-- The bytes of a host under the number of its address type. A zone is never on the wire. -/
inductive HostForm : Nat → Bytes → Host → Prop
  | v4 (octets : Vector UInt8 4) : HostForm 1 octets.toList (.v4 octets)
  | v6 (octets : Vector UInt8 16) : HostForm 2 octets.toList (.v6 octets none)

/-- The bytes of an SCMP record of the given kind. Its reserved bytes are arbitrary. -/
inductive InfoForm : InfoKind → Bytes → Info → Prop
  | echo {front reserved : Bytes} {id seq : Nat}
      (hfront : IsRow [(8, id), (2, seq)] front) (hreserved : reserved.length = 6) :
      InfoForm .echo (front ++ reserved) (.echo id seq)
  | traceroute {front reserved : Bytes} {ia ifId hopOff ingress : Nat}
      (hfront : IsRow [(8, ia), (8, ifId), (1, hopOff), (1, ingress)] front)
      (hreserved : reserved.length = 6) :
      InfoForm .traceroute (front ++ reserved)
        (.traceroute (.ofInt ia) ifId hopOff (ingress ≠ 0))
  | packetSize {front reserved : Bytes} {size mtu : Nat}
      (hfront : IsRow [(2, size), (2, mtu)] front) (hreserved : reserved.length = 4) :
      InfoForm .packetSize (front ++ reserved) (.packetSize size mtu)

/-- The body of an SCMP message of the given class and type: its record, behind the length of the
record in lines and six reserved bytes. -/
inductive ScmpForm (scmpClass scmpType : Nat) : Bytes → Payload → Prop
  | mk {front reserved record : Bytes} {lines protocol : Nat} {kind : InfoKind} {info : Info}
      (hfront : IsRow [(1, lines), (1, protocol)] front) (hreserved : reserved.length = 6)
      (hkind : infoKind? scmpClass scmpType = some kind) (hrecord : InfoForm kind record info)
      (hlines : record.length = lines * lineLength) :
      ScmpForm scmpClass scmpType (front ++ reserved ++ record) (.scmp ⟨lines, protocol⟩ info)

/-- A layer-4 header and what follows it. The header states the length of both. -/
inductive L4Form : Protocol → Bytes → L4Header → Payload → Prop
  | scmp {front body : Bytes} {scmpClass scmpType length checksum : Nat} {payload : Payload}
      (hfront : IsRow [(2, scmpClass), (2, scmpType), (2, length), (2, checksum)] front)
      (hlength : length = l4Length + body.length) (hbody : ScmpForm scmpClass scmpType body payload) :
      L4Form .scmp (front ++ body) (.scmp ⟨scmpClass, scmpType, length, checksum⟩) payload
  | udp {front body : Bytes} {srcPort dstPort length checksum : Nat}
      (hfront : IsRow [(2, srcPort), (2, dstPort), (2, length), (2, checksum)] front)
      (hlength : length = l4Length + body.length) :
      L4Form .udp (front ++ body) (.udp ⟨srcPort, dstPort, length, checksum⟩) (.raw body)

/-- A whole packet. The common header states the version 0, the protocol, the length of the packet,
the address types of both hosts and the length of the path. -/
inductive PacketForm : Bytes → Packet → Prop
  | mk {data header ias dst src path segment : Bytes} {protocol : Protocol}
      {dstType srcType dstIa srcIa : Nat} {dstHost srcHost : Host} {l4 : L4Header}
      {payload : Payload}
      (hdata : data = header ++ ias ++ dst ++ src ++ path ++ segment)
      (hheader : IsRow [(1, 0), (1, protocol.number), (2, data.length), (1, dstType),
        (1, srcType), (2, path.length)] header)
      (hias : IsRow [(8, dstIa), (8, srcIa)] ias)
      (hdst : HostForm dstType dst dstHost) (hsrc : HostForm srcType src srcHost)
      (hsegment : L4Form protocol segment l4 payload) :
      PacketForm data
        { dstIa := .ofInt dstIa, srcIa := .ofInt srcIa, dstHost, srcHost, path, l4, payload }

/-! ### Hosts -/

lemma vectorOfList?_eq_some_iff {α : Type} {n : Nat} {xs : List α} {v : Vector α n} :
    vectorOfList? n xs = some v ↔ xs = v.toList := by
  unfold vectorOfList?
  constructor
  · intro h
    split at h
    · cases h
      rfl
    · cases h
  · rintro rfl
    rw [dif_pos v.length_toList]
    rfl

lemma hostLength?_eq_some_iff {type length : Nat} :
    hostLength? type = some length ↔ type = 1 ∧ length = 4 ∨ type = 2 ∧ length = 16 := by
  unfold hostLength?
  split <;> simp_all [eq_comm]

lemma HostForm.hostLength? {type : Nat} {bytes : Bytes} {host : Host}
    (h : HostForm type bytes host) : hostLength? type = some bytes.length := by
  cases h <;> simp [ScionEcho.hostLength?]

/-- Bytes of the length that a type has spell exactly one host. -/
lemma ofBytes?_eq_some_iff {type : Nat} {bytes : Bytes} {host : Host}
    (h : hostLength? type = some bytes.length) :
    Host.ofBytes? bytes = some host ↔ HostForm type bytes host := by
  unfold Host.ofBytes?
  constructor
  · intro hhost
    rcases hostLength?_eq_some_iff.mp h with ⟨rfl, hlength⟩ | ⟨rfl, hlength⟩
    · split at hhost
      · next octets hoctets =>
        cases hhost
        rw [vectorOfList?_eq_some_iff.mp hoctets]
        exact .v4 octets
      · next hnone => simp [vectorOfList?, hlength] at hnone
    · split at hhost
      · next octets hoctets => simp [vectorOfList?, hlength] at hoctets
      · obtain ⟨octets, hoctets, rfl⟩ := Option.map_eq_some_iff.mp hhost
        rw [vectorOfList?_eq_some_iff.mp hoctets]
        exact .v6 octets
  · intro hform
    cases hform with
    | v4 octets => simp [vectorOfList?_eq_some_iff.mpr rfl]
    | v6 octets =>
      have hother : vectorOfList? 4 octets.toList = none := by simp [vectorOfList?]
      rw [hother, vectorOfList?_eq_some_iff.mpr rfl]
      rfl

/-- No bytes of the length that a type has are refused as a host. -/
lemma ofBytes?_ne_none {type : Nat} {bytes : Bytes}
    (h : hostLength? type = some bytes.length) : Host.ofBytes? bytes ≠ none := by
  rcases hostLength?_eq_some_iff.mp h with ⟨_, hlength⟩ | ⟨_, hlength⟩ <;>
    simp [Host.ofBytes?, vectorOfList?, hlength]

lemma readHost_eq_ok_iff {type length : Nat} (htype : hostLength? type = some length)
    {bytes rest : Bytes} {host : Host} :
    readHost length bytes = .ok (host, rest) ↔
      ∃ front, HostForm type front host ∧ bytes = front ++ rest := by
  unfold readHost
  constructor
  · intro h
    split at h
    · cases h
    · next hlong =>
      have hfront : (bytes.take length).length = length := by
        rw [List.length_take]
        omega
      split at h
      · next found hfound =>
        cases h
        refine ⟨bytes.take length, ?_, (List.take_append_drop length bytes).symm⟩
        exact (ofBytes?_eq_some_iff (by rw [hfront, htype])).mp hfound
      · cases h
  · rintro ⟨front, hform, rfl⟩
    have hlength : front.length = length := by
      have := hform.hostLength?
      rw [htype] at this
      exact (Option.some.inj this).symm
    rw [if_neg (by rw [List.length_append]; omega), List.take_left' hlength,
      List.drop_left' hlength, (ofBytes?_eq_some_iff hform.hostLength?).mpr hform]

/-- A host that was written is read back, whatever follows. -/
lemma HostForm.readHost {type : Nat} {bytes : Bytes} {host : Host}
    (h : HostForm type bytes host) (rest : Bytes) :
    readHost bytes.length (bytes ++ rest) = .ok (host, rest) :=
  (readHost_eq_ok_iff h.hostLength?).mpr ⟨bytes, h, rfl⟩

/-! ### Records and SCMP bodies -/

/-- The bytes of a record are its fields and the reserved bytes behind them. -/
lemma infoForm_iff {kind : InfoKind} {bytes : Bytes} {info : Info} :
    InfoForm kind bytes info ↔ bytes.length = kind.size ∧ info = readInfo bytes kind := by
  constructor
  · intro h
    cases h with
    | @echo front reserved id seq hfront hreserved =>
      have hread := hfront.readRow_eq reserved
      simp [readRow] at hread
      refine ⟨by simp [hfront.length, rowLength, hreserved, InfoKind.size], ?_⟩
      simp [readInfo, hread]
    | @traceroute front reserved ia ifId hopOff ingress hfront hreserved =>
      have hread := hfront.readRow_eq reserved
      simp [readRow] at hread
      refine ⟨by simp [hfront.length, rowLength, hreserved, InfoKind.size], ?_⟩
      simp [readInfo, hread]
    | @packetSize front reserved size mtu hfront hreserved =>
      have hread := hfront.readRow_eq reserved
      simp [readRow] at hread
      refine ⟨by simp [hfront.length, rowLength, hreserved, InfoKind.size], ?_⟩
      simp [readInfo, hread]
  · rintro ⟨hlength, rfl⟩
    cases kind with
    | echo =>
      rw [InfoKind.size] at hlength
      have hrow := isRow_readRow bytes 0 [8, 2] (by simp [hlength])
      have hreserved : (bytes.drop 10).length = 6 := by simp [hlength]
      simpa [readInfo] using InfoForm.echo hrow hreserved
    | traceroute =>
      rw [InfoKind.size] at hlength
      have hrow := isRow_readRow bytes 0 [8, 8, 1, 1] (by simp [hlength])
      have hreserved : (bytes.drop 18).length = 6 := by simp [hlength]
      simpa [readInfo] using InfoForm.traceroute hrow hreserved
    | packetSize =>
      rw [InfoKind.size] at hlength
      have hrow := isRow_readRow bytes 0 [2, 2] (by simp [hlength])
      have hreserved : (bytes.drop 4).length = 4 := by simp [hlength]
      simpa [readInfo] using InfoForm.packetSize hrow hreserved

lemma readScmpPayload_eq_ok_iff {scmpClass scmpType : Nat} {body : Bytes} {payload : Payload} :
    readScmpPayload scmpClass scmpType body = .ok payload ↔
      ScmpForm scmpClass scmpType body payload := by
  unfold readScmpPayload
  constructor
  · intro h
    split at h
    · cases h
    next hlong =>
    split at h
    · cases h
    next kind hkind =>
    dsimp only at h
    split_ifs at h with hbody hrecord
    cases h
    rw [metaLength] at hlong
    have hfront := isRow_readRow body 0 [1, 1] (by simp; omega)
    have hinfo : InfoForm kind (body.drop metaLength) (readInfo (body.drop metaLength) kind) :=
      infoForm_iff.mpr ⟨not_not.mp hrecord, rfl⟩
    have hreserved : ((body.drop 2).take 6).length = 6 := by simp; omega
    have hlines : (body.drop metaLength).length = field body 0 1 * lineLength := by
      rw [List.length_drop, not_not.mp hbody, Nat.add_sub_cancel_left]
    have hform := ScmpForm.mk hfront hreserved hkind hinfo hlines
    have hbytes : body.take 2 ++ (body.drop 2).take 6 ++ body.drop metaLength = body := by
      rw [← List.take_add, metaLength, List.take_append_drop]
    simpa [hbytes] using hform
  · intro h
    cases h with
    | @mk front reserved record lines protocol kind info hfront hreserved hkind hrecord hlines =>
      obtain ⟨hsize, rfl⟩ := infoForm_iff.mp hrecord
      have hread := hfront.readRow_eq (reserved ++ record)
      simp [readRow] at hread
      have hdrop : (front ++ reserved ++ record).drop metaLength = record :=
        List.drop_left' (by simp [hfront.length, rowLength, hreserved, metaLength])
      have hlength : (front ++ reserved ++ record).length = metaLength + lines * lineLength := by
        simp [hfront.length, rowLength, hreserved, hlines, metaLength]
        omega
      rw [if_neg (by omega), hkind]
      dsimp only
      rw [List.append_assoc] at hlength hdrop ⊢
      rw [hread.1, hread.2, hdrop, if_neg (by omega), if_neg (by omega)]

/-! ### Layer 4 -/

/-- The fields of a layer-4 header are read back from its row. -/
lemma l4Fields_of_isRow {front : Bytes} {a b c d : Nat}
    (h : IsRow [(2, a), (2, b), (2, c), (2, d)] front) (rest : Bytes) :
    field (front ++ rest) 0 2 = a ∧ field (front ++ rest) 2 2 = b ∧
      field (front ++ rest) 4 2 = c ∧ field (front ++ rest) 6 2 = d ∧
      (front ++ rest).drop l4Length = rest := by
  have hread := h.readRow_eq rest
  simp [readRow] at hread
  exact ⟨hread.1, hread.2.1, hread.2.2.1, hread.2.2.2,
    List.drop_left' (by simp [h.length, rowLength, l4Length])⟩

lemma readL4_eq_ok_iff {number : Nat} {bytes : Bytes} {l4 : L4Header} {payload : Payload} :
    readL4 number bytes = .ok (l4, payload) ↔
      ∃ protocol : Protocol, number = protocol.number ∧ L4Form protocol bytes l4 payload := by
  unfold readL4
  constructor
  · intro h
    split at h
    · cases h
    next hlong =>
    have hrow : IsRow [(2, field bytes 0 2), (2, field bytes 2 2), (2, field bytes 4 2),
        (2, field bytes 6 2)] (bytes.take l4Length) := by
      have := isRow_readRow bytes 0 [2, 2, 2, 2] (by rw [l4Length] at hlong; simp; omega)
      simpa [readRow, l4Length] using this
    have hbytes : bytes.take l4Length ++ bytes.drop l4Length = bytes :=
      List.take_append_drop _ _
    dsimp only at h
    split_ifs at h with hlength hscmp hudp
    · have hbody : field bytes 4 2 = l4Length + (bytes.drop l4Length).length := by
        rw [not_not.mp hlength, List.length_drop]
        omega
      cases hpayload : readScmpPayload (field bytes 0 2) (field bytes 2 2)
          (bytes.drop l4Length) with
      | error cause => rw [hpayload] at h; cases h
      | ok found =>
        rw [hpayload] at h
        cases h
        have hform := L4Form.scmp hrow hbody (readScmpPayload_eq_ok_iff.mp hpayload)
        exact ⟨.scmp, hscmp, by simpa [hbytes] using hform⟩
    · have hbody : field bytes 4 2 = l4Length + (bytes.drop l4Length).length := by
        rw [not_not.mp hlength, List.length_drop]
        omega
      cases h
      exact ⟨.udp, hudp, by simpa [hbytes] using L4Form.udp hrow hbody⟩
  · rintro ⟨protocol, rfl, h⟩
    cases h with
    | @scmp front body scmpClass scmpType length checksum payload hfront hlength hbody =>
      obtain ⟨hfirst, hsecond, hthird, hfourth, hdrop⟩ := l4Fields_of_isRow hfront body
      have htotal : (front ++ body).length = length := by
        simp [hfront.length, rowLength, hlength, l4Length]
      rw [if_neg (by omega)]
      dsimp only
      rw [hfirst, hsecond, hthird, hfourth, hdrop, if_neg (by omega), if_pos rfl,
        readScmpPayload_eq_ok_iff.mpr hbody]
      rfl
    | @udp front body srcPort dstPort length checksum hfront hlength =>
      obtain ⟨hfirst, hsecond, hthird, hfourth, hdrop⟩ := l4Fields_of_isRow hfront body
      have htotal : (front ++ body).length = length := by
        simp [hfront.length, rowLength, hlength, l4Length]
      rw [if_neg (by omega)]
      dsimp only
      rw [hfirst, hsecond, hthird, hfourth, hdrop, if_neg (by omega), if_neg (by decide),
        if_pos rfl]

/-! ### Packets -/

/-- The fields of the common header and the addresses are read back from their rows. -/
lemma headerFields_of_isRow {header ias : Bytes} {a b c d e f x y : Nat}
    (h : IsRow [(1, a), (1, b), (2, c), (1, d), (1, e), (2, f)] header)
    (hias : IsRow [(8, x), (8, y)] ias) (rest : Bytes) :
    readRow (header ++ ias ++ rest) 0 [1, 1, 2, 1, 1, 2, 8, 8] =
      [(1, a), (1, b), (2, c), (1, d), (1, e), (2, f), (8, x), (8, y)] ∧
      (header ++ ias ++ rest).drop (commonLength + iaPairLength) = rest := by
  refine ⟨(h.append hias).readRow_eq rest, ?_⟩
  exact List.drop_left' (by simp [h.length, hias.length, rowLength, commonLength, iaPairLength])

lemma L4Form.l4Length_le {protocol : Protocol} {bytes : Bytes} {l4 : L4Header}
    {payload : Payload} (h : L4Form protocol bytes l4 payload) : l4Length ≤ bytes.length := by
  cases h with
  | scmp hfront => simp [hfront.length, rowLength, l4Length]
  | udp hfront => simp [hfront.length, rowLength, l4Length]

lemma packetForm_of_decode {data : Bytes} {p : Packet} (h : Packet.decode data = .ok p) :
    PacketForm data p := by
  unfold Packet.decode at h
  split at h
  · cases h
  next hlong =>
  dsimp only at h
  split_ifs at h with hversion htotal
  split at h
  next dstLength srcLength hdstType hsrcType =>
    obtain ⟨⟨dstHost, rest₁⟩, hdst, h⟩ := bind_eq_ok_iff.mp h
    obtain ⟨⟨srcHost, rest₂⟩, hsrc, h⟩ := bind_eq_ok_iff.mp h
    obtain ⟨⟨l4, payload⟩, hl4, h⟩ := bind_eq_ok_iff.mp h
    cases h
    dsimp only at hsrc hl4 ⊢
    obtain ⟨dst, hdstForm, hdstBytes⟩ := (readHost_eq_ok_iff hdstType).mp hdst
    obtain ⟨src, hsrcForm, rfl⟩ := (readHost_eq_ok_iff hsrcType).mp hsrc
    obtain ⟨protocol, hprotocol, hsegment⟩ := readL4_eq_ok_iff.mp hl4
    rw [commonLength, iaPairLength] at hlong hdstBytes
    have hias : IsRow [(8, field data 8 8), (8, field data 16 8)] ((data.drop 8).take 16) :=
      isRow_readRow data 8 [8, 8] (by simp; omega)
    -- the segment is not empty, so the path was not cut short by the end of the bytes
    have hpath : (rest₂.take (field data 6 2)).length = field data 6 2 := by
      have := hsegment.l4Length_le
      rw [List.length_drop, l4Length] at this
      rw [List.length_take]
      omega
    have hheader : IsRow [(1, 0), (1, protocol.number), (2, data.length), (1, field data 4 1),
        (1, field data 5 1), (2, (rest₂.take (field data 6 2)).length)] (data.take 8) := by
      have hread := isRow_readRow data 0 [1, 1, 2, 1, 1, 2] (by simp; omega)
      rw [hpath, ← not_not.mp htotal, ← hprotocol, ← not_not.mp hversion]
      simpa [readRow] using hread
    refine .mk ?_ hheader hias hdstForm hsrcForm hsegment
    calc data = data.take 8 ++ (data.drop 8).take 16 ++ data.drop (8 + 16) := by
          rw [← List.take_add, List.take_append_drop]
      _ = _ := by
          rw [hdstBytes]
          simp only [List.append_assoc, List.take_append_drop]
  · cases h

lemma decode_of_packetForm {data : Bytes} {p : Packet} (h : PacketForm data p) :
    Packet.decode data = .ok p := by
  cases h with
  | @mk header ias dst src path segment protocol dstType srcType dstIa srcIa dstHost srcHost
      l4 payload hdata hheader hias hdst hsrc hsegment =>
    have hbytes : data = header ++ ias ++ (dst ++ (src ++ (path ++ segment))) := by
      simp only [hdata, List.append_assoc]
    have hlong : ¬ data.length < commonLength + iaPairLength := by
      rw [hbytes]
      simp [hheader.length, hias.length, rowLength, commonLength, iaPairLength]
      omega
    obtain ⟨hfields, hdrop⟩ :=
      headerFields_of_isRow hheader hias (dst ++ (src ++ (path ++ segment)))
    rw [← hbytes] at hfields hdrop
    simp [readRow] at hfields
    obtain ⟨hversion, hprotocol, htotal, hdstType, hsrcType, hpath, hdstIa, hsrcIa⟩ := hfields
    unfold Packet.decode
    rw [if_neg hlong]
    dsimp only
    rw [hversion, hprotocol, htotal, hdstType, hsrcType, hpath, hdstIa, hsrcIa, hdrop,
      if_neg (by simp), if_neg (by simp), hdst.hostLength?, hsrc.hostLength?]
    dsimp only
    rw [hdst.readHost, ok_bind, hsrc.readHost, ok_bind]
    dsimp only
    rw [List.drop_left, readL4_eq_ok_iff.mpr ⟨protocol, rfl, hsegment⟩, ok_bind, List.take_left]
    rfl

/-- Reading accepts exactly the bytes that the grammar describes, and finds what they say. -/
lemma decode_eq_ok_iff {data : Bytes} {p : Packet} :
    Packet.decode data = .ok p ↔ PacketForm data p :=
  ⟨packetForm_of_decode, decode_of_packetForm⟩

end ScionEcho.Wire
