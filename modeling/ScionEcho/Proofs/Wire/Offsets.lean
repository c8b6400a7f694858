import ScionEcho.Proofs.Wire.Grammar

/-!
# Reading by offsets

A second reader of packets, which walks over the bytes by offsets and takes nothing for granted:
every step that needs bytes to be there, a type to be in a table or a host or record to have its
length checks it, and stops with a fault of its own if it is not so. The lengths on which the
offsets depend come from the bytes themselves and may point anywhere.

Both readers agree on all bytes. Hence no such fault ever arises, and what is not in the grammar
is refused as malformed and in no other way.
-/

namespace ScionEcho.Wire

open Bytes

/-- What stops a reader. -/
inductive Fault
  /-- The bytes are not a packet, which a check has found. -/
  | malformed (cause : DecodeError)
  /-- A header is read beyond the end of the bytes. -/
  | beyondEnd
  /-- An address type is looked up that is not in the table. -/
  | noSuchType (type : Nat)
  /-- The bytes taken for a host are neither 4 nor 16. -/
  | noSuchHost (length : Nat)
  /-- The bytes taken for a record are not as many as its kind has. -/
  | recordLength (length : Nat)
  deriving DecidableEq, Repr

/-- The `size` bytes from `offset` on, all of which have to be there. -/
def unpackFrom (bytes : Bytes) (offset size : Nat) : Except Fault Bytes :=
  if offset + size ≤ bytes.length then .ok ((bytes.drop offset).take size) else .error .beyondEnd

/-- Reads a host of the given type at `offset`: the host, and the offset behind it. -/
def hostAt (data : Bytes) (offset type : Nat) : Except Fault (Host × Nat) :=
  match hostLength? type with
  | none => .error (.noSuchType type)
  | some length =>
    if data.length < offset + length then .error (.malformed .truncatedHost)
    else
      match Host.ofBytes? ((data.drop offset).take length) with
      | none => .error (.noSuchHost length)
      | some host => .ok (host, offset + length)

/-- Reads a record, which has to have the length of its kind. -/
def unpackInfo (bytes : Bytes) (kind : InfoKind) : Except Fault Info :=
  if bytes.length = kind.size then .ok (readInfo bytes kind)
  else .error (.recordLength bytes.length)

/-- Reads the body of an SCMP message. -/
def scmpBody (scmpClass scmpType : Nat) (body : Bytes) : Except Fault Payload :=
  if body.length < metaLength then .error (.malformed .truncatedMeta)
  else do
    let front ← unpackFrom body 0 metaLength
    let lines := field front 0 1
    match infoKind? scmpClass scmpType with
    | none => .error (.malformed (.unknownScmp scmpClass scmpType))
    | some kind =>
      let needed := metaLength + lines * lineLength
      if body.length ≠ needed then
        .error (.malformed (.bodyLength body.length lines needed))
      else
        let record := body.drop metaLength
        if record.length ≠ kind.size then
          .error (.malformed (.infoLength record.length kind))
        else do
          let info ← unpackInfo record kind
          return .scmp ⟨lines, field front 1 1⟩ info

/-- Reads a layer-4 header at `offset`, which may lie beyond the end, and what follows it. -/
def l4At (number : Nat) (data : Bytes) (offset : Nat) : Except Fault (L4Header × Payload) :=
  if (data.length - offset : Int) < l4Length then .error (.malformed .truncatedL4)
  else do
    let front ← unpackFrom data offset l4Length
    let first := field front 0 2
    let second := field front 2 2
    let length := field front 4 2
    let checksum := field front 6 2
    if (length : Int) ≠ data.length - offset then
      .error (.malformed (.l4Length length (data.length - offset)))
    else
      let body := data.drop (offset + l4Length)
      if number = Protocol.scmp.number then do
        let payload ← scmpBody first second body
        return (.scmp ⟨first, second, length, checksum⟩, payload)
      else if number = Protocol.udp.number then
        .ok (.udp ⟨first, second, length, checksum⟩, .raw body)
      else .error (.malformed (.protocol number))

/-- Reads a packet. -/
def packetAt (data : Bytes) : Except Fault Packet :=
  if data.length < commonLength + iaPairLength then .error (.malformed (.tooShort data.length))
  else do
    let header ← unpackFrom data 0 commonLength
    let version := field header 0 1
    let total := field header 2 2
    let dstType := field header 4 1
    let srcType := field header 5 1
    let pathLength := field header 6 2
    if version ≠ 0 then .error (.malformed (.version version))
    else if total ≠ data.length then .error (.malformed (.totalLength total data.length))
    else if (hostLength? dstType).isNone || (hostLength? srcType).isNone then
      .error (.malformed (.hostTypes dstType srcType))
    else do
      let ias ← unpackFrom data commonLength iaPairLength
      let (dstHost, offset) ← hostAt data (commonLength + iaPairLength) dstType
      let (srcHost, offset) ← hostAt data offset srcType
      let path := (data.drop offset).take pathLength
      let (l4, payload) ← l4At (field header 1 1) data (offset + pathLength)
      return {
        dstIa := .ofInt (field ias 0 8)
        srcIa := .ofInt (field ias 8 8)
        dstHost, srcHost, path, l4, payload }

/-! ### The readers agree -/

lemma unpackFrom_eq_ok {bytes : Bytes} {offset size : Nat} (h : offset + size ≤ bytes.length) :
    unpackFrom bytes offset size = .ok ((bytes.drop offset).take size) :=
  if_pos h

lemma field_take_drop {bytes : Bytes} {start size offset width : Nat}
    (h : offset + width ≤ size) :
    field ((bytes.drop start).take size) offset width = field bytes (start + offset) width := by
  have hwidth : min width (size - offset) = width := by omega
  rw [field, field, List.drop_take, List.take_take, hwidth, List.drop_drop]

lemma hostAt_eq {data : Bytes} {offset type length : Nat}
    (htype : hostLength? type = some length) :
    hostAt data offset type =
      ((readHost length (data.drop offset)).map fun found => (found.1, offset + length)).mapError
        .malformed := by
  unfold hostAt readHost
  rw [htype]
  dsimp only
  rw [List.length_drop]
  rcases Nat.lt_or_ge data.length (offset + length) with hshort | hlong
  · rw [if_pos hshort]
    rcases Nat.eq_zero_or_pos length with rfl | hpos
    · simp [hostLength?_eq_some_iff] at htype
    · rw [if_pos (by omega)]
      rfl
  · have hfront : ((data.drop offset).take length).length = length := by
      rw [List.length_take, List.length_drop]
      omega
    rw [if_neg (by omega), if_neg (by omega)]
    cases hhost : Host.ofBytes? ((data.drop offset).take length) with
    | none => exact absurd hhost (ofBytes?_ne_none (by rw [hfront, htype]))
    | some host => rfl

lemma unpackInfo_eq_ok {bytes : Bytes} {kind : InfoKind} (h : bytes.length = kind.size) :
    unpackInfo bytes kind = .ok (readInfo bytes kind) :=
  if_pos h

lemma scmpBody_eq (scmpClass scmpType : Nat) (body : Bytes) :
    scmpBody scmpClass scmpType body =
      (readScmpPayload scmpClass scmpType body).mapError .malformed := by
  unfold scmpBody readScmpPayload
  split_ifs with hshort
  · rfl
  · rw [unpackFrom_eq_ok (by omega)]
    change (match infoKind? scmpClass scmpType with
      | none => _
      | some kind => _) = _
    cases infoKind? scmpClass scmpType with
    | none => rfl
    | some kind =>
      dsimp only
      rw [field_take_drop (by decide), field_take_drop (by decide)]
      split_ifs with hbody hrecord
      · rfl
      · rfl
      · rw [unpackInfo_eq_ok (not_not.mp hrecord)]
        rfl

lemma l4At_eq (number : Nat) (data : Bytes) (offset : Nat) :
    l4At number data offset = (readL4 number (data.drop offset)).mapError .malformed := by
  unfold l4At readL4
  rw [List.length_drop]
  rcases Nat.lt_or_ge data.length (offset + l4Length) with hshort | hlong
  · rw [if_pos (by omega), if_pos (by rw [l4Length] at *; omega)]
    rfl
  · rw [if_neg (by omega), if_neg (by omega), unpackFrom_eq_ok hlong, ok_bind]
    dsimp only
    rw [field_take_drop (by decide), field_take_drop (by decide), field_take_drop (by decide),
      field_take_drop (by decide), field_drop, field_drop, field_drop, field_drop]
    have hcast : ((data.length : Int) - offset) = (data.length - offset : Nat) := by omega
    rw [hcast, List.drop_drop]
    simp only [ne_eq, Int.natCast_inj]
    split_ifs with hlength hscmp hudp
    · rw [scmpBody_eq, mapError_bind]
      rfl
    · rfl
    · rfl
    · rfl

lemma readHost_rest {length : Nat} {bytes rest : Bytes} {host : Host}
    (h : readHost length bytes = .ok (host, rest)) : rest = bytes.drop length := by
  unfold readHost at h
  split at h
  · cases h
  · split at h
    · cases h
      rfl
    · cases h

/-- Reading goes on alike behind a host, at its offset and with the bytes from there on. -/
lemma hostAt_bind_eq {α : Type} {data : Bytes} {offset type length : Nat}
    (htype : hostLength? type = some length) {f : Host × Nat → Except Fault α}
    {g : Host × Bytes → Except DecodeError α}
    (hfg : ∀ host, f (host, offset + length) =
      (g (host, data.drop (offset + length))).mapError .malformed) :
    hostAt data offset type >>= f =
      (readHost length (data.drop offset) >>= g).mapError .malformed := by
  rw [hostAt_eq htype]
  cases hread : readHost length (data.drop offset) with
  | error cause => rfl
  | ok found =>
    obtain ⟨host, rest⟩ := found
    obtain rfl := readHost_rest hread
    rw [List.drop_drop]
    exact hfg host

/-- The reader by offsets never stops with a fault of its own. -/
lemma packetAt_eq (data : Bytes) : packetAt data = (Packet.decode data).mapError .malformed := by
  unfold packetAt Packet.decode
  split_ifs with hshort
  · rfl
  rw [commonLength, iaPairLength] at *
  rw [unpackFrom_eq_ok (by omega), ok_bind, unpackFrom_eq_ok (by omega)]
  dsimp only
  rw [ok_bind]
  iterate 8 rw [field_take_drop (by decide)]
  simp only [Nat.zero_add, Nat.add_zero, Nat.reduceAdd]
  split_ifs with hversion htotal htypes
  · rfl
  · rfl
  · cases hdst : hostLength? (field data 4 1) with
    | none => rfl
    | some dstLength =>
      cases hsrc : hostLength? (field data 5 1) with
      | none => rfl
      | some srcLength => simp [hdst, hsrc] at htypes
  · simp only [Bool.or_eq_true, Option.isNone_iff_eq_none, not_or, ← ne_eq,
      Option.ne_none_iff_exists'] at htypes
    obtain ⟨⟨dstLength, hdst⟩, srcLength, hsrc⟩ := htypes
    rw [hdst, hsrc]
    dsimp only
    refine hostAt_bind_eq hdst fun dstHost => hostAt_bind_eq hsrc fun srcHost => ?_
    rw [mapError_bind, List.drop_drop, ← l4At_eq]
    rfl

/-- Reading accepts exactly the grammar, with the values that the grammar gives, and what is not
in the grammar is refused as malformed. The reader that checks its every step does the same. -/
theorem decode_exact (data : Bytes) :
    (∀ p, Packet.decode data = .ok p ↔ PacketForm data p) ∧
      packetAt data = (Packet.decode data).mapError .malformed ∧
      ((∃ p, PacketForm data p ∧ packetAt data = .ok p) ∨
        (∀ p, ¬ PacketForm data p) ∧ ∃ cause, packetAt data = .error (.malformed cause)) := by
  refine ⟨fun p => decode_eq_ok_iff, packetAt_eq data, ?_⟩
  rw [packetAt_eq]
  cases h : Packet.decode data with
  | ok p => exact .inl ⟨p, decode_eq_ok_iff.mp h, rfl⟩
  | error cause =>
    refine .inr ⟨fun p hp => ?_, cause, rfl⟩
    rw [decode_eq_ok_iff.mpr hp] at h
    cases h

end ScionEcho.Wire
