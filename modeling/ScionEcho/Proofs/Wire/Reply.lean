import ScionEcho.Packet.Echo
import ScionEcho.Proofs.Probe.Attempt
import ScionEcho.Proofs.Wire.Grammar

/-!
# What is accepted as a reply

A reply that can be read is judged by what stands at certain bytes of it: the protocol in the
common header, the class and the type at the start of layer 4, and the id at the start of the
record. Where layer 4 starts depends on the address types of the two hosts and on the length of
the path. An attempt succeeds exactly when it receives an echo that carries its own id there.
-/

namespace ScionEcho.Wire

open Bytes

/-- The byte at which layer 4 starts, by what the common header states of the hosts and the
path. -/
def layer4Offset? (data : Bytes) : Option Nat := do
  let dstLength ← hostLength? (field data 4 1)
  let srcLength ← hostLength? (field data 5 1)
  return commonLength + iaPairLength + dstLength + srcLength + field data 6 2

/-- The kind of record in a message of the given class and type. -/
inductive RecordKind : (scmpClass scmpType : Nat) → InfoKind → Prop
  | echoRequest : RecordKind 0 1 .echo
  | echoReply : RecordKind 0 2 .echo
  | tracerouteRequest : RecordKind 0 3 .traceroute
  | tracerouteReply : RecordKind 0 4 .traceroute
  | badLength : RecordKind 2 5 .packetSize

/-- An echo by its protocol, and by the class and the type at the start of layer 4. -/
structure IsEchoAt (data : Bytes) (offset : Nat) : Prop where
  protocol : field data 1 1 = Protocol.scmp.number
  scmpClass : field data offset 2 = 0
  scmpType : field data (offset + 2) 2 = 1 ∨ field data (offset + 2) 2 = 2

/-- The id of an echo whose layer 4 starts at the given byte. It follows the layer-4 header and the
first line of the body. -/
def echoIdAt (data : Bytes) (offset : Nat) : Nat := field data (offset + l4Length + metaLength) 8

/-! ### Kinds of records -/

lemma infoKind?_eq_some_iff {scmpClass scmpType : Nat} {kind : InfoKind} :
    infoKind? scmpClass scmpType = some kind ↔ RecordKind scmpClass scmpType kind := by
  simp only [infoKind?, classGeneral, classCommonHeader, typeEchoRequest, typeEchoReply,
    typeTracerouteRequest, typeTracerouteReply, typeBadLength]
  norm_cast
  constructor
  · intro h
    split_ifs at h with hgeneral hecho htrace hbad
    · cases h
      subst hgeneral
      rcases hecho with rfl | rfl
      · exact .echoRequest
      · exact .echoReply
    · cases h
      subst hgeneral
      rcases htrace with rfl | rfl
      · exact .tracerouteRequest
      · exact .tracerouteReply
    · cases h
      obtain ⟨rfl, rfl⟩ := hbad
      exact .badLength
  · intro h
    cases h <;> rfl

lemma recordKind_echo_iff {scmpClass scmpType : Nat} :
    RecordKind scmpClass scmpType .echo ↔ scmpClass = 0 ∧ (scmpType = 1 ∨ scmpType = 2) := by
  constructor
  · intro h
    cases h <;> simp
  · rintro ⟨rfl, rfl | rfl⟩
    · exact .echoRequest
    · exact .echoReply

lemma RecordKind.unique {scmpClass scmpType : Nat} {kind kind' : InfoKind}
    (h : RecordKind scmpClass scmpType kind) (h' : RecordKind scmpClass scmpType kind') :
    kind = kind' := by
  rw [← infoKind?_eq_some_iff] at h h'
  rw [h, Option.some.injEq] at h'
  exact h'

/-! ### What stands at the bytes of a packet -/

/-- Layer 4 of a packet starts at the offset that its common header gives, and runs to the end. -/
lemma PacketForm.exists_segment {data : Bytes} {p : Packet} (h : PacketForm data p) :
    ∃ offset protocol segment, layer4Offset? data = some offset ∧
      field data 1 1 = protocol.number ∧ L4Form protocol segment p.l4 p.payload ∧
        data.length = offset + segment.length ∧
          ∀ place width, field data (offset + place) width = field segment place width := by
  cases h with
  | @mk header ias dst src path segment protocol dstType srcType dstIa srcIa dstHost srcHost l4
      payload hdata hheader hias hdst hsrc hsegment =>
    have hbytes : data = header ++ ias ++ (dst ++ (src ++ (path ++ segment))) := by
      simp only [hdata, List.append_assoc]
    have hfields := (headerFields_of_isRow hheader hias (dst ++ (src ++ (path ++ segment)))).1
    rw [← hbytes] at hfields
    simp [readRow] at hfields
    obtain ⟨-, hprotocol, -, hdstType, hsrcType, hpath, -, -⟩ := hfields
    have hfront : (header ++ ias ++ dst ++ src ++ path).length =
        commonLength + iaPairLength + dst.length + src.length + path.length := by
      simp [hheader.length, hias.length, rowLength, commonLength, iaPairLength]
      omega
    -- the lengths that the header states of the hosts and the path are those of their bytes
    refine ⟨(header ++ ias ++ dst ++ src ++ path).length, protocol, segment, ?_, hprotocol,
      hsegment, ?_, fun place width => ?_⟩
    · rw [hfront, layer4Offset?, hdstType, hsrcType, hpath, hdst.hostLength?, hsrc.hostLength?]
      rfl
    · rw [hdata, List.length_append]
    · rw [hdata, field_append_right]

/-- The class and the type of a message decide which record it carries, and the id of an echo
stands at the start of its record. -/
lemma L4Form.correlationId_scmp {segment : Bytes} {p : Packet}
    (h : L4Form .scmp segment p.l4 p.payload) :
    ∃ kind, RecordKind (field segment 0 2) (field segment 2 2) kind ∧
      segment.length = l4Length + metaLength + kind.size ∧
        p.correlationId =
          if kind = .echo then .ok (field segment (l4Length + metaLength) 8 : Nat)
          else .error (.info kind) := by
  obtain ⟨dstIa, srcIa, dstHost, srcHost, path, l4, payload⟩ := p
  cases h with
  | @scmp front body scmpClass scmpType length checksum payload hfront hlength hbody =>
    obtain ⟨hclass, htype, -, -, hdrop⟩ := l4Fields_of_isRow hfront body
    cases hbody with
    | @mk head reserved record lines protocol kind info hhead hreserved hkind hrecord hlines =>
      obtain ⟨hsize, rfl⟩ := infoForm_iff.mp hrecord
      have hmeta : (head ++ reserved).length = metaLength := by
        simp [hhead.length, rowLength, hreserved, metaLength]
      refine ⟨kind, ?_, ?_, ?_⟩
      · rwa [hclass, htype, ← infoKind?_eq_some_iff]
      · have hl4 : front.length = l4Length := hfront.length
        rw [List.length_append, List.length_append, hmeta, hl4, hsize, Nat.add_assoc]
      · rw [← field_drop, hdrop, ← Nat.add_zero metaLength, ← hmeta, field_append_right]
        cases kind <;> rfl

/-- The protocol decides first: nothing that follows a UDP header is looked at. -/
lemma PacketForm.correlationId_cases {data : Bytes} {p : Packet} (h : PacketForm data p) :
    ∃ offset, layer4Offset? data = some offset ∧ offset + l4Length ≤ data.length ∧
      (field data 1 1 = Protocol.udp.number ∧ p.correlationId = .error (.header .udp) ∨
        field data 1 1 = Protocol.scmp.number ∧
          ∃ kind, RecordKind (field data offset 2) (field data (offset + 2) 2) kind ∧
            data.length = offset + l4Length + metaLength + kind.size ∧
              p.correlationId =
                if kind = .echo then .ok (echoIdAt data offset : Nat)
                else .error (.info kind)) := by
  obtain ⟨offset, protocol, segment, hoffset, hprotocol, hsegment, hlength, hfields⟩ :=
    h.exists_segment
  refine ⟨offset, hoffset, ?_, ?_⟩
  · rw [hlength]
    exact Nat.add_le_add_left hsegment.l4Length_le offset
  cases protocol with
  | udp =>
    refine .inl ⟨hprotocol, ?_⟩
    obtain ⟨dstIa, srcIa, dstHost, srcHost, path, l4, payload⟩ := p
    cases hsegment
    rfl
  | scmp =>
    obtain ⟨kind, hkind, hsize, hresult⟩ := hsegment.correlationId_scmp
    have hstart : field data offset 2 = field segment 0 2 := hfields 0 2
    refine .inr ⟨hprotocol, kind, ?_, ?_, ?_⟩
    · rwa [hstart, hfields]
    · omega
    · rwa [echoIdAt, Nat.add_assoc, hfields]

/-! ### The verdict on what was read -/

section

variable {data : Bytes} {p : Packet} {offset : Nat}

/-- What is known of the packet once it is known where its layer 4 starts. -/
lemma correlationId_cases_at (h : Packet.decode data = .ok p)
    (hoffset : layer4Offset? data = some offset) :
    field data 1 1 = Protocol.udp.number ∧ p.correlationId = .error (.header .udp) ∨
      IsEchoAt data offset ∧ p.correlationId = .ok (echoIdAt data offset) ∧
        data.length = offset + l4Length + metaLength + InfoKind.echo.size ∨
      field data 1 1 = Protocol.scmp.number ∧ ¬ IsEchoAt data offset ∧
        ∃ kind, RecordKind (field data offset 2) (field data (offset + 2) 2) kind ∧
          p.correlationId = .error (.info kind) := by
  obtain ⟨found, hfound, -, hcases⟩ := (packetForm_of_decode h).correlationId_cases
  obtain rfl : offset = found := Option.some.inj (hoffset.symm.trans hfound)
  rcases hcases with hudp | ⟨hprotocol, kind, hkind, hsize, hresult⟩
  · exact .inl hudp
  by_cases hecho : kind = .echo
  · subst hecho
    obtain ⟨hclass, htype⟩ := recordKind_echo_iff.mp hkind
    exact .inr (.inl ⟨⟨hprotocol, hclass, htype⟩, hresult, hsize⟩)
  · rw [if_neg hecho] at hresult
    refine .inr (.inr ⟨hprotocol, ?_, kind, hkind, hresult⟩)
    rintro ⟨-, hclass, htype⟩
    exact hecho (hkind.unique (recordKind_echo_iff.mpr ⟨hclass, htype⟩))

lemma IsEchoAt.protocol_ne (h : IsEchoAt data offset) :
    field data 1 1 ≠ Protocol.udp.number := by
  rw [h.protocol]
  decide

lemma correlationId_eq_header_iff (h : Packet.decode data = .ok p)
    (hoffset : layer4Offset? data = some offset) {found : Protocol} :
    p.correlationId = .error (.header found) ↔
      field data 1 1 = Protocol.udp.number ∧ found = .udp := by
  rcases correlationId_cases_at h hoffset with
    ⟨hprotocol, hresult⟩ | ⟨hecho, hresult, -⟩ | ⟨hprotocol, -, kind, -, hresult⟩
  · simp [hprotocol, hresult, eq_comm]
  · simp [hresult, hecho.protocol_ne]
  · simp [hprotocol, hresult, Protocol.number]

lemma correlationId_eq_info_iff (h : Packet.decode data = .ok p)
    (hoffset : layer4Offset? data = some offset) {found : InfoKind} :
    p.correlationId = .error (.info found) ↔
      field data 1 1 = Protocol.scmp.number ∧ ¬ IsEchoAt data offset ∧
        RecordKind (field data offset 2) (field data (offset + 2) 2) found := by
  rcases correlationId_cases_at h hoffset with
    ⟨hprotocol, hresult⟩ | ⟨hecho, hresult, -⟩ | ⟨hprotocol, hother, kind, hkind, hresult⟩
  · simp [hprotocol, hresult, Protocol.number]
  · simp [hecho, hresult]
  · rw [hresult, Except.error.injEq, ReplyError.info.injEq]
    constructor
    · rintro rfl
      exact ⟨hprotocol, hother, hkind⟩
    · rintro ⟨-, -, hfound⟩
      exact hkind.unique hfound

/-- The correlation id of an echo is the number at its place in the bytes. -/
lemma correlationId_eq_ok_iff (h : Packet.decode data = .ok p)
    (hoffset : layer4Offset? data = some offset) {id : Int} :
    p.correlationId = .ok id ↔ IsEchoAt data offset ∧ id = echoIdAt data offset := by
  rcases correlationId_cases_at h hoffset with
    ⟨hprotocol, hresult⟩ | ⟨hecho, hresult, -⟩ | ⟨hprotocol, hother, kind, hkind, hresult⟩
  · simp only [hresult, reduceCtorEq, false_iff, not_and]
    intro hecho
    exact absurd hprotocol hecho.protocol_ne
  · simp [hecho, hresult, eq_comm]
  · simp [hother, hresult]

end

/-! ### Attempts that succeed -/

/-- The bytes can be read, and are an echo of the given id. -/
def Echoes (data : Bytes) (id : Int) : Prop :=
  ∃ p offset, Packet.decode data = .ok p ∧ layer4Offset? data = some offset ∧
    IsEchoAt data offset ∧ id = echoIdAt data offset

lemma echoes_iff {data : Bytes} {id : Int} :
    Echoes data id ↔ ∃ p, Packet.decode data = .ok p ∧ p.correlationId = .ok id := by
  constructor
  · rintro ⟨p, offset, hdecode, hoffset, hecho⟩
    exact ⟨p, hdecode, (correlationId_eq_ok_iff hdecode hoffset).mpr hecho⟩
  · rintro ⟨p, hdecode, hid⟩
    obtain ⟨offset, hoffset, -⟩ := (packetForm_of_decode hdecode).correlationId_cases
    exact ⟨p, offset, hdecode, hoffset, (correlationId_eq_ok_iff hdecode hoffset).mp hid⟩

/-- An attempt succeeds exactly when it receives an echo of its own id. -/
lemma exists_success_iff {σ : Type} {w : Surroundings (StateM σ)} {s : RunSettings} {st st' : σ}
    {id : Int} :
    (∃ trial, execute (Run.attempt w s) st = (.ok trial, st') ∧ trial.correlationId = id ∧
        trial.outcome = .success) ↔
      ∃ sentAt receivedAt reply, Run.Receives w s st id sentAt receivedAt reply st' ∧
        Echoes reply id := by
  constructor
  · rintro ⟨trial, hrun, rfl, hsuccess⟩
    cases Run.attempt_iff.mpr hrun with
    | timedOut => cases hsuccess
    | mismatch => cases hsuccess
    | success hreceives hdecode hid =>
      exact ⟨_, _, _, hreceives, echoes_iff.mpr ⟨_, hdecode, hid⟩⟩
  · rintro ⟨sentAt, receivedAt, reply, hreceives, hechoes⟩
    obtain ⟨p, hdecode, hid⟩ := echoes_iff.mp hechoes
    exact ⟨_, (Run.Attempt.success hreceives hdecode hid).execute_attempt, rfl, rfl⟩

/-- A packet that can be read is refused as a reply for its protocol exactly when that is UDP, for
its record exactly when it is of SCMP and no echo, and never for its payload. Of an echo the id at
its place is taken, and an attempt succeeds exactly when it receives an echo of its own id. -/
theorem reply_exact :
    (∀ data p, Packet.decode data = .ok p →
      ∃ offset, layer4Offset? data = some offset ∧ offset + l4Length ≤ data.length ∧
        (∀ found, p.correlationId = .error (.header found) ↔
          field data 1 1 = Protocol.udp.number ∧ found = .udp) ∧
        ((∃ found, p.correlationId = .error (.info found)) ↔
          field data 1 1 = Protocol.scmp.number ∧ ¬ IsEchoAt data offset) ∧
        (∀ found, p.correlationId = .error (.info found) →
          RecordKind (field data offset 2) (field data (offset + 2) 2) found) ∧
        (∀ id, p.correlationId = .ok id ↔ IsEchoAt data offset ∧ id = echoIdAt data offset) ∧
        (IsEchoAt data offset →
          data.length = offset + l4Length + metaLength + InfoKind.echo.size) ∧
        ∀ found, p.correlationId ≠ .error (.payload found)) ∧
      ∀ {σ : Type} (w : Surroundings (StateM σ)) (s : RunSettings) (st st' : σ) (id : Int),
        (∃ trial, execute (Run.attempt w s) st = (.ok trial, st') ∧ trial.correlationId = id ∧
            trial.outcome = .success) ↔
          ∃ sentAt receivedAt reply, Run.Receives w s st id sentAt receivedAt reply st' ∧
            Echoes reply id := by
  refine ⟨fun data p h => ?_, fun w s st st' id => exists_success_iff⟩
  obtain ⟨offset, hoffset, hlength, -⟩ := (packetForm_of_decode h).correlationId_cases
  refine ⟨offset, hoffset, hlength, fun found => correlationId_eq_header_iff h hoffset, ?_, ?_,
    fun id => correlationId_eq_ok_iff h hoffset, ?_, ?_⟩
  · constructor
    · rintro ⟨found, hfound⟩
      obtain ⟨hprotocol, hother, -⟩ := (correlationId_eq_info_iff h hoffset).mp hfound
      exact ⟨hprotocol, hother⟩
    · rintro ⟨hprotocol, hother⟩
      rcases correlationId_cases_at h hoffset with
        ⟨hudp, -⟩ | ⟨hecho, -⟩ | ⟨-, -, kind, -, hresult⟩
      · rw [hprotocol] at hudp
        cases hudp
      · exact absurd hecho hother
      · exact ⟨kind, hresult⟩
  · intro found hfound
    exact ((correlationId_eq_info_iff h hoffset).mp hfound).2.2
  · intro hecho
    rcases correlationId_cases_at h hoffset with ⟨hudp, -⟩ | ⟨-, -, hsize⟩ | ⟨-, hother, -⟩
    · exact absurd hudp hecho.protocol_ne
    · exact hsize
    · exact absurd hecho hother
  · intro found
    rcases correlationId_cases_at h hoffset with
      ⟨-, hresult⟩ | ⟨-, hresult, -⟩ | ⟨-, -, kind, -, hresult⟩ <;> simp [hresult]

/-- An echo reply of the id 5, from one IPv4 host to another without a path. -/
def replyOfFive : Bytes :=
  [0, 1, 0, 64, 1, 1, 0, 0] ++ ofNat 8 1 ++ ofNat 8 2 ++ [127, 0, 0, 1] ++ [127, 0, 0, 2] ++
    [0, 0, 0, 2, 0, 32, 0, 0] ++ [2, 1, 0, 0, 0, 0, 0, 0] ++ ofNat 8 5 ++ zeros 8

/-- A session in which the given bytes arrive after every request, which all have the id 5. -/
def hearing (reply : Bytes) : Surroundings (StateM Unit) where
  src := ⟨⟨1, 1⟩, .v4 (.replicate 4 127), 40000, []⟩
  dst := ⟨⟨1, 2⟩, .v4 (.replicate 4 127), 30041, []⟩
  drawId := pure 5
  discardPending := pure 0
  clock := pure 7
  send _ := pure ()
  receive _ := pure reply
  cancelled := pure false
  log _ := pure ()

theorem reply_exact_ofFive :
    layer4Offset? replyOfFive = some 32 ∧
      (∃ p, Packet.decode replyOfFive = .ok p ∧ p.correlationId = .ok 5) ∧
      ∃ trial, execute (Run.attempt (hearing replyOfFive) {}) () = (.ok trial, ()) ∧
        trial.correlationId = 5 ∧ trial.outcome = .success := by
  obtain ⟨p, hdecode⟩ : ∃ p, Packet.decode replyOfFive = .ok p := ⟨_, rfl⟩
  have hoffset : layer4Offset? replyOfFive = some 32 := rfl
  have hecho : IsEchoAt replyOfFive 32 := ⟨by decide, by decide, .inr (by decide)⟩
  obtain ⟨offset, hfound, -, -, -, -, hid, -⟩ := reply_exact.1 replyOfFive p hdecode
  obtain rfl : 32 = offset := Option.some.inj (hoffset.symm.trans hfound)
  refine ⟨hoffset, ⟨p, hdecode, (hid 5).mpr ⟨hecho, by decide⟩⟩, ?_⟩
  exact (reply_exact.2 _ _ _ _ 5).mpr
    ⟨7, 7, replyOfFive, ⟨⟨rfl, rfl, rfl, rfl, rfl⟩, rfl, rfl⟩,
      p, 32, hdecode, hoffset, hecho, by decide⟩

end ScionEcho.Wire
