import ScionEcho.Proofs.Wire.Grammar

/-!
# Well-formed packets

A packet is well formed if the wire can carry all of it: its size is one that the common header
can state, its numbers fit their fields, what is said twice agrees, and its hosts have no zone.
What is read from the wire is well formed.
-/

namespace ScionEcho

open Bytes

/-- A number fits a field of so many bytes. -/
def FitsIn (width : Nat) (n : Int) : Prop := 0 ≤ n ∧ n < 256 ^ width

/-- An ISD-AS pair has 16 bits of ISD and 48 bits of AS. -/
structure IsdAs.InRange (ia : IsdAs) : Prop where
  isd_nonneg : 0 ≤ ia.isd
  isd_lt : ia.isd < 2 ^ 16
  asn_nonneg : 0 ≤ ia.asn
  asn_lt : ia.asn < 2 ^ 48

/-- The zone of a host. -/
def Host.zone? : Host → Option (List Char)
  | .v4 _ => none
  | .v6 _ zone => zone

/-- Every number of a record fits its field. -/
def Info.Fits : Info → Prop
  | .echo id seq => FitsIn 8 id ∧ FitsIn 2 seq
  | .traceroute ia ifId hopOff _ => ia.InRange ∧ FitsIn 8 ifId ∧ FitsIn 1 hopOff
  | .packetSize size mtu => FitsIn 2 size ∧ FitsIn 2 mtu

/-- Every number of a payload fits its field. -/
def Payload.Fits : Payload → Prop
  | .raw _ => True
  | .scmp head info => FitsIn 1 head.infoLines ∧ FitsIn 1 head.protocol ∧ info.Fits

/-- Every number of a layer-4 header but its length fits its field. -/
def L4Header.Fits : L4Header → Prop
  | .scmp h => FitsIn 2 h.scmpClass ∧ FitsIn 2 h.scmpType ∧ FitsIn 2 h.checksum
  | .udp h => FitsIn 2 h.srcPort ∧ FitsIn 2 h.dstPort ∧ FitsIn 2 h.checksum

/-- The number of bytes of a payload. -/
def Payload.size : Payload → Nat
  | .raw data => data.length
  | .scmp _ info => metaLength + info.kind.size

/-- A layer-4 header goes with a payload: raw bytes follow a UDP header, and an SCMP header is
followed by the record of its class and type, whose length in lines is stated. -/
def Payload.GoesWith : Payload → L4Header → Prop
  | .raw _, .udp _ => True
  | .scmp head info, .scmp h =>
    infoKind? h.scmpClass h.scmpType = some info.kind ∧
      head.infoLines * lineLength = info.kind.size
  | _, _ => False

namespace Packet

/-- The number of bytes of a packet. -/
def size (p : Packet) : Nat :=
  commonLength + iaPairLength + p.dstHost.packed.length + p.srcHost.packed.length +
    p.path.length + l4Length + p.payload.size

/-- The length that the layer-4 header of a packet ought to state. -/
def segmentLength (p : Packet) : Nat := l4Length + p.payload.size

/-- All that makes a packet well formed, but for the length that its layer-4 header states. -/
structure WellFormedButLength (p : Packet) : Prop where
  size_le : p.size ≤ maxPacketLength
  dstIa : p.dstIa.InRange
  srcIa : p.srcIa.InRange
  dstHost : p.dstHost.zone? = none
  srcHost : p.srcHost.zone? = none
  l4 : p.l4.Fits
  payload : p.payload.Fits
  goesWith : p.payload.GoesWith p.l4

/-- The wire can carry all of a packet. -/
structure WellFormed (p : Packet) : Prop extends WellFormedButLength p where
  length : p.l4.length = p.segmentLength

end Packet

/-! ### ISD-AS pairs as numbers -/

namespace IsdAs

/-- An AS of 48 bits stands alone below the ISD, which may be any number. -/
lemma toInt_eq_add {ia : IsdAs} (hasn : 0 ≤ ia.asn) (hlt : ia.asn < 2 ^ 48) :
    ia.toInt = ia.isd * 2 ^ 48 + ia.asn := by
  have hdiv : ia.asn / asCount = 0 := Int.ediv_eq_zero_of_lt hasn (by simpa [asCount] using hlt)
  have hmod : ia.asn % asCount = ia.asn := Int.emod_eq_of_lt hasn (by simpa [asCount] using hlt)
  rw [toInt, hdiv, hmod, bitOr_zero]
  rfl

lemma toInt_of_inRange {ia : IsdAs} (h : ia.InRange) : ia.toInt = ia.isd * 2 ^ 48 + ia.asn :=
  toInt_eq_add h.asn_nonneg h.asn_lt

lemma InRange.fitsIn {ia : IsdAs} (h : ia.InRange) : FitsIn 8 ia.toInt := by
  rw [FitsIn, toInt_of_inRange h]
  obtain ⟨_, _, _, _⟩ := h
  constructor <;> omega

lemma ofInt_toInt_of_asn {ia : IsdAs} (hasn : 0 ≤ ia.asn) (hlt : ia.asn < 2 ^ 48) :
    ofInt ia.toInt = ia := by
  rw [toInt_eq_add hasn hlt]
  obtain ⟨isd, asn⟩ := ia
  simp only [ofInt, asCount, mk.injEq] at *
  constructor <;> omega

lemma ofInt_toInt {ia : IsdAs} (h : ia.InRange) : ofInt ia.toInt = ia :=
  ofInt_toInt_of_asn h.asn_nonneg h.asn_lt

lemma asn_ofInt_bounds (n : Int) : 0 ≤ (ofInt n).asn ∧ (ofInt n).asn < 2 ^ 48 := by
  simp only [ofInt, asCount]
  constructor <;> omega

/-- Every number is the form of a pair. -/
lemma toInt_ofInt (n : Int) : (ofInt n).toInt = n := by
  obtain ⟨hasn, hlt⟩ := asn_ofInt_bounds n
  rw [toInt_eq_add hasn hlt, ofInt_isd, ofInt_asn, asCount]
  omega

lemma inRange_ofInt {n : Nat} (h : n < 256 ^ 8) : (ofInt n).InRange := by
  constructor <;> simp only [ofInt, asCount] <;> omega

end IsdAs

/-! ### What is read is well formed -/

namespace Wire

lemma fitsIn_natCast {width n : Nat} (h : n < 256 ^ width) : FitsIn width n :=
  ⟨Int.natCast_nonneg n, by exact_mod_cast h⟩

lemma HostForm.zone?_eq_none {type : Nat} {bytes : Bytes} {host : Host}
    (h : HostForm type bytes host) : host.zone? = none := by
  cases h <;> rfl

lemma HostForm.eq_packed {type : Nat} {bytes : Bytes} {host : Host}
    (h : HostForm type bytes host) : bytes = host.packed := by
  cases h <;> rfl

lemma InfoForm.fits {kind : InfoKind} {bytes : Bytes} {info : Info}
    (h : InfoForm kind bytes info) : info.kind = kind ∧ info.Fits := by
  cases h with
  | echo hfront =>
    have hfits := hfront.fits
    simp at hfits
    exact ⟨rfl, fitsIn_natCast hfits.1, fitsIn_natCast hfits.2⟩
  | traceroute hfront =>
    have hfits := hfront.fits
    simp at hfits
    exact ⟨rfl, IsdAs.inRange_ofInt hfits.1, fitsIn_natCast hfits.2.1,
      fitsIn_natCast hfits.2.2.1⟩
  | packetSize hfront =>
    have hfits := hfront.fits
    simp at hfits
    exact ⟨rfl, fitsIn_natCast hfits.1, fitsIn_natCast hfits.2⟩

lemma ScmpForm.fits {scmpClass scmpType : Nat} {body : Bytes} {payload : Payload}
    (h : ScmpForm scmpClass scmpType body payload) (length checksum : Int) :
    payload.Fits ∧ payload.size = body.length ∧
      payload.GoesWith (.scmp ⟨scmpClass, scmpType, length, checksum⟩) := by
  cases h with
  | @mk front reserved record lines protocol kind info hfront hreserved hkind hrecord hlines =>
    have hfits := hfront.fits
    simp at hfits
    obtain ⟨rfl, hinfo⟩ := hrecord.fits
    obtain ⟨hsize, -⟩ := infoForm_iff.mp hrecord
    refine ⟨⟨fitsIn_natCast hfits.1, fitsIn_natCast hfits.2, hinfo⟩, ?_, hkind, ?_⟩
    · simp [Payload.size, hfront.length, rowLength, hreserved, hsize, metaLength]
      omega
    · rw [← hsize, hlines]
      push_cast
      rfl

lemma L4Form.fits {protocol : Protocol} {bytes : Bytes} {l4 : L4Header} {payload : Payload}
    (h : L4Form protocol bytes l4 payload) :
    l4.Fits ∧ payload.Fits ∧ payload.GoesWith l4 ∧ bytes.length = l4Length + payload.size ∧
      l4.length = (l4Length + payload.size : Nat) := by
  cases h with
  | @scmp front body scmpClass scmpType length checksum payload hfront hlength hbody =>
    have hfits := hfront.fits
    simp at hfits
    obtain ⟨hpayload, hsize, hgoes⟩ := hbody.fits length checksum
    refine ⟨⟨fitsIn_natCast hfits.1, fitsIn_natCast hfits.2.1, fitsIn_natCast hfits.2.2.2⟩,
      hpayload, hgoes, ?_, ?_⟩
    · simp [hfront.length, rowLength, hsize, l4Length]
    · rw [hsize, ← hlength]
      rfl
  | @udp front body srcPort dstPort length checksum hfront hlength =>
    have hfits := hfront.fits
    simp at hfits
    refine ⟨⟨fitsIn_natCast hfits.1, fitsIn_natCast hfits.2.1, fitsIn_natCast hfits.2.2.2⟩,
      trivial, trivial, ?_, ?_⟩
    · simp [hfront.length, rowLength, Payload.size, l4Length]
    · rw [Payload.size, ← hlength]
      rfl

/-- What the grammar describes is well formed, and is as long as the packet says. -/
lemma PacketForm.wellFormed {data : Bytes} {p : Packet} (h : PacketForm data p) :
    p.WellFormed ∧ data.length = p.size := by
  cases h with
  | @mk header ias dst src path segment protocol dstType srcType dstIa srcIa dstHost srcHost
      l4 payload hdata hheader hias hdst hsrc hsegment =>
    have hheaderFits := hheader.fits
    have hiasFits := hias.fits
    simp at hheaderFits hiasFits
    obtain ⟨hl4, hpayload, hgoes, hlength, hstated⟩ := hsegment.fits
    have hsize : data.length = commonLength + iaPairLength + dstHost.packed.length +
        srcHost.packed.length + path.length + l4Length + payload.size := by
      rw [hdata]
      simp [hheader.length, hias.length, rowLength, hdst.eq_packed, hsrc.eq_packed, hlength,
        commonLength, iaPairLength]
      omega
    refine ⟨⟨⟨?_, ?_, ?_, hdst.zone?_eq_none, hsrc.zone?_eq_none, hl4, hpayload, hgoes⟩,
      hstated⟩, hsize⟩
    · rw [Packet.size, ← hsize, maxPacketLength]
      omega
    · exact IsdAs.inRange_ofInt hiasFits.1
    · exact IsdAs.inRange_ofInt hiasFits.2

end Wire

end ScionEcho
