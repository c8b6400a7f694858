import ScionEcho.Packet.Basic

/-!
# Packets on the wire

The bytes of a packet, in network byte order:

* the common header of 8 bytes: version, protocol, total length (2), host types of destination
  and source, path length (2);
* the addresses: ISD-AS of destination and source (8 each), their hosts (4 or 16 each);
* the forwarding path;
* the layer-4 header of four fields of 2 bytes each;
* the payload: raw bytes, or 8 bytes in front of an SCMP record and the record.
-/

namespace ScionEcho

open Bytes

inductive EncodeError
  /-- The packet is longer than the limit. -/
  | tooLong (total : Nat) (limit : Int)
  | totalLength
  | fieldOverflow
  deriving DecidableEq, Repr

/-- The text that reports the cause. A number that does not fit its field is reported without a
text. -/
def EncodeError.message : EncodeError → String
  | .tooLong total limit => s!"Packet of {total} bytes exceeds limit of {limit} bytes"
  | .totalLength =>
    "Cannot encode common header: 'H' format requires 0 <= number <= 65535"
  | .fieldOverflow => ""

/-- The packet size that every path carries. -/
def minMtu : Nat := 1280

/-- The largest size that the common header can state. -/
def maxPacketLength : Nat := 0xffff

/-- The bytes of the common header, of the layer-4 header, and of what precedes an SCMP record. -/
def commonLength : Nat := 8
def l4Length : Nat := 8
def metaLength : Nat := 8

def iaPairLength : Nat := 16

/-- The number of a host's address type. -/
def Host.typeNumber : Host → Nat
  | .v4 _ => 1
  | .v6 .. => 2

/-- The length of a host of the given type. -/
def hostLength? : Nat → Option Nat
  | 1 => some 4
  | 2 => some 16
  | _ => none

/-- Fields side by side, each given by its width and its number. -/
def fields? (items : List (Nat × Int)) : Option Bytes :=
  (items.mapM fun (width, n) => unsigned? width n).map List.flatten

def Info.bytes? : Info → Option Bytes
  | .echo id seq => (fields? [(8, id), (2, seq)]).map (· ++ zeros 6)
  | .traceroute ia ifId hopOff ingress =>
    (fields? [(8, ia.toInt), (8, ifId), (1, hopOff)]).map
      (· ++ (if ingress then 1 else 0) :: zeros 6)
  | .packetSize size mtu => (fields? [(2, size), (2, mtu)]).map (· ++ zeros 4)

def Payload.bytes? : Payload → Option Bytes
  | .raw data => some data
  | .scmp head info => do
    let front ← fields? [(1, head.infoLines), (1, head.protocol)]
    let record ← info.bytes?
    return front ++ zeros 6 ++ record

/-- The bytes of a layer-4 header with the given length field. -/
def L4Header.bytes? (length : Nat) : L4Header → Option Bytes
  | .scmp h => fields? [(2, h.scmpClass), (2, h.scmpType), (2, length), (2, h.checksum)]
  | .udp h => fields? [(2, h.srcPort), (2, h.dstPort), (2, length), (2, h.checksum)]

namespace Packet

def commonHeader (p : Packet) (total : Nat) : Bytes :=
  [0, UInt8.ofNat p.l4.protocol.number] ++ ofNat 2 total ++
    [UInt8.ofNat p.dstHost.typeNumber, UInt8.ofNat p.srcHost.typeNumber] ++
    ofNat 2 p.path.length

/-- What follows the common header. The length field of the layer-4 header is computed, whatever
the packet says. -/
def tail? (p : Packet) : Option Bytes := do
  let body ← p.payload.bytes?
  let l4 ← p.l4.bytes? (l4Length + body.length)
  let ias ← fields? [(8, p.dstIa.toInt), (8, p.srcIa.toInt)]
  return ias ++ p.dstHost.packed ++ p.srcHost.packed ++ p.path ++ l4 ++ body

def encode (p : Packet) (limit : Int) : Except EncodeError Bytes :=
  match p.tail? with
  | none => .error .fieldOverflow
  | some tail =>
    let total := commonLength + tail.length
    if limit < total then .error (.tooLong total limit)
    else if maxPacketLength < total then .error .totalLength
    else .ok (p.commonHeader total ++ tail)

end Packet

@[simp] theorem length_commonHeader (p : Packet) (total : Nat) :
    (p.commonHeader total).length = commonLength := by
  simp [Packet.commonHeader, commonLength]

end ScionEcho
