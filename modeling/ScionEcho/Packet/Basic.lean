import ScionEcho.Address.Endpoint

/-!
# Packets

The parts of a SCION packet that echo probing needs: addresses, an opaque forwarding path, a
layer-4 header of SCMP or UDP, and a payload that is an SCMP record or raw bytes. The numbers are
integers without bounds; whether they fit their fields is decided when a packet is put on the
wire.
-/

namespace ScionEcho

/-! ### Layer 4 -/

structure ScmpHeader where
  scmpClass : Int
  scmpType : Int
  length : Int
  checksum : Int
  deriving DecidableEq, Repr

structure UdpHeader where
  srcPort : Int
  dstPort : Int
  length : Int
  checksum : Int
  deriving DecidableEq, Repr

inductive L4Header
  | scmp (header : ScmpHeader)
  | udp (header : UdpHeader)
  deriving DecidableEq, Repr

inductive Protocol
  | scmp
  | udp
  deriving DecidableEq, Repr

def Protocol.name : Protocol → String
  | .scmp => "SCMP"
  | .udp => "UDP"

/-- The number of a protocol in the common header. -/
def Protocol.number : Protocol → Nat
  | .scmp => 1
  | .udp => 17

def L4Header.protocol : L4Header → Protocol
  | .scmp _ => .scmp
  | .udp _ => .udp

def L4Header.length : L4Header → Int
  | .scmp h => h.length
  | .udp h => h.length

/-! ### SCMP records -/

inductive InfoKind
  | echo
  | traceroute
  | packetSize
  deriving DecidableEq, Repr

def InfoKind.name : InfoKind → String
  | .echo => "ECHO"
  | .traceroute => "TRACEROUTE"
  | .packetSize => "PKT_SIZE"

def InfoKind.size : InfoKind → Nat
  | .echo => 16
  | .traceroute => 24
  | .packetSize => 8

inductive Info
  /-- What an echo reply repeats of its request. -/
  | echo (id seq : Int)
  /-- The place of a hop on the path. -/
  | traceroute (ia : IsdAs) (ifId hopOff : Int) (ingress : Bool)
  /-- The size of a packet that was too large, and the limit that it met. -/
  | packetSize (size mtu : Int)
  deriving DecidableEq, Repr

def Info.kind : Info → InfoKind
  | .echo .. => .echo
  | .traceroute .. => .traceroute
  | .packetSize .. => .packetSize

def classGeneral : Int := 0
def classCommonHeader : Int := 2

/-- SCMP types. The first four belong to the general class, the last to the class of common
header errors. -/
def typeEchoRequest : Int := 1
def typeEchoReply : Int := 2
def typeTracerouteRequest : Int := 3
def typeTracerouteReply : Int := 4
def typeBadLength : Int := 5

/-- The kind of record that a message of the given class and type carries. -/
def infoKind? (scmpClass scmpType : Int) : Option InfoKind :=
  if scmpClass = classGeneral then
    if scmpType = typeEchoRequest ∨ scmpType = typeEchoReply then some .echo
    else if scmpType = typeTracerouteRequest ∨ scmpType = typeTracerouteReply then
      some .traceroute
    else none
  else if scmpClass = classCommonHeader ∧ scmpType = typeBadLength then some .packetSize
  else none

/-! ### Payloads and packets -/

/-- The bytes in a line. Records are measured in lines. -/
def lineLength : Nat := 8

/-- What stands in front of an SCMP record: its length in lines, and a protocol number. -/
structure ScmpMeta where
  infoLines : Int
  protocol : Int
  deriving DecidableEq, Repr

inductive Payload
  | scmp (head : ScmpMeta) (info : Info)
  | raw (data : Bytes)
  deriving DecidableEq, Repr

inductive PayloadKind
  | scmp
  | raw
  deriving DecidableEq, Repr

def PayloadKind.name : PayloadKind → String
  | .scmp => "SCMP"
  | .raw => "RAW"

def Payload.kind : Payload → PayloadKind
  | .scmp .. => .scmp
  | .raw _ => .raw

structure Packet where
  dstIa : IsdAs
  srcIa : IsdAs
  dstHost : Host
  srcHost : Host
  path : Bytes
  l4 : L4Header
  payload : Payload
  deriving DecidableEq, Repr

def Packet.isEchoRequest (p : Packet) : Bool :=
  match p.l4, p.payload with
  | .scmp h, .scmp _ (.echo ..) =>
    h.scmpClass = classGeneral && h.scmpType = typeEchoRequest
  | _, _ => false

def Packet.echoId? (p : Packet) : Option Int :=
  match p.payload with
  | .scmp _ (.echo id _) => some id
  | _ => none

end ScionEcho
