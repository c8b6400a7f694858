import ScionEcho.Packet.Decode

/-!
# Echo packets

Requests, replies, and the check that a packet is an echo.
-/

namespace ScionEcho

/-- An echo request. Every request has a correlation id of its own, so the sequence number is 0
unless the caller says otherwise. -/
structure EchoRequest where
  correlationId : Int
  seq : Int
  deriving DecidableEq, Repr

/-- The payload of a record. Its length in lines is taken from its bytes, so a record that has
none is refused. -/
def Payload.ofInfo (info : Info) : Except EncodeError Payload :=
  match info.bytes? with
  | none => .error .fieldOverflow
  | some bytes =>
    .ok (.scmp ⟨(bytes.length / lineLength : Nat), Protocol.scmp.number⟩ info)

namespace Packet

/-- The packet that carries a request from `src` to `dst`, along the path towards `dst`. -/
def ofEchoRequest (src dst : Endpoint) (request : EchoRequest) : Except EncodeError Packet := do
  let payload ← Payload.ofInfo (.echo request.correlationId request.seq)
  match payload.bytes? with
  | none => .error .fieldOverflow
  | some body =>
    return {
      dstIa := dst.ia
      srcIa := src.ia
      dstHost := dst.host
      srcHost := src.host
      path := dst.path
      l4 := .scmp ⟨classGeneral, typeEchoRequest, (l4Length + body.length : Nat), 0⟩
      payload }

/-- The packet that answers an echo request: sent back where the request came from, with its
record repeated. Nothing answers another packet. -/
def echoReply? (request : Packet) : Option Packet :=
  if request.isEchoRequest then
    some {
      dstIa := request.srcIa
      srcIa := request.dstIa
      dstHost := request.srcHost
      srcHost := request.dstHost
      path := request.path
      l4 := .scmp ⟨classGeneral, typeEchoReply, request.l4.length, 0⟩
      payload := request.payload }
  else none

end Packet

/-- What is reported where a packet is answered that is no echo request. -/
def notEchoRequestMessage : String := "Not an SCMP echo request"

/-! ### Validation of replies -/

/-- Why a packet is not an echo. Each cause names what was found instead. -/
inductive ReplyError
  | header (actual : Protocol)
  | payload (actual : PayloadKind)
  | info (actual : InfoKind)
  deriving DecidableEq, Repr

namespace ReplyError

def actual : ReplyError → String
  | .header found => found.name
  | .payload found => found.name
  | .info found => found.name

def expected : ReplyError → String
  | .header _ => Protocol.scmp.name
  | .payload _ => PayloadKind.scmp.name
  | .info _ => InfoKind.echo.name

def message : ReplyError → String
  | .header found => s!"Not an SCMP header (type={found.name})"
  | .payload found => s!"Not an SCMP payload (type={found.name})"
  | .info found => s!"Not an Info Echo (type={found.name})"

end ReplyError

/-- The correlation id of an echo, request or reply. Whether it answers an outstanding request is
for the caller to decide. -/
def Packet.correlationId (p : Packet) : Except ReplyError Int :=
  match p.l4, p.payload with
  | .udp _, _ => .error (.header .udp)
  | .scmp _, .raw _ => .error (.payload .raw)
  | .scmp _, .scmp _ (.echo id _) => .ok id
  | .scmp _, .scmp _ info => .error (.info info.kind)

end ScionEcho
