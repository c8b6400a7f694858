import ScionEcho.Packet.Encode

/-!
# Reading packets from the wire

Bytes that came from the network are read front to back; what is wrong first is what is
reported.
-/

namespace ScionEcho

open Bytes

inductive DecodeError
  | tooShort (length : Nat)
  | version (found : Nat)
  | totalLength (stated length : Nat)
  | hostTypes (dst src : Nat)
  | truncatedHost
  | truncatedL4
  | l4Length (stated length : Nat)
  | protocol (number : Nat)
  | truncatedMeta
  | unknownScmp (scmpClass scmpType : Nat)
  /-- The body of a message is not as long as its record length says. -/
  | bodyLength (length lines needed : Nat)
  /-- A record does not have the length of its kind. -/
  | infoLength (length : Nat) (kind : InfoKind)
  deriving DecidableEq, Repr

def DecodeError.message : DecodeError → String
  | .tooShort length => s!"Packet too short: {length} bytes"
  | .version found => s!"Unsupported version {found}"
  | .totalLength stated length => s!"Length mismatch: header says {stated}, got {length}"
  | .hostTypes dst src => s!"Unknown host address type {dst}/{src}"
  | .truncatedHost => "Truncated host address"
  | .truncatedL4 => "Truncated layer-4 header"
  | .l4Length stated length => s!"Layer-4 length mismatch: header says {stated}, got {length}"
  | .protocol number => s!"Unsupported layer-4 protocol {number}"
  | .truncatedMeta => "Truncated SCMP meta"
  | .unknownScmp scmpClass scmpType => s!"Unknown SCMP class/type {scmpClass}/{scmpType}"
  | .bodyLength length lines needed =>
    s!"SCMP body is {length} bytes, info length {lines} needs {needed}"
  | .infoLength length kind => s!"Bad info length {length} for {kind.name} record"

/-- Reads a host of the given length off the front. -/
def readHost (length : Nat) (bytes : Bytes) : Except DecodeError (Host × Bytes) :=
  if bytes.length < length then .error .truncatedHost
  else
    match Host.ofBytes? (bytes.take length) with
    | some host => .ok (host, bytes.drop length)
    | none => .error .truncatedHost

/-- Reads a record of the given kind. Reserved bytes are skipped, and any byte but zero marks the
ingress side. -/
def readInfo (bytes : Bytes) : InfoKind → Info
  | .echo => .echo (field bytes 0 8) (field bytes 8 2)
  | .traceroute =>
    .traceroute (.ofInt (field bytes 0 8)) (field bytes 8 8) (field bytes 16 1)
      (field bytes 17 1 ≠ 0)
  | .packetSize => .packetSize (field bytes 0 2) (field bytes 2 2)

def readScmpPayload (scmpClass scmpType : Nat) (body : Bytes) : Except DecodeError Payload :=
  if body.length < metaLength then .error .truncatedMeta
  else
    match infoKind? scmpClass scmpType with
    | none => .error (.unknownScmp scmpClass scmpType)
    | some kind =>
      let lines := field body 0 1
      let record := body.drop metaLength
      let needed := metaLength + lines * lineLength
      if body.length ≠ needed then .error (.bodyLength body.length lines needed)
      else if record.length ≠ kind.size then .error (.infoLength record.length kind)
      else .ok (.scmp ⟨lines, field body 1 1⟩ (readInfo record kind))

/-- Reads a layer-4 header and what follows it. -/
def readL4 (protocol : Nat) (bytes : Bytes) : Except DecodeError (L4Header × Payload) :=
  if bytes.length < l4Length then .error .truncatedL4
  else
    let first := field bytes 0 2
    let second := field bytes 2 2
    let length := field bytes 4 2
    let checksum := field bytes 6 2
    let body := bytes.drop l4Length
    if length ≠ bytes.length then .error (.l4Length length bytes.length)
    else if protocol = Protocol.scmp.number then do
      let payload ← readScmpPayload first second body
      return (.scmp ⟨first, second, length, checksum⟩, payload)
    else if protocol = Protocol.udp.number then
      .ok (.udp ⟨first, second, length, checksum⟩, .raw body)
    else .error (.protocol protocol)

def Packet.decode (data : Bytes) : Except DecodeError Packet :=
  if data.length < commonLength + iaPairLength then .error (.tooShort data.length)
  else
    let version := field data 0 1
    let total := field data 2 2
    let dstType := field data 4 1
    let srcType := field data 5 1
    let pathLength := field data 6 2
    if version ≠ 0 then .error (.version version)
    else if total ≠ data.length then .error (.totalLength total data.length)
    else
      match hostLength? dstType, hostLength? srcType with
      | some dstLength, some srcLength => do
        let rest := data.drop (commonLength + iaPairLength)
        let (dstHost, rest) ← readHost dstLength rest
        let (srcHost, rest) ← readHost srcLength rest
        let (l4, payload) ← readL4 (field data 1 1) (rest.drop pathLength)
        return {
          dstIa := .ofInt (field data 8 8)
          srcIa := .ofInt (field data 16 8)
          dstHost, srcHost
          path := rest.take pathLength
          l4, payload }
      | _, _ => .error (.hostTypes dstType srcType)

end ScionEcho
