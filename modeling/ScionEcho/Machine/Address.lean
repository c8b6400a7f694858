import ScionEcho.Responder.Server
import ScionEcho.Session.Datagram
import Std.Net.Addr

/-!
# Socket addresses

The addresses of the operating system's sockets, from the text of a host and a port and back.
-/

namespace ScionEcho.Machine

open Std.Net

/-- The address of a host and a port. An interface zone has no place in it. -/
def ofHost? (host : Host) (port : Int) : Option SocketAddress :=
  if port < 0 ∨ Endpoint.maxPort < port then none
  else
    let port := UInt16.ofNat port.toNat
    match host with
    | .v4 octets => some (.v4 ⟨⟨octets⟩, port⟩)
    | .v6 octets none =>
      (vectorOfList? 8 ((Host.groups octets.toList).map UInt16.ofNat)).map fun segments =>
        .v6 ⟨⟨segments⟩, port⟩
    | .v6 _ (some _) => none

def ofUnderlay? (u : Underlay) : Option SocketAddress :=
  (Host.read? u.host.toList).bind (ofHost? · u.port)

def hostOf : SocketAddress → Host
  | .v4 a => .v4 a.addr.octets
  | .v6 a =>
    let bytes := a.addr.segments.toList.flatMap fun s => Bytes.ofNat 2 s.toNat
    (Host.ofBytes? bytes).getD (.v6 (Vector.replicate 16 0) none)

/-- Where a datagram came from. -/
def senderOf (a : SocketAddress) : Sender :=
  match a with
  | .v4 _ => ⟨toString (hostOf a), [a.port.toNat]⟩
  | .v6 _ => ⟨toString (hostOf a), [a.port.toNat, 0, 0]⟩

/-- The address that an answer goes to. -/
def ofSender? (s : Sender) : Option SocketAddress :=
  ofUnderlay? ⟨s.host, s.numbers.headD 0⟩

end ScionEcho.Machine
