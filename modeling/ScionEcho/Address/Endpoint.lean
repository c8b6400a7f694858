import ScionEcho.Address.Host
import ScionEcho.Address.IsdAs

/-!
# Endpoints

A host in an autonomous system, written `ISD-AS,[IP]:Port`. Without a port the text means port 0,
which leaves the choice of a port to the operating system. An endpoint also holds the forwarding
path towards it, which its text does not show.
-/

namespace ScionEcho

open Text Address

/-- A host in an autonomous system, with a port and a forwarding path. -/
structure Endpoint where
  ia : IsdAs
  host : Host
  port : Int
  path : Bytes
  deriving DecidableEq, Repr

/-- The address of a datagram socket: the text of a host, and a port. -/
structure Underlay where
  host : String
  port : Int
  deriving DecidableEq, Repr

namespace Endpoint

def maxPort : Nat := 0xffff

def underlay (e : Endpoint) : Underlay := ⟨toString e.host, e.port⟩

def withPort (e : Endpoint) (port : Int) : Endpoint := { e with port }

def toChars (e : Endpoint) : List Char :=
  e.ia.toChars ++ ",[".toList ++ e.host.toChars ++ "]:".toList ++ (toString e.port).toList

instance : ToString Endpoint := ⟨fun e => String.ofList e.toChars⟩

structure Parts where
  ia : List Char
  host : List Char
  /-- The digits of the port, empty if there is none. -/
  port : List Char
  deriving DecidableEq, Repr

/-- Splits off a port: nothing, or a colon and decimal digits. -/
def splitPort? : List Char → Option (List Char)
  | [] => some []
  | ':' :: ds => if !ds.isEmpty && ds.all isDecimal then some ds else none
  | _ => none

/-- Splits a text without blanks around it. The first part has no comma and no blank, the second
no closing bracket. -/
def splitParts? (cs : List Char) : Option Parts :=
  let inIa (c : Char) : Bool := c ≠ ',' && !isBlank c
  let ia := cs.takeWhile inIa
  match cs.dropWhile inIa with
  | ',' :: '[' :: rest =>
    let host := rest.takeWhile (· ≠ ']')
    match rest.dropWhile (· ≠ ']') with
    | ']' :: tail =>
      if ia.isEmpty || host.isEmpty then none else (splitPort? tail).map (⟨ia, host, ·⟩)
    | _ => none
  | _ => none

def readPort (text ds : List Char) : Except ParseError Nat :=
  if ds.isEmpty then .ok 0
  else
    match Numeral.readNat ds with
    | .error cause => .error (.numeral cause)
    | .ok n => if maxPort < n then .error (.port n text) else .ok n

def read (text : List Char) : Except ParseError Endpoint :=
  match splitParts? (strip text) with
  | none => .error (.endpoint text)
  | some parts => do
    let ia ← IsdAs.read parts.ia
    match Host.read? parts.host with
    | none => .error (.host parts.host text)
    | some host => return ⟨ia, host, ← readPort text parts.port, []⟩

def parse (text : String) : Except ParseError Endpoint := read text.toList

end Endpoint

end ScionEcho
