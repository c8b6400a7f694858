import ScionEcho.Numeral.Natural

/-!
# Malformed addresses

Why the text of an address is refused. Each cause carries the part at fault and the text around
it.
-/

namespace ScionEcho.Address

open Text

inductive ParseError
  /-- Not two nonempty parts with a hyphen between them. -/
  | isdAs (text : List Char)
  | isd (part text : List Char)
  | asn (part text : List Char)
  /-- Not of the form `ISD-AS,[IP]:Port`. -/
  | endpoint (text : List Char)
  | host (part text : List Char)
  | port (n : Nat) (text : List Char)
  /-- A run of digits that is no numeral. -/
  | numeral (cause : Numeral.Error)
  deriving DecidableEq, Repr

private def shown (cs : List Char) : String := String.ofList (quoted cs)

def ParseError.message : ParseError → String
  | .isdAs text => s!"Invalid ISD-AS {shown text}"
  | .isd part text => s!"Invalid ISD {shown part} in {shown text}"
  | .asn part text => s!"Invalid AS {shown part} in {shown text}"
  | .endpoint text => s!"Invalid SCION address {shown text}, expected ISD-AS,[IP]:Port"
  | .host part text => s!"Invalid host {shown part} in {shown text}"
  | .port n text => s!"Invalid port {n} in {shown text}"
  | .numeral cause => cause.message

end ScionEcho.Address
