import ScionEcho.Config.Value
import ScionEcho.Numeral.Real
import ScionEcho.Text.Hex
import ScionEcho.Text.Split
import ScionEcho.Toml.ReadError

/-!
# Numbers

Whole numbers in four bases, and doubles. Underscores are skipped. A number behind an equals sign
must also be written plainly, without superfluous zeros and with underscores between digits only.
-/

namespace ScionEcho.Toml

open Numeral Text

/-- Whether two characters are neighbours in a text. -/
def hasNeighbours (a b : Char) (cs : List Char) : Bool := 0 < countText [a, b] cs

/-- Whether a text has a zero in front that does not belong there: one may stand alone, before a
point, and before one of the given letters for a base. -/
def hasFrontZero (letters : List Char) : List Char → Bool
  | '0' :: c :: _ => c ≠ '.' && c ∉ letters
  | _ => false

/-- Whether a number is written plainly. With a sign it has to be decimal. -/
def isPlain (text : List Char) : Bool :=
  let cs := strip text
  if cs.isEmpty || cs.head? = some '_' || cs.getLast? = some '_' then false
  else if hasNeighbours '_' '.' cs || hasNeighbours '.' '_' cs then false
  else if cs.length = 1 then true
  else
    match cs with
    | '+' :: body | '-' :: body => !hasFrontZero [] body && !hasNeighbours '_' '_' body
    | _ => !hasFrontZero ['x', 'o', 'b'] cs && !hasNeighbours '_' '_' cs

/-- The value of a digit in any of the bases. -/
def digitValue? (c : Char) : Option Nat := decimalDigit? c <|> hexValue? c

def readBase? (base : Nat) (cs : List Char) : Option Nat :=
  if cs.isEmpty || !cs.all fun c => (digitValue? c).any (· < base) then none
  else some (cs.foldl (fun n c => base * n + (digitValue? c).getD 0) 0)

/-- Reads decimal digits. Zeros may only stand in front of a zero. -/
def readDecimal? (cs : List Char) : Option Nat :=
  match readNat cs with
  | .ok n => if decimalDigit? (cs.headD '1') = some 0 && n ≠ 0 then none else some n
  | .error _ => none

/-- Reads a whole number without sign; a letter after a zero gives another base than ten. -/
def readWhole? (cs : List Char) : Option Nat :=
  match cs with
  | zero :: letter :: digits =>
    if decimalDigit? zero ≠ some 0 then readDecimal? cs
    else if letter = 'x' || letter = 'X' then readBase? 16 digits
    else if letter = 'o' || letter = 'O' then readBase? 8 digits
    else if letter = 'b' || letter = 'B' then readBase? 2 digits
    else readDecimal? cs
  | _ => readDecimal? cs

/-- Reads a whole number. It may have blanks around it and a sign of its own. -/
def readInteger? (cs : List Char) : Option Int :=
  let (negative, digits) := splitSign (trim cs)
  (readWhole? digits).map fun n => if negative then -(n : Int) else n

/-- Whether an unsigned number is written as a double: with a point, or with an exponent. -/
def isReal (cs : List Char) : Bool :=
  '.' ∈ cs || ('x' ∉ cs && ('e' ∈ cs || 'E' ∈ cs))

/-- Whether a text is the name of a double. -/
def isRealName (cs : List Char) : Bool :=
  let name := cs.map Char.toLower
  name = "inf".toList || name = "nan".toList

/-- Reads a double that begins with a digit and has no point at its end. -/
def readReal? (cs : List Char) : Option Float :=
  if (cut '.' cs).2 = some [] || !cs.head?.any Char.isDigit then none else readFloat? cs

/-- Reads a number. A minus sign subtracts from zero, so that there is no negative zero. -/
def readNumber? (text : List Char) : Option ConfigValue :=
  let (negative, rest) := splitSign text
  let cs := rest.filter (· ≠ '_')
  if isReal cs then (readReal? cs).map fun x => .real (if negative then 0 - x else x)
  else if isRealName cs then (readFloat? cs).map fun x => .real (if negative then 0 - x else x)
  else (readInteger? cs).map fun n => .integer (if negative then -n else n)

end ScionEcho.Toml
