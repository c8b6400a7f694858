import ScionEcho.Numeral.Binary64
import ScionEcho.Numeral.Natural

/-!
# Decimal fractions

Reading the text of a floating point number: a decimal fraction with an optional exponent, or the
name of an infinity or of the value that is not a number.
-/

namespace ScionEcho.Numeral

open Text

/-- A decimal numeral in parts: digits before the point, digits after it, and the exponent. -/
structure Fraction where
  whole : List Char
  part : List Char
  exponent : Int
  deriving DecidableEq, Repr

def Fraction.toFloat (negative : Bool) (f : Fraction) : Float :=
  Binary64.ofDecimal negative (value (f.whole ++ f.part)) (f.exponent - f.part.length)

/-- Reads an exponent: nothing, or `e` with an optional sign and digits. -/
def readExponent? : List Char → Option Int
  | [] => some 0
  | c :: rest =>
    if c = 'e' || c = 'E' then
      let (negative, ds) := splitSign rest
      if ds.isEmpty || !ds.all isDecimal then none
      else some (if negative then -(value ds : Int) else value ds)
    else none

/-- Reads a decimal fraction without sign. At least one digit stands on one side of the point. -/
def readFraction? (cs : List Char) : Option Fraction := do
  let whole := cs.takeWhile isDecimal
  let (part, rest) :=
    match cs.dropWhile isDecimal with
    | '.' :: r => (r.takeWhile isDecimal, r.dropWhile isDecimal)
    | r => ([], r)
  if whole.isEmpty && part.isEmpty then none
  else some ⟨whole, part, ← readExponent? rest⟩

/-- Reads a floating point number without blanks around it. -/
def readUnpadded? (cs : List Char) : Option Float :=
  let (negative, body) := splitSign cs
  let name := String.ofList (body.map Char.toLower)
  if name = "inf" || name = "infinity" then
    some (Binary64.ofSignBits negative (Binary64.specialField * Binary64.hiddenBit))
  else if name = "nan" then
    some (Binary64.ofSignBits negative (Binary64.specialField * Binary64.hiddenBit + 0x8000000000000))
  else (readFraction? body).map (Fraction.toFloat negative)

/-- Reads a floating point number as a command line gives it: blanks around it and single
underscores between digits are accepted. -/
def readFloat? (cs : List Char) : Option Float :=
  (joinGroups? (trim cs)).bind readUnpadded?

end ScionEcho.Numeral
