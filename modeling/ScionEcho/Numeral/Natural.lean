import ScionEcho.Text.Blank
import ScionEcho.Text.Digit
import ScionEcho.Text.Quoted

/-!
# Whole numbers in base 10

Reading numerals written with the decimal digits of any script. A numeral may have at most 4300
digits: longer ones are refused before their value is computed.
-/

namespace ScionEcho.Numeral

open Text

/-- The longest numeral that is read. -/
def maxDigits : Nat := 4300

/-- Why a text is not read as a whole number. -/
inductive Error
  /-- The text is not a numeral. -/
  | malformed (text : List Char)
  /-- The numeral has more than `maxDigits` digits. -/
  | tooManyDigits (digits : Nat)
  deriving DecidableEq, Repr

/-- What is reported; of a malformed text at most 200 characters are shown, its quotes included. -/
def Error.message : Error → String
  | .malformed text =>
    "invalid literal for int() with base 10: " ++ String.ofList ((quoted text).take 200)
  | .tooManyDigits digits =>
    s!"Exceeds the limit ({maxDigits} digits) for integer string conversion: value has " ++
      s!"{digits} digits; use sys.set_int_max_str_digits() to increase the limit"

/-- The value of a run of decimal digits; other characters count as zero. -/
def value (cs : List Char) : Nat :=
  cs.foldl (fun n c => 10 * n + (decimalDigit? c).getD 0) 0

/-- Reads a text of decimal digits. The length is checked on the leading run of digits, before
what follows the run is looked at. -/
def readNat (cs : List Char) : Except Error Nat :=
  let run := cs.takeWhile isDecimal
  if maxDigits < run.length then .error (.tooManyDigits run.length)
  else if run.length < cs.length || cs.isEmpty then .error (.malformed cs)
  else .ok (value cs)

/-- Blanks around a numeral. The separator controls `U+001C` to `U+001F` are not among them. -/
def isBlankAround (c : Char) : Bool := isBlank c && !('\x1c' ≤ c && c ≤ '\x1f')

def trim (cs : List Char) : List Char :=
  ((cs.dropWhile isBlankAround).reverse.dropWhile isBlankAround).reverse

/-- The text without its underscores, which may only stand between two decimal digits. -/
def joinGroups? : List Char → Option (List Char)
  | [] => some []
  | c :: '_' :: d :: rest =>
    if isDecimal c && isDecimal d then (joinGroups? (d :: rest)).map (c :: ·) else none
  | c :: rest => if c = '_' then none else (joinGroups? rest).map (c :: ·)

/-- An optional sign: whether it is a minus, and the text after it. -/
def splitSign : List Char → Bool × List Char
  | '-' :: rest => (true, rest)
  | '+' :: rest => (false, rest)
  | cs => (false, cs)

/-- Reads a whole number as a command line gives it: blanks around it, a sign, and single
underscores between digits are accepted. -/
def readInt? (cs : List Char) : Option Int := do
  let (negative, body) := splitSign (trim cs)
  let digits ← joinGroups? body
  match readNat digits with
  | .ok n => some (if negative then -(n : Int) else n)
  | .error _ => none

def digits (n : Nat) : List Char := Nat.toDigits 10 n

@[simp] theorem readNat_nil : readNat [] = .error (.malformed []) := by
  simp [readNat, maxDigits]

end ScionEcho.Numeral
