import ScionEcho.Numeral.Shortest
import ScionEcho.Probe.Result

/-!
# Points in line protocol

A point is one line: the name of the measurement, its tags, and its fields, tags and fields each
in the order of their keys. Integers end in `i`; a double is written with the fewest digits that
read back, and one that is not finite is left out.
-/

namespace ScionEcho

inductive FieldValue
  | integer (n : Int)
  | real (x : Float)

structure Point where
  measurement : String
  tags : List (String × String)
  fields : List (String × FieldValue)

namespace Point

/-- How a character is written in a key or a tag. -/
def escapeChar (c : Char) : List Char :=
  match c with
  | '\n' => ['\\', 'n']
  | '\t' => ['\\', 't']
  | '\r' => ['\\', 'r']
  | ' ' | ',' | '=' => ['\\', c]
  | c => [c]

def escapeKey (key : String) : String := String.ofList (key.toList.flatMap escapeChar)

/-- The value of a tag as it is written. A backslash at the end would join with what follows, so
that a space is put behind it. -/
def escapeTag (value : String) : String :=
  let escaped := value.toList.flatMap escapeChar
  String.ofList (if escaped.getLast? = some '\\' then escaped ++ [' '] else escaped)

/-- The digits of a double with its point. Doubles from `1e-4` up to below `1e16` are written
without an exponent, and one without a fraction without a point. -/
def digitsText (digits : List Char) (point : Int) : List Char :=
  if -4 < point ∧ point ≤ 16 then
    if point ≤ 0 then
      '0' :: '.' :: List.replicate (-point).toNat '0' ++ digits
    else if digits.length ≤ point.toNat then
      digits ++ List.replicate (point.toNat - digits.length) '0'
    else digits.take point.toNat ++ '.' :: digits.drop point.toNat
  else
    let mantissa :=
      match digits with
      | [] => []
      | [d] => [d]
      | d :: rest => d :: '.' :: rest
    let exponent := point - 1
    mantissa ++ 'e' :: (if exponent < 0 then '-' else '+') ::
      Text.zeroPad 2 (Nat.toDigits 10 exponent.natAbs)

/-- A finite double as a field holds it. -/
def realText? (x : Float) : Option (List Char) :=
  match Binary64.decode x with
  | .nan | .infinite _ => none
  | .finite negative significand exponent =>
    let text :=
      if significand = 0 then ['0']
      else
        let (digits, point) := (Binary64.shortest significand exponent).toDigits
        digitsText digits point
    some (if negative then '-' :: text else text)

def fieldText? : FieldValue → Option String
  | .integer n => some s!"{n}i"
  | .real x => (realText? x).map String.ofList

def byKey {α : Type} (items : List (String × α)) : List (String × α) :=
  items.mergeSort fun a b => a.1 ≤ b.1

def line (p : Point) : String :=
  let tags := (byKey p.tags).filter fun (key, value) => key ≠ "" && value ≠ ""
  let fields := (byKey p.fields).filterMap fun (key, value) =>
    (fieldText? value).map fun text => s!"{escapeKey key}={text}"
  p.measurement ++
    String.join (tags.map fun (key, value) => s!",{escapeKey key}={escapeTag value}") ++
    " " ++ ",".intercalate fields

end Point

end ScionEcho
