import ScionEcho.Address.ParseError
import ScionEcho.Text.Split

/-!
# ISD-AS pairs

An autonomous system is named by its isolation domain (ISD) and its number in it (AS). The pair
is written `ISD-AS`; AS numbers up to `2 ^ 32 - 1` are decimal, larger ones are three groups of
hexadecimal digits. On the wire the pair is one 64-bit word, 16 bits for the ISD and 48 bits for
the AS.
-/

namespace ScionEcho

open Text Address

/-- An ISD-AS pair. The parts are integers without bounds: only reading a text and putting the
pair on the wire enforce a range. -/
structure IsdAs where
  isd : Int
  asn : Int
  deriving DecidableEq, Repr

namespace IsdAs

def maxIsd : Nat := 0xffff

/-- The largest AS number that is written in decimal. -/
def maxDecimalAs : Nat := 0xffffffff

def asCount : Nat := 0x1000000000000

/-! ### The 64-bit form -/

/-- Bitwise or of integers in two's complement. -/
def bitOr : Int → Int → Int
  | .ofNat a, .ofNat b => .ofNat (a ||| b)
  | .ofNat a, .negSucc b => .negSucc (b - (b &&& a))
  | .negSucc a, .ofNat b => .negSucc (a - (a &&& b))
  | .negSucc a, .negSucc b => .negSucc (a &&& b)

/-- The pair as one number: the ISD above 48 bits, joined with the AS. The low 48 bits of the AS
stand alone; what exceeds them meets the ISD. -/
def toInt (ia : IsdAs) : Int :=
  bitOr ia.isd (ia.asn / asCount) * asCount + ia.asn % asCount

/-- The pair whose 64-bit form is `n`; for a number outside 64 bits the ISD takes the excess. -/
def ofInt (n : Int) : IsdAs := ⟨n / asCount, n % asCount⟩

/-! ### Text -/

def toChars (ia : IsdAs) : List Char :=
  (toString ia.isd).toList ++ '-' ::
    if ia.asn ≤ maxDecimalAs then (toString ia.asn).toList
    else
      let n := ia.asn.toNat
      join ':' [hexDigits (n / 0x100000000), hexDigits (n / 0x10000 % 0x10000),
        hexDigits (n % 0x10000)]

instance : ToString IsdAs := ⟨fun ia => String.ofList ia.toChars⟩

/-- Reads a run of digits as a number of at most `limit`; otherwise the result is `refused`. -/
def readDecimal (refused : ParseError) (limit : Nat) (cs : List Char) : Except ParseError Nat :=
  if !allDigits cs then .error refused
  else
    match Numeral.readNat cs with
    | .error cause => .error (.numeral cause)
    | .ok n => if limit < n then .error refused else .ok n

/-- Whether a text is a group of one to four hexadecimal digits. A line feed may follow them. -/
def isGroup (cs : List Char) : Bool :=
  let ds := if cs.getLast? = some '\n' then cs.dropLast else cs
  1 ≤ ds.length && ds.length ≤ 4 && ds.all isHex

def groupValue (cs : List Char) : Nat := hexNumber (cs.filter isHex)

def readAs (text cs : List Char) : Except ParseError Nat :=
  if ':' ∉ cs then readDecimal (.asn cs text) maxDecimalAs cs
  else
    let groups := splitOn ':' cs
    if groups.length = 3 && groups.all isGroup then
      .ok (groups.foldl (fun n g => 0x10000 * n + groupValue g) 0)
    else .error (.asn cs text)

def read (text : List Char) : Except ParseError IsdAs :=
  match cut '-' text with
  | (isdText, some asText) =>
    if isdText.isEmpty || asText.isEmpty then .error (.isdAs text)
    else do
      let isd ← readDecimal (.isd isdText text) maxIsd isdText
      let asn ← readAs text asText
      return ⟨isd, asn⟩
  | (_, none) => .error (.isdAs text)

def parse (text : String) : Except ParseError IsdAs := read text.toList

theorem bitOr_zero (n : Int) : bitOr n 0 = n := by
  cases n <;> simp [bitOr, -Int.ofNat_eq_natCast]

@[simp] theorem ofInt_isd (n : Int) : (ofInt n).isd = n / asCount := rfl

@[simp] theorem ofInt_asn (n : Int) : (ofInt n).asn = n % asCount := rfl

end IsdAs

end ScionEcho
