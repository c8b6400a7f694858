/-!
# Binary floating point in exact arithmetic

A double is decoded into a sign, a whole significand and a power of two, and a quotient of whole
numbers is rounded to the nearest double, a tie going to the even significand. Everything here
is computed on whole numbers, so that no rounding hides in an intermediate step.
-/

namespace ScionEcho.Binary64

/-- What the bits of a double mean. -/
inductive Decoded
  /-- The number `± significand * 2 ^ exponent`. -/
  | finite (negative : Bool) (significand : Nat) (exponent : Int)
  | infinite (negative : Bool)
  | nan
  deriving DecidableEq, Repr

/-- The least exponent of a significand. -/
def minExponent : Int := -1074

/-- The significands of normal numbers start here, at the power of 2 with exponent 52. -/
def hiddenBit : Nat := 0x10000000000000

/-- The sign is the highest of the 64 bits. -/
def signBit : Nat := 0x8000000000000000

/-- The exponent field of infinities and of values that are not numbers. -/
def specialField : Nat := 2047

def decodeBits (bits : Nat) : Decoded :=
  let negative := bits / signBit % 2 = 1
  let field := bits / hiddenBit % 2048
  let fraction := bits % hiddenBit
  if field = specialField then if fraction = 0 then .infinite negative else .nan
  else if field = 0 then .finite negative fraction minExponent
  else .finite negative (hiddenBit + fraction) (field - 1075)

def decode (x : Float) : Decoded := decodeBits x.toBits.toNat

/-- The quotient rounded to the nearest whole number, a tie going to the even one. -/
def roundDiv (num den : Nat) : Nat :=
  let q := num / den
  let twice := 2 * (num % den)
  if den < twice || (twice = den && q % 2 = 1) then q + 1 else q

/-- `num / den` as `num' / den'` with `num' / den' = num / den / 2 ^ e`. -/
def scaleDown (num den : Nat) (e : Int) : Nat × Nat :=
  (num * Nat.pow 2 (-e).toNat, den * Nat.pow 2 e.toNat)

/-- The exponent for which the significand of `num / den` lies in `[2 ^ 52, 2 ^ 53)`, but no less
than the least exponent. -/
def exponentOf (num den : Nat) : Int :=
  let guess : Int := (num.log2 : Int) - den.log2 - 52
  let (n, d) := scaleDown num den guess
  max minExponent (if n < d * hiddenBit then guess - 1 else guess)

/-- The bits of the double nearest to `num / den`; none if the nearest number with a significand
of 53 bits is beyond the largest double. -/
def ratioBits? (num den : Nat) : Option Nat :=
  if num = 0 then some 0
  else
    let e := exponentOf num den
    let (n, d) := scaleDown num den e
    let significand := roundDiv n d
    let bits :=
      if significand < hiddenBit then significand
      else (e + 1075).toNat * hiddenBit + (significand - hiddenBit)
    if bits < specialField * hiddenBit then some bits else none

/-- The double with the given sign and the given bits below the sign. -/
def ofSignBits (negative : Bool) (bits : Nat) : Float :=
  Float.ofBits (UInt64.ofNat (if negative then bits + signBit else bits))

/-- The double nearest to `num / den`, if it is in range. -/
def ofRatio? (num : Int) (den : Nat) : Option Float :=
  (ratioBits? num.natAbs den).map (ofSignBits (num < 0))

/-- The double nearest to a whole number, if it is in range. -/
def ofInt? (n : Int) : Option Float := ofRatio? n 1

/-- The double nearest to `mantissa * 10 ^ exponent`; infinite if that is out of range. Exponents
far outside the range of doubles are settled without computing the power. -/
def ofDecimal (negative : Bool) (mantissa : Nat) (exponent : Int) : Float :=
  let size : Int := (Nat.toDigits 10 mantissa).length + exponent
  let bits :=
    if mantissa = 0 || size < -400 then 0
    else
      let infinity := specialField * hiddenBit
      if 400 < size then infinity
      else (ratioBits? (mantissa * Nat.pow 10 exponent.toNat) (Nat.pow 10 (-exponent).toNat)).getD infinity
  ofSignBits negative bits

/-- How a double compares with zero; nothing for a value that is not a number. -/
def sign? (x : Float) : Option Ordering :=
  match decode x with
  | .nan => none
  | .infinite negative => some (if negative then .lt else .gt)
  | .finite negative significand _ =>
    some (if significand = 0 then .eq else if negative then .lt else .gt)

end ScionEcho.Binary64
