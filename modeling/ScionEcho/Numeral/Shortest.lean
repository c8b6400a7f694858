import ScionEcho.Numeral.Binary64

/-!
# The shortest decimal of a double

Among the decimals that read back as a given double, the one with the fewest digits, and of
several such the nearest. Every real between the two midpoints to the neighbouring doubles reads
back, the midpoints themselves exactly when the significand is even. On the grid of decimals with
`n` digits it is enough to look at the two neighbours of the value: if any point of the grid lies
between the midpoints, so does one of them.
-/

namespace ScionEcho.Binary64

/-- The number `digits * 10 ^ exponent`. -/
structure Decimal where
  digits : Nat
  exponent : Int
  deriving DecidableEq, Repr

/-- The reals that read back as `significand * 2 ^ exponent`, in quarters of the last binary
place: the lower end, the upper end, and whether the ends belong to it. Below a power of two the
doubles lie twice as dense. -/
def readBackInterval (significand : Nat) (exponent : Int) : Nat × Nat × Bool :=
  let lower :=
    if significand = hiddenBit && minExponent < exponent then 4 * significand - 1
    else 4 * significand - 2
  (lower, 4 * significand + 2, significand % 2 = 0)

/-- The decimal exponent `e` with `10 ^ e ≤ significand * 2 ^ exponent < 10 ^ (e + 1)`. -/
def decimalExponent (significand : Nat) (exponent : Int) : Int :=
  let guess := ((significand.log2 + exponent) * 30103).fdiv 100000
  let atLeast (e : Int) : Bool :=
    Nat.pow 10 e.toNat * Nat.pow 2 (-exponent).toNat ≤
      significand * Nat.pow 2 exponent.toNat * Nat.pow 10 (-e).toNat
  if atLeast (guess + 1) then guess + 1 else if atLeast guess then guess else guess - 1

/-- The multiple of `10 ^ k` that reads back as `significand * 2 ^ exponent`, if there is one, in
units of `10 ^ k`: of two, the nearer, and the even one of two equally near. -/
def gridPoint? (significand : Nat) (exponent k : Int) : Option Nat :=
  let (lower, upper, closed) := readBackInterval significand exponent
  let unit := Nat.pow 10 k.toNat * Nat.pow 2 (-exponent).toNat
  let scale := Nat.pow 2 exponent.toNat * Nat.pow 10 (-k).toNat
  let readsBack (d : Nat) : Bool :=
    let x := 4 * d * unit
    if closed then lower * scale ≤ x && x ≤ upper * scale
    else lower * scale < x && x < upper * scale
  let nearest := roundDiv (significand * scale) unit
  let below := significand * scale / unit
  [nearest, below, below + 1].find? readsBack

/-- The first hit on the grids with `n`, `n + 1`, … digits, `count` grids in all. -/
def firstHit (significand : Nat) (exponent top : Int) : Nat → Nat → Option Decimal
  | 0, _ => none
  | count + 1, n =>
    let k := top + 1 - n
    match gridPoint? significand exponent k with
    | some d => some ⟨d, k⟩
    | none => firstHit significand exponent top count (n + 1)

/-- The shortest decimal of a positive double. Seventeen digits always suffice. -/
def shortest (significand : Nat) (exponent : Int) : Decimal :=
  (firstHit significand exponent (decimalExponent significand exponent) 17 1).getD
    ⟨significand, 0⟩

/-- A decimal as its digits without trailing zeros and the place of its point: the number of
digits in front of it, which is negative if zeros stand between the point and the digits. -/
def Decimal.toDigits (d : Decimal) : List Char × Int :=
  let cs := Nat.toDigits 10 d.digits
  let kept := (cs.reverse.dropWhile (· = '0')).reverse
  (kept, cs.length + d.exponent)

end ScionEcho.Binary64
