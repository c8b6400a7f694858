import ScionEcho.Numeral.Binary64
import ScionEcho.Text.Hex

/-!
# Decimals with a fixed number of places

A double written with a given number of places after the point. The exact binary value is rounded,
and a tie goes to the even last digit. The sign is written whenever the double carries one, also
before a zero.
-/

namespace ScionEcho.Binary64

/-- `num / den` with `places` digits after the point. -/
def fixedRatio (places num den : Nat) : List Char :=
  let cs := Text.zeroPad (places + 1) (Nat.toDigits 10 (roundDiv (num * Nat.pow 10 places) den))
  let whole := cs.take (cs.length - places)
  if places = 0 then whole else whole ++ '.' :: cs.drop (cs.length - places)

/-- A double with `places` digits after the point. -/
def fixed (places : Nat) (x : Float) : String :=
  match decode x with
  | .nan => "nan"
  | .infinite negative => if negative then "-inf" else "inf"
  | .finite negative significand exponent =>
    let text := fixedRatio places (significand * Nat.pow 2 exponent.toNat) (Nat.pow 2 (-exponent).toNat)
    String.ofList (if negative then '-' :: text else text)

end ScionEcho.Binary64
