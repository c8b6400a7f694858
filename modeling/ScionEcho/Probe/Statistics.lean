import ScionEcho.Numeral.Binary64
import ScionEcho.Numeral.NumberError

/-!
# Statistics in floating point

Sums, means and deviations of doubles. A sum is built pairwise, in an order that depends on the
number of terms alone, so that its rounding is reproducible.
-/

namespace ScionEcho.Statistics

/-- The quotient of two whole numbers, rounded once. -/
def quotient (num : Int) (den : Nat) : Except NumberError Float :=
  if den = 0 then .error .divisionByZero
  else
    match Binary64.ofRatio? num den with
    | some x => .ok x
    | none => .error .quotientTooLarge

def toFloat (n : Int) : Except NumberError Float :=
  match Binary64.ofInt? n with
  | some x => .ok x
  | none => .error .tooLarge

/-- Up to this many terms are summed without splitting them. -/
def blockSize : Nat := 128

/-- The number of accumulators in a block. -/
def lanes : Nat := 8

/-- The sum from the left, started with a negative zero, which changes no sum. -/
def sumLeft (xs : List Float) : Float := xs.foldl (· + ·) (-0.0)

/-- The rows of eight terms; what is left over is dropped. -/
def rows : Nat → List Float → List (List Float)
  | 0, _ => []
  | count + 1, xs => xs.take lanes :: rows count (xs.drop lanes)

/-- The sum of up to `blockSize` terms: column sums over rows of eight terms, added up in a tree,
and then the remaining terms one by one. -/
def sumBlock (xs : List Float) : Float :=
  if xs.length < lanes then sumLeft xs
  else
    let count := xs.length / lanes
    match rows count xs with
    | [] => sumLeft xs
    | first :: others =>
      match others.foldl (List.zipWith (· + ·)) first with
      | [a, b, c, d, e, f, g, h] =>
        (xs.drop (count * lanes)).foldl (· + ·)
          (((a + b) + (c + d)) + ((e + f) + (g + h)))
      | _ => sumLeft xs

/-- The sum of any number of terms: more than a block are split near the middle, at a multiple of
eight. -/
def sum (xs : List Float) : Float :=
  if _short : xs.length ≤ blockSize then sumBlock xs
  else
    let half := xs.length / 2 / lanes * lanes
    sum (xs.take half) + sum (xs.drop half)
termination_by xs.length
decreasing_by
  all_goals simp only [blockSize, lanes, List.length_take, List.length_drop] at *
  all_goals omega

def mean (xs : List Float) : Float := sum xs / Float.ofNat xs.length

/-- The standard deviation from the mean, over all terms. -/
def deviation (xs : List Float) : Float :=
  let m := mean xs
  (sum (xs.map fun x => (x - m) * (x - m)) / Float.ofNat xs.length).sqrt

def minimum (x : Float) (xs : List Float) : Float :=
  xs.foldl (fun least y => if y < least then y else least) x

def maximum (x : Float) (xs : List Float) : Float :=
  xs.foldl (fun greatest y => if greatest < y then y else greatest) x

end ScionEcho.Statistics
