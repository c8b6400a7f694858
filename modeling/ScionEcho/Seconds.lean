import ScionEcho.Numeral.Fixed
import ScionEcho.Numeral.NumberError

/-!
# Durations in seconds

A duration is given as a whole number or as a double. How it compares with zero is decided on the
number itself; only waiting for it and showing it need a double.
-/

namespace ScionEcho

/-- A number of seconds. -/
inductive Seconds
  | whole (n : Int)
  | real (x : Float)

namespace Seconds

/-- How a duration compares with zero; nothing for a value that is not a number. -/
def sign? : Seconds → Option Ordering
  | .whole n => some (compare n 0)
  | .real x => Binary64.sign? x

def isPositive (s : Seconds) : Bool := s.sign? = some .gt

def isNegative (s : Seconds) : Bool := s.sign? = some .lt

/-- Whether a duration is zero or less. A value that is not a number is neither this nor
positive. -/
def isNonpositive (s : Seconds) : Bool := s.sign? = some .lt || s.sign? = some .eq

def toFloat : Seconds → Except NumberError Float
  | .real x => .ok x
  | .whole n =>
    match Binary64.ofInt? n with
    | some x => .ok x
    | none => .error .tooLarge

/-- The double with three places after the point, as messages show it. -/
def shown (x : Float) : String := Binary64.fixed 3 x

theorem isNonpositive_of_isPositive {s : Seconds} (h : s.isPositive = true) :
    s.isNonpositive = false := by
  simp_all [isPositive, isNonpositive]

end Seconds

end ScionEcho
