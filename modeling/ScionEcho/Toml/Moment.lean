import ScionEcho.Numeral.Real
import ScionEcho.Toml.ReadError

/-!
# Moments in time

Dates, times of the day, and both together. Only their kind is kept, so that reading one means to
check that it exists.
-/

namespace ScionEcho.Toml

open Numeral

/-! ### Times of the day -/

/-- The number of two decimal digits. -/
def twoDigits? (a b : Char) : Option Nat :=
  if a.isDigit && b.isDigit then some (value [a, b]) else none

/-- The hour, the minute and the second with which a text begins. -/
def clock? : List Char → Option (Nat × Nat × Nat)
  | a :: b :: ':' :: c :: d :: ':' :: e :: f :: _ => do
    return (← twoDigits? a b, ← twoDigits? c d, ← twoDigits? e f)
  | _ => none

/-- Whether there is such a time of the day. -/
def isClock (hour minute second : Int) : Bool :=
  0 ≤ hour && hour < 24 && 0 ≤ minute && minute < 60 && 0 ≤ second && second < 60

/-! ### Dates -/

def daysInMonth (year month : Int) : Int :=
  if month = 2 then
    if year % 4 = 0 && (year % 100 ≠ 0 || year % 400 = 0) then 29 else 28
  else if month = 4 || month = 6 || month = 9 || month = 11 then 30
  else 31

/-- Whether there is such a day. -/
def isDay (year month day : Int) : Bool :=
  1 ≤ year && year ≤ 9999 && 1 ≤ month && month ≤ 12 && 1 ≤ day && day ≤ daysInMonth year month

/-- The number in the columns of a text from `start` up to `stop`. -/
def column? (start stop : Nat) (cs : List Char) : Option Int :=
  readInt? ((cs.drop start).take (stop - start))

/-- Whether the first ten characters of a text are a date. -/
def beginsWithDate (cs : List Char) : Bool :=
  match column? 0 4 cs, column? 5 7 cs, column? 8 10 cs with
  | some year, some month, some day => isDay year month day
  | _, _, _ => false

/-- Whether the characters after the date and a separator are a time of the day. -/
def goesOnWithClock (cs : List Char) : Bool :=
  match column? 11 13 cs, column? 14 16 cs, column? 17 19 cs with
  | some hour, some minute, some second => isClock hour minute second
  | _, _, _ => false

/-! ### Fractions of a second -/

/-- The fraction of a second and the offset with which a text ends that goes on after a point. -/
def splitOffset (cs : List Char) : List Char × Option (List Char) :=
  let splitAtSign (sign : Char) : List Char × Option (List Char) :=
    (cs.takeWhile (· ≠ sign), some (cs.dropWhile (· ≠ sign)))
  if cs.getLast?.any fun c => c = 'Z' || c = 'z' then (cs.dropLast, none)
  else if '+' ∈ cs then splitAtSign '+'
  else if '-' ∈ cs then splitAtSign '-'
  else (cs, none)

/-- Whether a text is an offset: its hours and its minutes are numbers. -/
def isOffset (cs : List Char) : Bool := (column? 1 3 cs).isSome && (column? 4 6 cs).isSome

/-- Whether a fraction is less than a second. One that is no number is taken to be zero. More than
six digits are scaled as a double. -/
def fractionFits (digits : List Char) : Reading Bool :=
  match readInt? digits with
  | none => .ok true
  | some n =>
    if digits.length ≤ 6 then .ok (0 ≤ n)
    else
      match Binary64.ofInt? n with
      | none => stuck (.number .tooLarge)
      | some x =>
        let micros := x * Binary64.ofDecimal false 1 (6 - digits.length)
        .ok (-1.0 < micros && micros < 1000000.0)

/-- Whether what follows the seconds of a moment allows it. Only a fraction can prevent it, and
only if the offset after it is one. -/
def tailFits (cs : List Char) : Reading Bool :=
  match cs with
  | '.' :: rest =>
    let (digits, offset?) := splitOffset rest
    if offset?.all isOffset then fractionFits digits else .ok true
  | _ => .ok true

/-! ### Moments -/

/-- Reads a date: one of ten characters stands alone, after any other a time of the day has to
follow. -/
def readDate (cs : List Char) : Reading (Option MomentKind) := do
  let fits ← tailFits (cs.drop 19)
  if '-' ∉ cs.tail || !beginsWithDate cs then return none
  else if cs.length = 10 then return some .date
  else if goesOnWithClock cs && fits then return some .dateTime
  else return none

end ScionEcho.Toml
