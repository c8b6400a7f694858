/-!
# Numbers that cannot be computed

The computations on samples and times that have no result, because nothing is left to divide by or
because a whole number is beyond the largest double.
-/

namespace ScionEcho

inductive NumberError
  | divisionByZero
  /-- The quotient of two whole numbers is beyond the largest double. -/
  | quotientTooLarge
  | tooLarge
  /-- There is no least or greatest of no numbers. -/
  | noMinimum
  deriving DecidableEq, Repr

def NumberError.message : NumberError → String
  | .divisionByZero => "division by zero"
  | .quotientTooLarge => "integer division result too large for a float"
  | .tooLarge => "int too large to convert to float"
  | .noMinimum => "zero-size array to reduction operation minimum which has no identity"

end ScionEcho
