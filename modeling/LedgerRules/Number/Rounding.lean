/-!
# Rounding a quotient to a whole number

A quotient of natural numbers is rounded to the nearest whole number, and a
quotient that lies halfway goes to the even neighbour.  Doubles and fixed
decimal places are both defined through this one function.
-/

namespace LedgerRules

/-- The whole number nearest to `numerator / denominator`; a half goes to the
even neighbour. -/
def roundHalfEven (numerator denominator : Nat) : Nat :=
  let quotient := numerator / denominator
  let remainder := numerator % denominator
  if 2 * remainder < denominator then quotient
  else if denominator < 2 * remainder then quotient + 1
  else quotient + quotient % 2

/-- The number of decimal digits of a positive number, and zero for zero. -/
def decimalLength (number : Nat) : Nat :=
  if number = 0 then 0 else decimalLength (number / 10) + 1
decreasing_by omega

end LedgerRules
