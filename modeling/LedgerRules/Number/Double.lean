import LedgerRules.Number.Rounding

/-!
# Doubles as exact numbers

A 64-bit binary number is kept as what it denotes: a sign, a significand and a
power of two, or an infinity, or the one value that is no number.  No machine
arithmetic is used; the only operation that loses anything is
`Double.ofQuotient`, which rounds an exact quotient to the nearest double.

Powers are written with `Nat.pow`: what `^` stands for depends on the instances
that are in scope.
-/

namespace LedgerRules

/-- `finite negative significand exponent` denotes `± significand · 2 ^
exponent`. -/
inductive Double where
  | nan
  | infinite (negative : Bool)
  | finite (negative : Bool) (significand : Nat) (exponent : Int)
deriving DecidableEq, Repr, Inhabited

namespace Double

/-- The spacing of the doubles nearest to zero is `2 ^ leastExponent`. -/
def leastExponent : Int := -1074

/-- The spacing of the largest doubles is `2 ^ greatestExponent`. -/
def greatestExponent : Int := 971

def scaled (numerator denominator : Nat) (exponent : Int) : Nat × Nat :=
  if exponent < 0 then (numerator <<< (-exponent).toNat, denominator)
  else (numerator, denominator <<< exponent.toNat)

/-- The exponent of the doubles around `numerator / denominator`: the quotient
holds at most 53 bits in units of `2 ^ exponent`, and exactly 53 unless the
exponent is the least one. -/
def exponentOf (numerator denominator : Nat) : Int :=
  let start :=
    max leastExponent ((numerator.log2 : Int) - denominator.log2 - 53)
  let (dividend, divisor) := scaled numerator denominator start
  if dividend / divisor < Nat.pow 2 53 then start else start + 1

/-- The finite double with a significand of at most 53 bits, or the infinity
when the exponent is past the greatest one. -/
def pack (negative : Bool) (significand : Nat) (exponent : Int) : Double :=
  if greatestExponent < exponent then .infinite negative
  else .finite negative significand exponent

/-- The double nearest to `± numerator / denominator`; a quotient halfway
between two doubles goes to the one with the even significand. -/
def ofQuotient (negative : Bool) (numerator denominator : Nat) : Double :=
  if numerator = 0 then .finite negative 0 leastExponent
  else
    let exponent := exponentOf numerator denominator
    let (dividend, divisor) := scaled numerator denominator exponent
    let significand := roundHalfEven dividend divisor
    if significand = Nat.pow 2 53 then
      pack negative (Nat.pow 2 52) (exponent + 1)
    else pack negative significand exponent

/-- The double nearest to a whole number. -/
def ofInt (number : Int) : Double :=
  ofQuotient (number < 0) number.natAbs 1

def isFinite : Double → Bool
  | .finite .. => true
  | _ => false

/-- The common scale that turns two exponents into whole shifts. -/
private def aligned (significand : Nat) (exponent common : Int) : Nat :=
  significand <<< (exponent - common).toNat

/-- The signed value of a finite double in units of `2 ^ common`, for a `common`
exponent that is not above its own. -/
def units (negative : Bool) (significand : Nat) (exponent common : Int) : Int :=
  let magnitude : Int := aligned significand exponent common
  if negative then -magnitude else magnitude

/-- Numeric order.  Nothing is comparable with `nan`; the two zeros are
equal. -/
def compare? : Double → Double → Option Ordering
  | .nan, _ | _, .nan => none
  | .infinite left, .infinite right =>
      some (if left = right then .eq else if left then .lt else .gt)
  | .infinite left, .finite .. => some (if left then .lt else .gt)
  | .finite .., .infinite right => some (if right then .gt else .lt)
  | .finite leftSign left leftExponent, .finite rightSign right rightExponent =>
      let common := min leftExponent rightExponent
      some (compare (units leftSign left leftExponent common)
        (units rightSign right rightExponent common))

/-- Whether the left number is strictly above the right one. -/
def exceeds (left right : Double) : Bool :=
  compare? left right = some .gt

/-- Whether two doubles denote one number. -/
def sameNumber (left right : Double) : Bool :=
  compare? left right = some .eq

/-- Zero has no sign once it is stored. -/
def unsignedZero : Double → Double
  | .finite _ 0 exponent => .finite false 0 exponent
  | double => double

end Double

end LedgerRules
