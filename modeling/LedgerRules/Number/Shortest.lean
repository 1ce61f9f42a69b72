import LedgerRules.Number.Double

/-!
# The shortest digits of a double

Every real number in a small interval around a double reads back as that
double.  Among the decimals in the interval the ones with the fewest digits are
preferred, and among those the one nearest to the double.  On the decimal grid
with a given number of digits only the two neighbours of the double have to be
tried: if any point of the grid lies in the interval, one of them does.
-/

namespace LedgerRules

/-- `digits · 10 ^ exponent`, with the last digit not zero unless the number
is. -/
structure Scientific where
  digits : Nat
  exponent : Int
deriving DecidableEq, Repr

namespace Scientific

/-- Drops trailing zeros, each into the exponent. -/
def trimmed (digits : Nat) (exponent : Int) : Scientific :=
  if digits = 0 then ⟨0, 0⟩
  else if digits % 10 = 0 then trimmed (digits / 10) (exponent + 1)
  else ⟨digits, exponent⟩
termination_by digits
decreasing_by omega

end Scientific

namespace Double

/-- The interval that reads back as a positive double, in quarters of its unit:
`centre / scale` is the number, and `low` and `high` are its ends over the same
scale.  The ends belong to the interval exactly when the significand is even. -/
structure Interval where
  low : Nat
  centre : Nat
  high : Nat
  scale : Nat
  closed : Bool
deriving DecidableEq, Repr

/-- The interval of a positive finite double.  Below a power of two the doubles
are twice as dense, so the lower half-gap is a quarter of the unit. -/
def interval (significand : Nat) (exponent : Int) : Interval :=
  let lowerGap := if significand = Nat.pow 2 52 ∧
    leastExponent < exponent then 1 else 2
  let quarter := exponent - 2
  let unit := if quarter < 0 then 1 else 1 <<< quarter.toNat
  { low := (4 * significand - lowerGap) * unit
    centre := 4 * significand * unit
    high := (4 * significand + 2) * unit
    scale := if quarter < 0 then 1 <<< (-quarter).toNat else 1
    closed := significand % 2 = 0 }

/-- The exponent of the leading decimal digit of `centre / scale`. -/
def leadingExponent (centre scale : Nat) : Int :=
  if scale ≤ centre then (decimalLength (centre / scale) : Int) - 1
  else -(decimalLength ((scale - 1) / centre) : Int)

/-- Whether `digits · power` lies in an interval whose ends are over the same
scale. -/
def Interval.holds (interval : Interval) (low point high : Nat) : Bool :=
  if interval.closed then low ≤ point && point ≤ high
  else low < point && point < high

/-- The neighbour of the double on the grid of multiples of `10 ^ exponent` that
reads back as the double, the nearer one if both do. -/
def gridPoint (interval : Interval) (exponent : Int) : Option Nat :=
  let up := if exponent < 0 then Nat.pow 10 (-exponent).toNat else 1
  let step := if exponent < 0 then interval.scale else interval.scale *
    Nat.pow 10 exponent.toNat
  let centre := interval.centre * up
  let low := interval.low * up
  let high := interval.high * up
  let below := centre / step
  let lowHit := interval.holds low (below * step) high
  let highHit := interval.holds low ((below + 1) * step) high
  let remainder := centre % step
  if lowHit && highHit then
    if 2 * remainder < step then some below
    else if step < 2 * remainder then some (below + 1)
    else some (below + below % 2)
  else if lowHit then some below
  else if highHit then some (below + 1)
  else none

/-- The first grid with a hit, trying `remaining` more digit counts. -/
def firstHit (interval : Interval) (leading : Int) (remaining digits : Nat) :
    Scientific :=
  let exponent := leading - digits + 1
  match gridPoint interval exponent, remaining with
  | some point, _ => .trimmed point exponent
  | none, 0 => .trimmed (interval.centre / interval.scale) 0
  | none, remaining + 1 => firstHit interval leading remaining (digits + 1)

/-- The shortest decimal that reads back as `significand · 2 ^ exponent`, and of
the shortest ones the nearest. -/
def shortest (significand : Nat) (exponent : Int) : Scientific :=
  if significand = 0 then ⟨0, 0⟩
  else
    let interval := interval significand exponent
    firstHit interval (leadingExponent interval.centre interval.scale) 16 1

end Double

end LedgerRules
