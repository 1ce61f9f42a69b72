import LedgerRules.Number.Shortest

/-!
# Exact decimals

Amounts of money are decimals that keep the digits they were written with:
`1.50` and `1.5` denote one number and are two decimals.  A decimal may also be
an infinity or a value that is no number.  Comparison is exact and never raises
a power of ten beyond the digits that are there; comparing with a value that is
no number has no answer.
-/

namespace LedgerRules

/-- `finite negative coefficient exponent` denotes `± coefficient · 10 ^
exponent`.  A value that is no number may be a signalling one and carries digits
of its own. -/
inductive Decimal where
  | finite (negative : Bool) (coefficient : Nat) (exponent : Int)
  | infinite (negative : Bool)
  | nan (negative signalling : Bool) (payload : Nat)
deriving DecidableEq, Repr, Inhabited

namespace Decimal

/-- A whole number with no digits after the point. -/
def ofInt (number : Int) : Decimal :=
  .finite (number < 0) number.natAbs 0

def isFinite : Decimal → Bool
  | .finite .. => true
  | _ => false

def isNaN : Decimal → Bool
  | .nan .. => true
  | _ => false

/-- Whether the decimal is no number and may not even be tested for equality. -/
def isSignalling : Decimal → Bool
  | .nan _ signalling _ => signalling
  | _ => false

/-- The exponent of the leading digit; zero counts as one digit. -/
def adjusted (coefficient : Nat) (exponent : Int) : Int :=
  exponent + max 1 (decimalLength coefficient) - 1

/-- Compares the magnitudes of two numbers that are not zero: by the exponent of
the leading digit first, so that only the digits themselves are ever scaled. -/
def compareMagnitude (left : Nat) (leftExponent : Int) (right : Nat)
    (rightExponent : Int) : Ordering :=
  (compare (adjusted left leftExponent) (adjusted right rightExponent)).then
    (let common := min leftExponent rightExponent
     compare (left * Nat.pow 10 (leftExponent - common).toNat)
       (right * Nat.pow 10 (rightExponent - common).toNat))

def signum : Decimal → Int
  | .finite _ 0 _ => 0
  | .finite negative _ _ | .infinite negative | .nan negative _ _ =>
      if negative then -1 else 1

/-- Numeric order; nothing is comparable with a value that is no number. -/
def compare? : Decimal → Decimal → Option Ordering
  | .nan .., _ | _, .nan .. => none
  | left, right =>
      some ((compare left.signum right.signum).then
        (match left, right with
        | .finite negative coefficient exponent,
        .finite _ coefficient' exponent' =>
            if coefficient = 0 then .eq
            else
              let order := compareMagnitude coefficient exponent coefficient'
                exponent'
              if negative then order.swap else order
        | .infinite _, .infinite _ => .eq
        | .infinite negative, _ => if negative then .lt else .gt
        | _, .infinite negative => if negative then .gt else .lt
        | _, _ => .eq))

/-- Whether two decimals denote one number. -/
def sameNumber (left right : Decimal) : Bool :=
  compare? left right = some .eq

/-- The digits with a point `places` digits from their end, and zeros in front
where the digits do not reach it. -/
def withPoint (digits : String) (places : Nat) : String :=
  let padded :=
    String.ofList (List.replicate (places + 1 - digits.length) '0') ++ digits
  let whole := padded.length - places
  String.ofList (padded.toList.take whole) ++ "." ++ String.ofList
    (padded.toList.drop whole)

/-- The exponent with its sign always written. -/
def signedExponent (exponent : Int) : String :=
  if exponent < 0 then toString exponent else "+" ++ toString exponent

/-- The text of a number: plain digits while the exponent is not positive and
the leading digit stands no further than six places after the point, and
scientific with the point after the first digit otherwise. -/
def finiteText (coefficient : Nat) (exponent : Int) : String :=
  let digits := toString coefficient
  let leading := adjusted coefficient exponent
  if exponent ≤ 0 && -6 ≤ leading then
    if exponent = 0 then digits else withPoint digits (-exponent).toNat
  else
    let mantissa := if digits.length = 1 then digits else withPoint digits
      (digits.length - 1)
    mantissa ++ "E" ++ signedExponent leading

def text : Decimal → String
  | .finite negative coefficient exponent =>
      (if negative then "-" else "") ++ finiteText coefficient exponent
  | .infinite negative => (if negative then "-" else "") ++ "Infinity"
  | .nan negative signalling payload =>
      (if negative then "-" else "") ++ (if signalling then
        "sNaN" else "NaN") ++
        (if payload = 0 then "" else toString payload)

/-- Past this exponent of the leading digit every number rounds to an
infinity. -/
def overflowExponent : Int := 310

/-- Below this exponent of the leading digit every number rounds to zero. -/
def underflowExponent : Int := -330

def toDouble : Decimal → Double
  | .nan .. => .nan
  | .infinite negative => .infinite negative
  | .finite negative coefficient exponent =>
      let leading := adjusted coefficient exponent
      if coefficient = 0 ∨ leading < underflowExponent then
        .finite negative 0 Double.leastExponent
      else if overflowExponent < leading then .infinite negative
      else if exponent < 0 then
        .ofQuotient negative coefficient (Nat.pow 10 (-exponent).toNat)
      else .ofQuotient negative (coefficient * Nat.pow 10 exponent.toNat) 1

/-- A double is written positionally when its leading digit stands between these
two exponents, both included. -/
def positionalExponents : Int × Int := (-4, 15)

/-- The decimal whose text is the shortest text of a double.  A whole number
that is written positionally keeps one zero after the point. -/
def ofDouble : Double → Decimal
  | .nan => .nan false false 0
  | .infinite negative => .infinite negative
  | .finite negative significand exponent =>
      if significand = 0 then .finite negative 0 (-1)
      else
        let scientific := Double.shortest significand exponent
        let leading := adjusted scientific.digits scientific.exponent
        let positional := positionalExponents.1 ≤ leading && leading ≤
          positionalExponents.2
        if positional && 0 ≤ scientific.exponent then
          .finite negative
            (scientific.digits * Nat.pow 10 (scientific.exponent.toNat + 1))
            (-1)
        else .finite negative scientific.digits scientific.exponent

/-- The decimal with exactly `places` digits after the point that is nearest to
the exact value of a double. -/
def ofDoubleFixed (places : Nat) : Double → Decimal
  | .nan => .nan false false 0
  | .infinite negative => .infinite negative
  | .finite negative significand exponent =>
      let scaled := significand * Nat.pow 10 places
      let coefficient :=
        if exponent < 0 then roundHalfEven scaled (1 <<< (-exponent).toNat)
        else scaled <<< exponent.toNat
      .finite negative coefficient (-places)

end Decimal

namespace Double

/-- An exponent of ten with its sign and at least two digits. -/
def exponentText (exponent : Int) : String :=
  let digits := toString exponent.natAbs
  (if exponent < 0 then "-" else "+") ++ (if digits.length < 2 then
    "0" else "") ++ digits

/-- The shortest text that reads back as the double.  It is positional while the
leading digit stands between the fourth place after the point and the sixteenth
before it, and a whole number keeps one zero after the point. -/
def text : Double → String
  | .nan => "nan"
  | .infinite negative => if negative then "-inf" else "inf"
  | .finite negative significand exponent =>
      (if negative then "-" else "") ++
      (match Decimal.ofDouble (.finite false significand exponent) with
        | .finite _ coefficient place =>
            let leading := Decimal.adjusted coefficient place
            if Decimal.positionalExponents.1 ≤ leading &&
                leading ≤ Decimal.positionalExponents.2 || coefficient = 0 then
              Decimal.withPoint (toString coefficient) (-place).toNat
            else
              let digits := toString coefficient
              (if digits.length = 1 then digits
                else Decimal.withPoint digits (digits.length - 1)) ++
                "e" ++ exponentText leading
        | other => other.text)

/-- How many digits of a double a column of text keeps. -/
def columnDigits : Nat := 15

/-- The decimal of so many digits that is nearest to a double. -/
def rounded (digits significand : Nat) (exponent : Int) : Scientific :=
  let (coefficient, place) :=
    if exponent < 0 then (significand * Nat.pow 5 (-exponent).toNat, exponent)
    else (significand <<< exponent.toNat, 0)
  let dropped := decimalLength coefficient - digits
  let unit := Nat.pow 10 dropped
  .trimmed ((2 * coefficient + unit) / (2 * unit)) (place + dropped)

/-- The text that a column keeps of a double.  It is positional while the
leading digit stands between the fourth place after the point and the last digit
that is kept, and always has a digit after the point; what is no number is not
kept. -/
def columnText? : Double → Option String
  | .nan => none
  | .infinite negative => some (if negative then "-Inf" else "Inf")
  | .finite negative significand exponent =>
      if significand = 0 then some "0.0"
      else
        let number := rounded columnDigits significand exponent
        let leading := Decimal.adjusted number.digits number.exponent
        let digits := toString number.digits
        let text :=
          if leading < -4 || (columnDigits : Int) ≤ leading then
            (if digits.length = 1 then digits ++ ".0"
              else Decimal.withPoint digits (digits.length - 1)) ++ "e" ++
                exponentText leading
          else if number.exponent < 0 then
            Decimal.withPoint digits (-number.exponent).toNat
          else toString (number.digits * Nat.pow 10 number.exponent.toNat) ++
            ".0"
        some ((if negative then "-" else "") ++ text)

end Double

end LedgerRules
