import LedgerRules.Proofs.Number.Order

/-!
# Numbers with a fixed number of places

Rounding gives the whole number nearest to a number, and the even one of two
that are equally near.  A double stands close to the number that it was rounded
from: no further away than half a unit of its exponent.  So reading a double
with a fixed number of places gives back the number that it was rounded from
whenever the doubles lie close enough.
-/

namespace LedgerRules

/-- A whole number is the nearest one to a number, and even when another one is
as near. -/
def RoundsTo (number : ℚ) (whole : ℤ) : Prop :=
  |number - whole| < 1 / 2 ∨ |number - whole| = 1 / 2 ∧ Even whole

namespace RoundsTo

variable {number : ℚ} {whole other : ℤ}

theorem near (rounds : RoundsTo number whole) : |number - whole| ≤ 1 / 2 := by
  rcases rounds with near | ⟨half, _⟩
  · exact near.le
  · exact half.le

theorem neg (rounds : RoundsTo number whole) : RoundsTo (-number) (-whole) := by
  have distance : |-number - ((-whole : ℤ) : ℚ)| = |number - whole| := by
    rw [← abs_neg]
    push_cast
    congr 1
    ring
  rw [RoundsTo, distance]
  exact rounds.imp_right (And.imp_right Even.neg)

theorem even (rounds : RoundsTo number whole)
    (half : |number - whole| = 1 / 2) :
    Even whole := by
  rcases rounds with near | ⟨_, even⟩
  · exact absurd half near.ne
  · exact even

/-- Only one whole number is the nearest one: of two neighbours that are equally
near, one is odd. -/
theorem unique (rounds : RoundsTo number whole)
    (otherRounds : RoundsTo number other) :
    whole = other := by
  obtain ⟨low, high⟩ := abs_le.mp rounds.near
  obtain ⟨otherLow, otherHigh⟩ := abs_le.mp otherRounds.near
  have above : whole ≤ other + 1 := by
    have reals : (whole : ℚ) ≤ other + 1 := by linarith
    exact_mod_cast reals
  have below : other ≤ whole + 1 := by
    have reals : (other : ℚ) ≤ whole + 1 := by linarith
    exact_mod_cast reals
  by_contra different
  have neighbours : whole = other + 1 ∨ other = whole + 1 := by omega
  have bothEven : Even whole ∧ Even other := by
    rcases neighbours with rfl | rfl
    · push_cast at low high rounds
      have half : number - other = 1 / 2 := by linarith
      have otherHalf : number - ((other + 1 : ℤ) : ℚ) = -(1 / 2) := by
        push_cast; linarith
      exact ⟨rounds.even (by rw [otherHalf]; norm_num),
        otherRounds.even (by rw [half]; norm_num)⟩
    · push_cast at otherLow otherHigh
      have half : number - whole = 1 / 2 := by linarith
      have otherHalf : number - ((whole + 1 : ℤ) : ℚ) = -(1 / 2) := by
        push_cast; linarith
      exact ⟨rounds.even (by rw [half]; norm_num),
        otherRounds.even (by rw [otherHalf]; norm_num)⟩
  simp only [Int.even_iff] at bothEven
  omega

end RoundsTo

section Parts

variable {part : ℚ}

theorem roundsTo_add_of_lt (quotient : ℕ) (nonnegative : 0 ≤ part)
    (short : part < 1 / 2) :
    RoundsTo (quotient + part) (quotient : ℕ) := by
  left
  rw [abs_lt]
  push_cast
  constructor <;> linarith

private theorem roundsTo_add_of_gt (quotient : ℕ) (long : 1 / 2 < part)
    (below : part < 1) :
    RoundsTo (quotient + part) (quotient + 1 : ℕ) := by
  left
  rw [abs_lt]
  push_cast
  constructor <;> linarith

private theorem roundsTo_add_half (quotient : ℕ) :
    RoundsTo (quotient + 1 / 2) (quotient + quotient % 2 : ℕ) := by
  right
  rcases Nat.mod_two_eq_zero_or_one quotient with even | odd
  · rw [even]
    refine ⟨by push_cast; norm_num, ?_⟩
    rw [Int.even_iff]
    omega
  · rw [odd]
    refine ⟨by push_cast; norm_num, ?_⟩
    rw [Int.even_iff]
    omega

end Parts

theorem roundsTo_roundHalfEven {denominator : Nat} (positive : 0 < denominator)
    (numerator : Nat) :
    RoundsTo ((numerator : ℚ) / denominator)
      (roundHalfEven numerator denominator) := by
  have divisor : (0 : ℚ) < denominator := by exact_mod_cast positive
  have below := Nat.mod_lt numerator positive
  have whole := Nat.div_add_mod numerator denominator
  unfold roundHalfEven
  dsimp only
  generalize numerator / denominator = quotient at *
  generalize numerator % denominator = remainder at *
  have split : (numerator : ℚ) / denominator = quotient + remainder /
      denominator := by
    rw [← whole]
    push_cast
    field_simp
  rw [split]
  split_ifs with short long
  · refine roundsTo_add_of_lt quotient (by positivity) ?_
    rw [div_lt_div_iff₀ divisor two_pos, one_mul, mul_comm]
    exact_mod_cast short
  · refine roundsTo_add_of_gt quotient ?_ ?_
    · rw [div_lt_div_iff₀ two_pos divisor, one_mul, mul_comm]
      exact_mod_cast long
    · rw [div_lt_one divisor]
      exact_mod_cast below
  · have half : (remainder : ℚ) / denominator = 1 / 2 := by
      have middle : 2 * remainder = denominator := by omega
      rw [div_eq_div_iff divisor.ne' two_ne_zero, one_mul, mul_comm]
      exact_mod_cast middle
    rw [half]
    exact roundsTo_add_half quotient

theorem roundsTo_whole (whole : ℤ) : RoundsTo whole whole := by
  left
  rw [sub_self, abs_zero]
  norm_num

theorem sign_mul_zpow_neg (negative : Bool) (coefficient places : ℕ) :
    (if negative then (-1 : ℚ) else 1) * (coefficient * 10 ^ (-(places : ℤ))) =
      ((if negative then -(coefficient : ℤ) else coefficient : ℤ) : ℚ) /
        10 ^ places := by
  rw [zpow_neg, zpow_natCast]
  cases negative <;> simp [div_eq_mul_inv]

/-- The digits with a fixed number of places come from the magnitude, and the
sign is put in front of them. -/
theorem Decimal.ofDoubleFixed_finite (negative : Bool) (significand : ℕ)
    (exponent : ℤ) (places : ℕ) :
    ∃ coefficient : ℕ,
      RoundsTo ((significand : ℚ) * 2 ^ exponent * 10 ^ places) coefficient ∧
      ofDoubleFixed places (.finite negative significand exponent) =
        .finite negative coefficient (-places) := by
  refine ⟨_, ?_, rfl⟩
  split
  case isTrue below =>
    have quotient : (significand : ℚ) * (2 : ℚ) ^ exponent * (10 : ℚ) ^ places =
        ((significand * Nat.pow 10 places : ℕ) : ℚ) /
          ((1 <<< (-exponent).toNat : ℕ) : ℚ) := by
      rw [Nat.one_shiftLeft, Nat.cast_pow, Nat.cast_ofNat,
        pow_toNat_neg 2 below, Nat.pow_eq]
      push_cast
      field_simp
    rw [quotient]
    refine roundsTo_roundHalfEven ?_ _
    rw [Nat.one_shiftLeft]
    positivity
  case isFalse above =>
    have whole : (significand : ℚ) * (2 : ℚ) ^ exponent * (10 : ℚ) ^ places =
        (((significand * Nat.pow 10 places) <<< exponent.toNat : ℕ) : ℤ) := by
      rw [Nat.shiftLeft_eq, Nat.pow_eq]
      push_cast
      rw [pow_toNat_of_nonneg 2 above]
      ring
    rw [whole]
    exact roundsTo_whole _

/-- Reading a double with a fixed number of places rounds its number to them. -/
theorem Decimal.value?_ofDoubleFixed {double : Double} {number : ℚ}
    (value : double.value? = some number) (places : ℕ) :
    ∃ whole : ℤ, RoundsTo (number * 10 ^ places) whole ∧
      (ofDoubleFixed places double).value? =
        some ((whole : ℚ) / 10 ^ places) := by
  cases double with
  | nan => cases value
  | infinite negative => cases value
  | finite negative significand exponent =>
      cases value
      obtain ⟨coefficient, rounds, fixed⟩ :=
        ofDoubleFixed_finite negative significand exponent places
      refine ⟨if negative then -(coefficient : ℤ) else coefficient, ?_, ?_⟩
      · cases negative with
        | false => simpa using rounds
        | true => simpa [neg_mul] using rounds.neg
      · rw [fixed, value?, sign_mul_zpow_neg]

namespace Double

/-- The greatest power of two that the distance to a double can reach, for
numbers below a power of two. -/
def halfSpacing (size : ℤ) : ℚ :=
  2 ^ (max leastExponent (size - 53) - 1)

theorem value?_pack {negative : Bool} {significand : ℕ} {exponent : ℤ}
    (inRange : exponent ≤ greatestExponent) :
    (pack negative significand exponent).value? =
      some ((if negative then
        (-1 : ℚ) else 1) * (significand * 2 ^ exponent)) := by
  rw [pack, if_neg (by omega)]
  rfl

/-- The double nearest to a number has the significand that the number rounds to
in units of its exponent, or the least one of the next exponent when the number
rounds past all of them. -/
theorem exists_ofQuotient {numerator denominator : ℕ}
    (numerators : 0 < numerator) (positive : 0 < denominator)
    (negative : Bool) :
    ∃ (exponent : ℤ) (significand : ℕ),
      IsExponentOf ((numerator : ℚ) / denominator) exponent ∧
      RoundsTo ((numerator : ℚ) / denominator / 2 ^ exponent) significand ∧
      ofQuotient negative numerator denominator =
        if significand = Nat.pow 2 53 then
          pack negative (Nat.pow 2 52) (exponent + 1)
        else pack negative significand exponent := by
  refine ⟨exponentOf numerator denominator,
    roundHalfEven
      (scaled numerator denominator (exponentOf numerator denominator)).1
      (scaled numerator denominator (exponentOf numerator denominator)).2,
    isExponentOf_exponentOf numerators positive, ?_, ?_⟩
  · rw [← scaled_quotient]
    exact roundsTo_roundHalfEven (scaled_snd_pos positive _) _
  · unfold ofQuotient
    rw [if_neg numerators.ne']

/-- Numbers below a power of two have exponents that leave 53 bits below it. -/
theorem IsExponentOf.le_of_lt {number : ℚ} {exponent size : ℤ}
    (isExponent : IsExponentOf number exponent) (small : number < 2 ^ size) :
    exponent ≤ max leastExponent (size - 53) := by
  by_contra above
  have full := isExponent.full (by omega)
  have powers : (2 : ℚ) ^ size ≤ 2 ^ (exponent + 52) :=
    zpow_le_zpow_right₀ (by norm_num) (by omega)
  exact absurd (full.trans_lt small) powers.not_gt

/-- Rounding in units of a power of two moves a number by at most half a
unit. -/
theorem abs_sub_le_of_roundsTo {number : ℚ} {exponent : ℤ} {significand : ℕ}
    (rounds : RoundsTo (number / 2 ^ exponent) significand) :
    |(significand : ℚ) * 2 ^ exponent - number| ≤ 2 ^ (exponent - 1) := by
  have unit : (0 : ℚ) < 2 ^ exponent := by positivity
  have distance : |(significand : ℚ) * 2 ^ exponent - number| =
      |number / 2 ^ exponent - significand| * 2 ^ exponent := by
    rw [← abs_of_pos unit, ← abs_mul, abs_of_pos unit, abs_sub_comm]
    congr 1
    field_simp
  calc |(significand : ℚ) * 2 ^ exponent - number|
      = |number / 2 ^ exponent - significand| * 2 ^ exponent := distance
    _ ≤ 1 / 2 * 2 ^ exponent := mul_le_mul_of_nonneg_right rounds.near unit.le
    _ = 2 ^ (exponent - 1) := by
      rw [zpow_sub₀ two_ne_zero]
      ring

private theorem ofQuotient_near {numerator denominator : ℕ}
    (numerators : 0 < numerator) (positive : 0 < denominator) {size : ℤ}
    (inRange : size ≤ 200) (small : (numerator : ℚ) / denominator < 2 ^ size)
    (negative : Bool) :
    ∃ magnitude : ℚ, (ofQuotient negative numerator denominator).value? =
        some ((if negative then -1 else 1) * magnitude) ∧
      |magnitude - numerator / denominator| ≤ halfSpacing size := by
  obtain ⟨exponent, significand, isExponent, rounds, nearest⟩ :=
    exists_ofQuotient numerators positive negative
  rw [nearest]
  have bound := isExponent.le_of_lt small
  have least : leastExponent = -1074 := rfl
  have greatest : greatestExponent = 971 := rfl
  refine ⟨significand * 2 ^ exponent, ?_, ?_⟩
  · split
    case isTrue full =>
      rw [value?_pack (by omega), full]
      have carried : ((Nat.pow 2 52 : ℕ) : ℚ) * 2 ^ (exponent + 1) =
          ((Nat.pow 2 53 : ℕ) : ℚ) * 2 ^ exponent := by
        rw [zpow_add₀ two_ne_zero]
        norm_num
        ring
      rw [carried]
    case isFalse => exact value?_pack (by omega)
  · exact (abs_sub_le_of_roundsTo rounds).trans
      (zpow_le_zpow_right₀ (by norm_num) (by omega))

theorem value?_unsignedZero (double : Double) :
    double.unsignedZero.value? = double.value? := by
  cases double with
  | finite negative significand exponent =>
      cases significand with
      | zero => cases negative <;> simp [unsignedZero, value?]
      | succ significand => rfl
  | _ => rfl

end Double

namespace Decimal

theorem quotient_fst_pos {coefficient : ℕ} (positive : 0 < coefficient)
    (exponent : ℤ) :
    0 < (quotient coefficient exponent).1 := by
  unfold quotient
  split
  · exact positive
  · exact Nat.mul_pos positive (Nat.pow_pos (by norm_num))

/-- A decimal that is neither past all doubles nor too near to zero is stored as
the double nearest to it. -/
theorem toDouble_eq_ofQuotient {coefficient : ℕ} (positive : 0 < coefficient)
    {exponent : ℤ} (low : (10 : ℚ) ^ (-100 : ℤ) ≤ coefficient * 10 ^ exponent)
    (high : (coefficient : ℚ) * 10 ^ exponent < 10 ^ (100 : ℤ))
    (negative : Bool) :
    toDouble (.finite negative coefficient exponent) =
      .ofQuotient negative (quotient coefficient exponent).1
        (quotient coefficient exponent).2 := by
  obtain ⟨leading, beyond⟩ := adjusted_bounds positive exponent
  have aboveUnderflow :=
    (zpow_lt_zpow_iff_right₀ (by norm_num : (1 : ℚ) < 10)).mp
    (low.trans_lt beyond)
  have belowOverflow :=
    (zpow_lt_zpow_iff_right₀ (by norm_num : (1 : ℚ) < 10)).mp
    (leading.trans_lt high)
  have underflow : underflowExponent = -330 := rfl
  have overflow : overflowExponent = 310 := rfl
  rw [toDouble_finite, if_neg (by omega), if_neg (by omega)]

theorem least_le_abs_of_fewPlaces {units : ℤ} (nonzero : units ≠ 0) {places : ℕ}
    (fewPlaces : places ≤ 100) :
    (10 : ℚ) ^ (-100 : ℤ) ≤ |(units : ℚ) / 10 ^ places| := by
  have atLeastOne : (1 : ℚ) ≤ |(units : ℚ)| := by
    exact_mod_cast Int.one_le_abs nonzero
  rw [abs_div, abs_of_pos (by positivity : (0 : ℚ) < 10 ^ places),
    le_div_iff₀ (by positivity)]
  calc (10 : ℚ) ^ (-100 : ℤ) * 10 ^ places
      = 10 ^ (-100 + (places : ℤ)) := by
        rw [← zpow_natCast, ← zpow_add₀ (by norm_num)]
    _ ≤ 10 ^ (0 : ℤ) := zpow_le_zpow_right₀ (by norm_num) (by omega)
    _ = 1 := zpow_zero 10
    _ ≤ |(units : ℚ)| := atLeastOne

/-- The double nearest to a number with a fixed number of places that is not too
great is at most half the spacing of the doubles away from it. -/
theorem toDouble_near {amount : Decimal} {units : ℤ} {places : ℕ} {size : ℤ}
    (value : amount.value? = some ((units : ℚ) / 10 ^ places))
    (fewPlaces : places ≤ 100) (inRange : size ≤ 200)
    (small : |(units : ℚ) / 10 ^ places| < 2 ^ size) :
    ∃ nearest, amount.toDouble.value? = some nearest ∧
      |nearest - units / 10 ^ places| ≤ Double.halfSpacing size := by
  cases amount with
  | infinite negative => cases value
  | nan negative signalling payload => cases value
  | finite negative coefficient exponent =>
      have same : (if negative then (-1 : ℚ) else 1) *
          (coefficient * 10 ^ exponent) =
          units / 10 ^ places := Option.some.inj value
      rcases Nat.eq_zero_or_pos coefficient with rfl | positive
      · have zero : (units : ℚ) / 10 ^ places = 0 := by
          rw [← same]
          simp
        refine ⟨0, by simp [toDouble, Double.value?], ?_⟩
        rw [zero, sub_zero, abs_zero, Double.halfSpacing]
        positivity
      · have magnitude : |(units : ℚ) / 10 ^ places| = coefficient *
            10 ^ exponent := by
          rw [← same, abs_mul,
            abs_of_nonneg
              (by positivity : (0 : ℚ) ≤ coefficient * 10 ^ exponent)]
          cases negative <;> simp
        have nonzero : units ≠ 0 := by
          rintro rfl
          simp [positive.ne', zpow_ne_zero] at magnitude
        have low := least_le_abs_of_fewPlaces nonzero fewPlaces
        rw [magnitude] at low
        rw [magnitude] at small
        have high : (coefficient : ℚ) * 10 ^ exponent < 10 ^ (100 : ℤ) := by
          calc (coefficient : ℚ) * 10 ^ exponent < 2 ^ size := small
            _ ≤ 2 ^ (200 : ℤ) := zpow_le_zpow_right₀ (by norm_num) inRange
            _ ≤ 10 ^ (100 : ℤ) := by norm_num
        have quotients := value_quotient coefficient exponent
        obtain ⟨nearest, nearestValue, distance⟩ := Double.ofQuotient_near
          (quotient_fst_pos positive exponent)
            (quotient_snd_pos coefficient exponent) inRange
          (quotients ▸ small) negative
        rw [quotients] at distance
        refine ⟨_, (toDouble_eq_ofQuotient positive low high negative) ▸
          nearestValue, ?_⟩
        rw [← same, ← mul_sub, abs_mul]
        cases negative <;> simpa using distance

end Decimal

end LedgerRules
