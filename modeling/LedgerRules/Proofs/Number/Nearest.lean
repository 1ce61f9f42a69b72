import Mathlib
import LedgerRules.Number.Decimal

/-!
# Numbers and their nearest doubles

The double nearest to a quotient depends on the number that the quotient
denotes, not on how it is written: the exponent is the only one that leaves the
number at most 53 bits, and rounding sees a quotient up to a common factor.  So
decimals that denote one number are stored as one double, apart from the sign of
zero.
-/

namespace LedgerRules

theorem roundHalfEven_mul_left {factor : Nat} (positive : 0 < factor)
    (numerator denominator : Nat) :
    roundHalfEven (factor * numerator) (factor * denominator) =
      roundHalfEven numerator denominator := by
  have twice : 2 * (factor * (numerator % denominator)) =
      factor * (2 * (numerator % denominator)) := Nat.mul_left_comm _ _ _
  have below : factor * (2 * (numerator % denominator)) < factor * denominator ↔
      2 * (numerator % denominator) < denominator :=
        Nat.mul_lt_mul_left positive
  have above : factor * denominator < factor * (2 * (numerator % denominator)) ↔
      denominator < 2 * (numerator % denominator) :=
        Nat.mul_lt_mul_left positive
  unfold roundHalfEven
  simp only [Nat.mul_div_mul_left _ _ positive, Nat.mul_mod_mul_left, twice,
    below, above]

theorem roundHalfEven_congr {numerator denominator other divisor : Nat}
    (positive : 0 < denominator) (otherPositive : 0 < divisor)
    (same : numerator * divisor = other * denominator) :
    roundHalfEven numerator denominator = roundHalfEven other divisor := by
  calc
    roundHalfEven numerator denominator =
        roundHalfEven (divisor * numerator) (divisor * denominator) :=
      (roundHalfEven_mul_left otherPositive _ _).symm
    _ = roundHalfEven (denominator * other) (denominator * divisor) := by
      rw [Nat.mul_comm divisor numerator, same, Nat.mul_comm other,
        Nat.mul_comm divisor]
    _ = roundHalfEven other divisor := roundHalfEven_mul_left positive _ _

section Powers

variable {exponent : Int}

theorem pow_toNat_of_nonneg (base : ℚ) (nonnegative : ¬ exponent < 0) :
    base ^ exponent.toNat = base ^ exponent := by
  rw [← zpow_natCast, Int.toNat_of_nonneg (not_lt.mp nonnegative)]

theorem pow_toNat_neg (base : ℚ) (negative : exponent < 0) :
    base ^ (-exponent).toNat = (base ^ exponent)⁻¹ := by
  rw [pow_toNat_of_nonneg base (by omega), zpow_neg]

end Powers

namespace Double

section Quotients

variable {numerator denominator : Nat}

theorem scaled_snd_pos (positive : 0 < denominator) (exponent : Int) :
    0 < (scaled numerator denominator exponent).2 := by
  unfold scaled
  split
  · exact positive
  · rw [Nat.shiftLeft_eq]
    positivity

theorem scaled_quotient (exponent : Int) :
    ((scaled numerator denominator exponent).1 : ℚ) /
      (scaled numerator denominator exponent).2 =
      numerator / denominator / 2 ^ exponent := by
  unfold scaled
  split
  case isTrue negative =>
    dsimp only
    rw [Nat.shiftLeft_eq, Nat.cast_mul, Nat.cast_pow, Nat.cast_ofNat,
      pow_toNat_neg 2 negative]
    ring
  case isFalse nonnegative =>
    dsimp only
    rw [Nat.shiftLeft_eq, Nat.cast_mul, Nat.cast_pow, Nat.cast_ofNat,
      pow_toNat_of_nonneg 2 nonnegative]
    ring

/-- The exponent of the doubles around a number: the number has at most 53 bits
in its units, and exactly 53 unless the exponent is the least one. -/
structure IsExponentOf (number : ℚ) (exponent : Int) : Prop where
  least : leastExponent ≤ exponent
  below : number < 2 ^ (exponent + 53)
  full : leastExponent < exponent → 2 ^ (exponent + 52) ≤ number

/-- Greater numbers have greater exponents. -/
theorem IsExponentOf.le {number other : ℚ} {exponent otherExponent : Int}
    (isExponent : IsExponentOf number exponent)
    (isOther : IsExponentOf other otherExponent) (atMost : number ≤ other) :
    exponent ≤ otherExponent := by
  by_contra above
  have full := isExponent.full (by have := isOther.least; omega)
  have powers : (2 : ℚ) ^ (otherExponent + 53) ≤ 2 ^ (exponent + 52) :=
    zpow_le_zpow_right₀ (by norm_num) (by omega)
  exact absurd (isOther.below.trans_le (powers.trans full)) atMost.not_gt

theorem IsExponentOf.unique {number : ℚ} {exponent other : Int}
    (isExponent : IsExponentOf number exponent)
    (isOther : IsExponentOf number other) :
    exponent = other :=
  Int.le_antisymm (isExponent.le isOther le_rfl) (isOther.le isExponent le_rfl)

private theorem log2_bounds (numerators : 0 < numerator)
    (positive : 0 < denominator) :
    (2 : ℚ) ^ ((numerator.log2 : Int) - denominator.log2 - 1) < numerator /
      denominator ∧
      (numerator : ℚ) / denominator <
        2 ^ ((numerator.log2 : Int) - denominator.log2 + 1) := by
  have low : (2 : ℚ) ^ numerator.log2 ≤ numerator := by
    exact_mod_cast Nat.log2_self_le numerators.ne'
  have high : (numerator : ℚ) < 2 ^ (numerator.log2 + 1) := by
    exact_mod_cast Nat.lt_log2_self
  have divisorLow : (2 : ℚ) ^ denominator.log2 ≤ denominator := by
    exact_mod_cast Nat.log2_self_le positive.ne'
  have divisorHigh : (denominator : ℚ) < 2 ^ (denominator.log2 + 1) := by
    exact_mod_cast Nat.lt_log2_self
  have divisorPositive : (0 : ℚ) < denominator := by exact_mod_cast positive
  constructor
  · rw [lt_div_iff₀ divisorPositive]
    calc
      (2 : ℚ) ^ ((numerator.log2 : Int) - denominator.log2 - 1) * denominator <
          2 ^ ((numerator.log2 : Int) - denominator.log2 - 1) *
            2 ^ (denominator.log2 + 1) :=
        mul_lt_mul_of_pos_left divisorHigh (by positivity)
      _ = 2 ^ numerator.log2 := by
        rw [← zpow_natCast, ← zpow_natCast, ← zpow_add₀ two_ne_zero]
        congr 1
        push_cast
        ring
      _ ≤ numerator := low
  · rw [div_lt_iff₀ divisorPositive]
    calc
      (numerator : ℚ) < 2 ^ (numerator.log2 + 1) := high
      _ = 2 ^ ((numerator.log2 : Int) - denominator.log2 + 1) *
        2 ^ denominator.log2 := by
        rw [← zpow_natCast, ← zpow_natCast, ← zpow_add₀ two_ne_zero]
        congr 1
        push_cast
        ring
      _ ≤ 2 ^ ((numerator.log2 : Int) - denominator.log2 + 1) * denominator :=
        mul_le_mul_of_nonneg_left divisorLow (by positivity)

/-- A scaled quotient has at most 53 bits when the number is below the 53 bits
of the scale. -/
theorem scaled_div_lt_iff (positive : 0 < denominator) (exponent : Int) :
    (scaled numerator denominator exponent).1 /
      (scaled numerator denominator exponent).2 <
        Nat.pow 2 53 ↔
      (numerator : ℚ) / denominator < 2 ^ (exponent + 53) := by
  have divisor : (0 : ℚ) < (scaled numerator denominator exponent).2 := by
    exact_mod_cast scaled_snd_pos positive exponent
  rw [Nat.div_lt_iff_lt_mul (scaled_snd_pos positive exponent),
    ← Nat.cast_lt (α := ℚ), Nat.cast_mul, ← div_lt_iff₀ divisor,
    scaled_quotient, div_lt_iff₀ (by positivity),
    zpow_add₀ two_ne_zero, mul_comm ((2 : ℚ) ^ exponent)]
  norm_num

theorem isExponentOf_exponentOf (numerators : 0 < numerator)
    (positive : 0 < denominator) :
    IsExponentOf ((numerator : ℚ) / denominator)
      (exponentOf numerator denominator) := by
  obtain ⟨low, high⟩ := log2_bounds numerators positive
  unfold exponentOf
  dsimp only
  generalize started :
    max leastExponent ((numerator.log2 : Int) - denominator.log2 - 53) = start
  have fits := @scaled_div_lt_iff numerator denominator positive start
  split
  case isTrue short =>
    refine ⟨by omega, fits.mp short, ?_⟩
    intro above
    have exact : start + 52 =
        (numerator.log2 : Int) - denominator.log2 - 1 := by omega
    rw [exact]
    exact low.le
  case isFalse long =>
    have reached := not_lt.mp (mt fits.mpr long)
    refine ⟨by omega, high.trans_le ?_, ?_⟩
    · exact zpow_le_zpow_right₀ (by norm_num) (by omega)
    · intro _
      rw [show start + 1 + 52 = start + 53 by ring]
      exact reached

theorem roundHalfEven_scaled_congr {other divisor : Nat}
    (positive : 0 < denominator) (otherPositive : 0 < divisor)
    (same : (numerator : ℚ) / denominator = other / divisor) (exponent : Int) :
    roundHalfEven (scaled numerator denominator exponent).1
        (scaled numerator denominator exponent).2 =
      roundHalfEven (scaled other divisor exponent).1
        (scaled other divisor exponent).2 := by
  have divisorPos := @scaled_snd_pos numerator denominator positive exponent
  have otherPos := @scaled_snd_pos other divisor otherPositive exponent
  have quotients : ((scaled numerator denominator exponent).1 : ℚ) /
        (scaled numerator denominator exponent).2 =
      (scaled other divisor exponent).1 /
        (scaled other divisor exponent).2 := by
    rw [scaled_quotient, scaled_quotient, same]
  rw [div_eq_div_iff (by exact_mod_cast divisorPos.ne')
    (by exact_mod_cast otherPos.ne')]
    at quotients
  exact roundHalfEven_congr divisorPos otherPos (by exact_mod_cast quotients)

theorem ofQuotient_congr {other divisor : Nat} (positive : 0 < denominator)
    (otherPositive : 0 < divisor)
    (same : (numerator : ℚ) / denominator = other / divisor) (negative : Bool) :
    ofQuotient negative numerator denominator =
      ofQuotient negative other divisor := by
  have zero : numerator = 0 ↔ other = 0 := by
    have left : (numerator : ℚ) / denominator = 0 ↔ numerator = 0 := by
      simp [positive.ne']
    have right : (other : ℚ) / divisor = 0 ↔ other = 0 := by
      simp [otherPositive.ne']
    rw [← left, ← right, same]
  unfold ofQuotient
  by_cases vanishes : numerator = 0
  · rw [if_pos vanishes, if_pos (zero.mp vanishes)]
  · have otherLeft : other ≠ 0 := mt zero.mpr vanishes
    have isExponent := isExponentOf_exponentOf (Nat.pos_of_ne_zero vanishes)
      positive
    rw [same] at isExponent
    have exponents := isExponent.unique
      (isExponentOf_exponentOf (Nat.pos_of_ne_zero otherLeft) otherPositive)
    rw [if_neg vanishes, if_neg otherLeft, exponents]
    dsimp only
    rw [roundHalfEven_scaled_congr positive otherPositive same]

end Quotients

theorem units_zero (negative : Bool) (exponent common : Int) :
    units negative 0 exponent common = 0 := by
  have magnitude : ((0 <<< (exponent - common).toNat : Nat) : Int) = 0 := by
    simp
  cases negative with
  | false => exact magnitude
  | true => exact neg_eq_zero.mpr magnitude

/-- Comparing does not see the sign of zero. -/
theorem compare?_unsignedZero (double other : Double) :
    compare? double.unsignedZero other = compare? double other := by
  cases double with
  | finite negative significand exponent =>
      cases significand with
      | zero => cases other <;> simp [unsignedZero, compare?, units_zero]
      | succ significand => rfl
  | _ => rfl

theorem pack_ne_nan (negative : Bool) (significand : Nat) (exponent : Int) :
    pack negative significand exponent ≠ .nan := by
  unfold pack
  split <;> nofun

theorem ofQuotient_ne_nan (negative : Bool) (numerator denominator : Nat) :
    ofQuotient negative numerator denominator ≠ .nan := by
  unfold ofQuotient
  split
  · nofun
  · dsimp only
    split
    · exact pack_ne_nan _ _ _
    · exact pack_ne_nan _ _ _

theorem sameNumber_self {double : Double} (number : double ≠ .nan) :
    double.sameNumber double = true := by
  cases double with
  | nan => exact (number rfl).elim
  | infinite negative => simp [sameNumber, compare?]
  | finite negative significand exponent => simp [sameNumber, compare?]

end Double

theorem decimalLength_eq_log {number : Nat} (positive : 0 < number) :
    decimalLength number = Nat.log 10 number + 1 := by
  induction number using Nat.strong_induction_on with
  | _ number induction =>
      rw [decimalLength, if_neg positive.ne']
      by_cases short : number < 10
      · have none : number / 10 = 0 := Nat.div_eq_of_lt short
        rw [none, Nat.log_of_lt short, decimalLength, if_pos rfl]
      · have shorter := induction (number / 10) (by omega) (by omega)
        have longer : Nat.log 10 number = Nat.log 10 (number / 10) + 1 :=
          Nat.log_of_one_lt_of_le (by norm_num) (by omega)
        rw [shorter, longer]

namespace Decimal

/-- The number that a finite decimal denotes. -/
def value? : Decimal → Option ℚ
  | .finite negative coefficient exponent =>
      some ((if negative then -1 else 1) * (coefficient * 10 ^ exponent))
  | _ => none

/-- The exponent of the leading digit bounds a number that is not zero. -/
theorem adjusted_bounds {coefficient : Nat} (positive : 0 < coefficient)
    (exponent : Int) :
    (10 : ℚ) ^ adjusted coefficient exponent ≤ coefficient * 10 ^ exponent ∧
      (coefficient : ℚ) * 10 ^ exponent <
        10 ^ (adjusted coefficient exponent + 1) := by
  have leading : adjusted coefficient exponent = Nat.log 10 coefficient +
      exponent := by
    rw [adjusted, decimalLength_eq_log positive]
    omega
  have low : (10 : ℚ) ^ Nat.log 10 coefficient ≤ coefficient := by
    exact_mod_cast Nat.pow_log_le_self 10 positive.ne'
  have high : (coefficient : ℚ) < 10 ^ (Nat.log 10 coefficient + 1) := by
    exact_mod_cast Nat.lt_pow_succ_log_self (by norm_num) coefficient
  have unit : (0 : ℚ) < 10 ^ exponent := by positivity
  constructor
  · rw [leading, zpow_add₀ (by norm_num), zpow_natCast]
    exact mul_le_mul_of_nonneg_right low unit.le
  · rw [leading, show (Nat.log 10 coefficient : Int) + exponent + 1 =
      ((Nat.log 10 coefficient + 1 : Nat) : Int) + exponent by push_cast; ring,
      zpow_add₀ (by norm_num), zpow_natCast]
    exact mul_lt_mul_of_pos_right high unit

private theorem adjusted_congr {coefficient other : Nat}
    {exponent otherExponent : Int} (positive : 0 < coefficient)
    (otherPositive : 0 < other)
    (same : (coefficient : ℚ) * 10 ^ exponent = other * 10 ^ otherExponent) :
    adjusted coefficient exponent = adjusted other otherExponent := by
  obtain ⟨low, high⟩ := adjusted_bounds positive exponent
  obtain ⟨otherLow, otherHigh⟩ := adjusted_bounds otherPositive otherExponent
  rw [← same] at otherLow otherHigh
  have first := (zpow_lt_zpow_iff_right₀ (by norm_num : (1 : ℚ) < 10)).mp
    (low.trans_lt otherHigh)
  have second := (zpow_lt_zpow_iff_right₀ (by norm_num : (1 : ℚ) < 10)).mp
    (otherLow.trans_lt high)
  omega

/-- The numerator and the denominator whose nearest double a decimal is stored
as. -/
def quotient (coefficient : Nat) (exponent : Int) : Nat × Nat :=
  if exponent < 0 then (coefficient, Nat.pow 10 (-exponent).toNat)
  else (coefficient * Nat.pow 10 exponent.toNat, 1)

theorem quotient_snd_pos (coefficient : Nat) (exponent : Int) :
    0 < (quotient coefficient exponent).2 := by
  unfold quotient
  split
  · exact Nat.pow_pos (by norm_num)
  · exact Nat.one_pos

theorem value_quotient (coefficient : Nat) (exponent : Int) :
    ((quotient coefficient exponent).1 : ℚ) /
      (quotient coefficient exponent).2 =
      coefficient * 10 ^ exponent := by
  unfold quotient
  split
  case isTrue negative =>
    simp only [Nat.pow_eq, Nat.cast_pow, Nat.cast_ofNat,
      pow_toNat_neg 10 negative, div_inv_eq_mul]
  case isFalse nonnegative =>
    simp only [Nat.pow_eq, Nat.cast_mul, Nat.cast_pow, Nat.cast_ofNat,
      pow_toNat_of_nonneg 10 nonnegative, Nat.cast_one, div_one]

/-- How a decimal is stored, by the exponent of its leading digit. -/
theorem toDouble_finite (negative : Bool) (coefficient : Nat) (exponent : Int) :
    toDouble (.finite negative coefficient exponent) =
      if coefficient = 0 ∨
          adjusted coefficient exponent < underflowExponent then
        .finite negative 0 Double.leastExponent
      else if overflowExponent < adjusted coefficient exponent then
        .infinite negative
      else .ofQuotient negative (quotient coefficient exponent).1
        (quotient coefficient exponent).2 := by
  unfold toDouble quotient
  dsimp only
  split
  · rfl
  · split
    · rfl
    · split <;> rfl

theorem toDouble_ne_nan (negative : Bool) (coefficient : Nat) (exponent : Int) :
    toDouble (.finite negative coefficient exponent) ≠ .nan := by
  rw [toDouble_finite]
  split
  · nofun
  · split
    · nofun
    · exact Double.ofQuotient_ne_nan _ _ _

private theorem sign_and_magnitude_eq {negative otherNegative : Bool}
    {number other : ℚ} (positive : 0 < number) (otherPositive : 0 < other)
    (same : (if negative then -1 else 1) * number = (if otherNegative then
      -1 else 1) * other) :
    negative = otherNegative ∧ number = other := by
  cases negative <;> cases otherNegative <;>
    simp only [Bool.false_eq_true, if_true, if_false, one_mul, neg_mul, neg_inj]
      at same
  · exact ⟨rfl, same⟩
  · linarith
  · linarith
  · exact ⟨rfl, same⟩

private theorem toDouble_congr {coefficient other : Nat}
    {exponent otherExponent : Int} (positive : 0 < coefficient)
    (otherPositive : 0 < other)
    (same : (coefficient : ℚ) * 10 ^ exponent = other * 10 ^ otherExponent)
    (negative : Bool) :
    toDouble (.finite negative coefficient exponent) =
      toDouble (.finite negative other otherExponent) := by
  have quotients := Double.ofQuotient_congr (quotient_snd_pos _ _)
    (quotient_snd_pos _ _)
    ((value_quotient coefficient exponent).trans
      (same.trans (value_quotient other otherExponent).symm)) negative
  rw [toDouble_finite, toDouble_finite, adjusted_congr positive otherPositive
    same, quotients]
  simp only [positive.ne', otherPositive.ne', false_or]

/-- Decimals that denote one number are stored as one number. -/
theorem sameNumber_toDouble_of_value {decimal other : Decimal} {number : ℚ}
    (value : decimal.value? = some number)
    (otherValue : other.value? = some number) :
    decimal.toDouble.sameNumber other.toDouble = true := by
  cases decimal with
  | infinite negative => cases value
  | nan negative signalling payload => cases value
  | finite negative coefficient exponent =>
      cases other with
      | infinite otherNegative => cases otherValue
      | nan otherNegative signalling payload => cases otherValue
      | finite otherNegative otherCoefficient otherExponent =>
          cases value
          have same := (Option.some.inj otherValue).symm
          have unit : (0 : ℚ) < 10 ^ exponent := by positivity
          have otherUnit : (0 : ℚ) < 10 ^ otherExponent := by positivity
          -- Zeros of different signs are different doubles, so they are
          -- compared.
          rcases Nat.eq_zero_or_pos coefficient with rfl | positive
          · have vanishes : otherCoefficient = 0 := by
              cases otherNegative <;> simpa [otherUnit.ne'] using same
            subst vanishes
            simp [toDouble, Double.sameNumber, Double.compare?,
              Double.units_zero]
          · have otherPositive : 0 < otherCoefficient := by
              rcases Nat.eq_zero_or_pos otherCoefficient
                with rfl | otherPositive
              · cases negative <;> simp [unit.ne', positive.ne'] at same
              · exact otherPositive
            obtain ⟨rfl, magnitudes⟩ :=
              sign_and_magnitude_eq (by positivity) (by positivity) same
            rw [toDouble_congr positive otherPositive magnitudes]
            exact Double.sameNumber_self (toDouble_ne_nan _ _ _)

end Decimal

end LedgerRules
