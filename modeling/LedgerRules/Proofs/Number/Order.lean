import LedgerRules.Proofs.Number.Nearest

/-!
# The numbers behind decimals and doubles

Decimals and doubles that are numbers at all denote rational numbers or one of
the two infinities, and both are compared as these numbers are: the signs,
digits and exponents that comparing looks at say nothing else.
-/

namespace LedgerRules

/-- The rational numbers with the two infinities. -/
abbrev Extended : Type := WithBot (WithTop ℚ)

namespace Extended

/-- A rational number among the extended ones. -/
def rational (number : ℚ) : Extended :=
  ((number : WithTop ℚ) : WithBot (WithTop ℚ))

/-- The infinity with a sign. -/
def infinity (negative : Bool) : Extended :=
  if negative then ⊥ else ⊤

theorem rational_strictMono : StrictMono rational :=
  fun _ _ less => WithBot.coe_lt_coe.mpr (WithTop.coe_lt_coe.mpr less)

theorem compare_rational (left right : ℚ) :
    compare (rational left) (rational right) = compare left right := by
  rw [← cmp_eq_compare, ← cmp_eq_compare]
  exact rational_strictMono.cmp_map_eq left right

theorem bot_lt_rational (number : ℚ) : ⊥ < rational number :=
  WithBot.bot_lt_coe _

theorem rational_lt_top (number : ℚ) : rational number < ⊤ :=
  WithBot.coe_lt_coe.mpr (WithTop.coe_lt_top number)

theorem compare_infinity (left right : Bool) :
    compare (infinity left) (infinity right) =
      if left = right then .eq else if left then .lt else .gt := by
  cases left <;> cases right <;> decide

theorem compare_infinity_rational (negative : Bool) (number : ℚ) :
    compare (infinity negative) (rational number) = if negative then .lt
      else .gt := by
  cases negative with
  | false => exact compare_gt_iff_gt.mpr (rational_lt_top number)
  | true => exact compare_lt_iff_lt.mpr (bot_lt_rational number)

theorem compare_rational_infinity (number : ℚ) (negative : Bool) :
    compare (rational number) (infinity negative) = if negative then .gt
      else .lt := by
  cases negative with
  | false => exact compare_lt_iff_lt.mpr (rational_lt_top number)
  | true => exact compare_gt_iff_gt.mpr (bot_lt_rational number)

end Extended

theorem compare_mul_right {unit : ℚ} (positive : 0 < unit) (left right : ℚ) :
    compare (left * unit) (right * unit) = compare left right := by
  rw [← cmp_eq_compare, ← cmp_eq_compare]
  exact (strictMono_mul_right_of_pos positive).cmp_map_eq left right

theorem compare_neg {Value : Type} [AddCommGroup Value] [LinearOrder Value]
    [IsOrderedAddMonoid Value] (left right : Value) :
    compare (-left) (-right) = compare right left := by
  rw [← cmp_eq_compare, ← cmp_eq_compare]
  exact StrictAnti.cmp_map_eq (fun _ _ less => neg_lt_neg less) left right

private theorem compare_natCast (left right : ℕ) :
    compare (left : ℚ) right = compare left right := by
  rw [← cmp_eq_compare, ← cmp_eq_compare]
  exact Nat.strictMono_cast.cmp_map_eq left right

theorem compare_intCast (left right : ℤ) :
    compare (left : ℚ) right = compare left right := by
  rw [← cmp_eq_compare, ← cmp_eq_compare]
  exact Int.cast_strictMono.cmp_map_eq left right

/-- A whole number of units of a power, as it is in units of a smaller power. -/
theorem mul_zpow_eq_of_le {base : ℚ} (nonzero : base ≠ 0) (number : ℚ)
    {common exponent : Int} (smaller : common ≤ exponent) :
    number * base ^ exponent = number * base ^ (exponent - common).toNat *
      base ^ common := by
  rw [mul_assoc, ← zpow_natCast, Int.toNat_of_nonneg (by omega),
    ← zpow_add₀ nonzero]
  congr 2
  ring

namespace Decimal

/-- The number that a decimal denotes, when it denotes one. -/
def number? : Decimal → Option Extended
  | .infinite negative => some (.infinity negative)
  | decimal => decimal.value?.map .rational

private theorem compareMagnitude_eq {left right : Nat} (leftPositive : 0 < left)
    (rightPositive : 0 < right) (leftExponent rightExponent : Int) :
    compareMagnitude left leftExponent right rightExponent =
      compare ((left : ℚ) * 10 ^ leftExponent)
        (right * 10 ^ rightExponent) := by
  obtain ⟨leftLow, leftHigh⟩ := adjusted_bounds leftPositive leftExponent
  obtain ⟨rightLow, rightHigh⟩ := adjusted_bounds rightPositive rightExponent
  have ten : (1 : ℚ) ≤ 10 := by norm_num
  have nonzero : (10 : ℚ) ≠ 0 := by norm_num
  unfold compareMagnitude
  rcases lt_trichotomy (adjusted left leftExponent)
    (adjusted right rightExponent) with
    shorter | same | longer
  · have less : (left : ℚ) * 10 ^ leftExponent < right * 10 ^ rightExponent :=
      leftHigh.trans_le ((zpow_le_zpow_right₀ ten (by omega)).trans rightLow)
    rw [compare_lt_iff_lt.mpr shorter, compare_lt_iff_lt.mpr less]
    rfl
  · have leftUnits := mul_zpow_eq_of_le nonzero left
      (min_le_left leftExponent rightExponent)
    have rightUnits := mul_zpow_eq_of_le nonzero right
      (min_le_right leftExponent rightExponent)
    rw [compare_eq_iff_eq.mpr same, leftUnits, rightUnits, compare_mul_right
      (by positivity), Ordering.eq_then, ← compare_natCast]
    simp only [Nat.pow_eq, Nat.cast_mul, Nat.cast_pow, Nat.cast_ofNat]
  · have more : (right : ℚ) * 10 ^ rightExponent < left * 10 ^ leftExponent :=
      rightHigh.trans_le ((zpow_le_zpow_right₀ ten (by omega)).trans leftLow)
    rw [compare_gt_iff_gt.mpr longer, compare_gt_iff_gt.mpr more]
    rfl

theorem signum_cases {decimal : Decimal} {number : ℚ}
    (value : decimal.value? = some number) :
    decimal.signum = 0 ∧ number = 0 ∨ decimal.signum = 1 ∧ 0 < number ∨
      decimal.signum = -1 ∧ number < 0 := by
  cases decimal with
  | infinite negative => cases value
  | nan negative signalling payload => cases value
  | finite negative coefficient exponent =>
      cases value
      cases coefficient with
      | zero => exact .inl ⟨rfl, by simp⟩
      | succ coefficient =>
          have magnitude : (0 : ℚ) < (coefficient + 1 : Nat) *
              10 ^ exponent := by positivity
          cases negative with
          | false => exact .inr (.inl ⟨rfl, by simpa using magnitude⟩)
          | true => exact .inr (.inr ⟨rfl, by simpa using magnitude⟩)

theorem lt_of_signum_lt {left right : Decimal} {number other : ℚ}
    (value : left.value? = some number) (otherValue : right.value? = some other)
    (less : left.signum < right.signum) : number < other := by
  rcases signum_cases value
    with ⟨sign, zero⟩ | ⟨sign, positive⟩ | ⟨sign, negative⟩ <;>
    rcases signum_cases otherValue with
      ⟨otherSign, otherZero⟩ | ⟨otherSign, otherPositive⟩ | ⟨otherSign,
        otherNegative⟩ <;>
    first | omega | linarith

theorem compare?_finite (negative otherNegative : Bool)
    (coefficient other : Nat) (exponent otherExponent : Int) :
    compare? (.finite negative coefficient exponent)
        (.finite otherNegative other otherExponent) =
      some ((compare (signum (.finite negative coefficient exponent))
          (signum (.finite otherNegative other otherExponent))).then
        (if coefficient = 0 then .eq
        else
          let order := compareMagnitude coefficient exponent other otherExponent
          if negative then order.swap else order)) :=
  rfl

private theorem compareMagnitude_of_signum_eq {negative otherNegative : Bool}
    {coefficient other : Nat} {exponent otherExponent : Int}
    (same : signum (.finite negative coefficient exponent) =
      signum (.finite otherNegative other otherExponent)) :
    (if coefficient = 0 then .eq
      else
        let order := compareMagnitude coefficient exponent other otherExponent
        if negative then order.swap else order) =
      compare ((if negative then
        -1 else 1) * ((coefficient : ℚ) * 10 ^ exponent))
        ((if otherNegative then -1 else 1) * (other * 10 ^ otherExponent)) := by
  cases coefficient with
  | zero =>
      cases other with
      | zero => simp
      | succ other => cases otherNegative <;> cases same
  | succ coefficient =>
      cases other with
      | zero => cases negative <;> cases same
      | succ other =>
          have magnitudes := compareMagnitude_eq coefficient.succ_pos
            other.succ_pos exponent
            otherExponent
          cases negative <;> cases otherNegative <;> try cases same
          · simp [magnitudes]
          · simp only [if_true, neg_mul, one_mul, compare_neg, magnitudes,
              Nat.succ_ne_zero, if_false]
            exact Std.OrientedOrd.eq_swap.symm

/-- Finite decimals are compared as the numbers that they denote. -/
theorem compare?_of_value {left right : Decimal} {number other : ℚ}
    (value : left.value? = some number)
    (otherValue : right.value? = some other) :
    left.compare? right = some (compare number other) := by
  cases left with
  | infinite negative => cases value
  | nan negative signalling payload => cases value
  | finite negative coefficient exponent =>
  cases right with
  | infinite negative => cases otherValue
  | nan negative signalling payload => cases otherValue
  | finite otherNegative otherCoefficient otherExponent =>
  rw [compare?_finite]
  rcases lt_trichotomy (signum (.finite negative coefficient exponent))
    (signum (.finite otherNegative otherCoefficient otherExponent))
      with less | same | more
  · rw [compare_lt_iff_lt.mpr less, compare_lt_iff_lt.mpr
      (lt_of_signum_lt value otherValue less)]
    rfl
  · cases value
    cases otherValue
    rw [compare_eq_iff_eq.mpr same, Ordering.eq_then,
      compareMagnitude_of_signum_eq same]
  · rw [compare_gt_iff_gt.mpr more, compare_gt_iff_gt.mpr
      (lt_of_signum_lt otherValue value more)]
    rfl

theorem compare?_infinite (negative : Bool) {decimal : Decimal} {number : ℚ}
    (value : decimal.value? = some number) :
    compare? (.infinite negative) decimal =
        some (compare (Extended.infinity negative) (.rational number)) ∧
      compare? decimal (.infinite negative) =
        some (compare (.rational number) (Extended.infinity negative)) := by
  rw [Extended.compare_infinity_rational, Extended.compare_rational_infinity]
  cases decimal with
  | infinite negative => cases value
  | nan negative signalling payload => cases value
  | finite otherNegative coefficient exponent =>
      cases coefficient <;> cases otherNegative <;> cases negative <;>
        exact ⟨rfl, rfl⟩

/-- Decimals are compared as the numbers that they denote. -/
theorem compare?_of_number {left right : Decimal} {number other : Extended}
    (denotes : left.number? = some number)
    (otherDenotes : right.number? = some other) :
    left.compare? right = some (compare number other) := by
  cases left with
  | nan negative signalling payload => cases denotes
  | infinite negative =>
      cases denotes
      cases right with
      | nan negative signalling payload => cases otherDenotes
      | infinite otherNegative =>
          cases otherDenotes
          rw [Extended.compare_infinity]
          cases negative <;> cases otherNegative <;> rfl
      | finite otherNegative coefficient exponent =>
          cases otherDenotes
          exact (compare?_infinite negative rfl).1
  | finite negative coefficient exponent =>
      cases denotes
      cases right with
      | nan negative signalling payload => cases otherDenotes
      | infinite otherNegative =>
          cases otherDenotes
          exact (compare?_infinite otherNegative rfl).2
      | finite otherNegative otherCoefficient otherExponent =>
          cases otherDenotes
          rw [Extended.compare_rational]
          exact compare?_of_value rfl rfl

end Decimal

namespace Double

/-- The number that a finite double denotes. -/
def value? : Double → Option ℚ
  | .finite negative significand exponent =>
      some ((if negative then -1 else 1) * (significand * 2 ^ exponent))
  | _ => none

/-- The number that a double denotes, when it denotes one. -/
def number? : Double → Option Extended
  | .infinite negative => some (.infinity negative)
  | double => double.value?.map .rational

theorem units_mul (negative : Bool) (significand : Nat) {exponent common : Int}
    (smaller : common ≤ exponent) :
    (units negative significand exponent common : ℚ) * 2 ^ common =
      (if negative then -1 else 1) * (significand * 2 ^ exponent) := by
  have magnitude : ((significand <<< (exponent - common).toNat : Nat) : ℚ) *
      2 ^ common =
      significand * 2 ^ exponent := by
    rw [mul_zpow_eq_of_le two_ne_zero _ smaller, Nat.shiftLeft_eq]
    push_cast
    rfl
  cases negative with
  | false =>
      have positive : units false significand exponent common =
          ((significand <<< (exponent - common).toNat : Nat) : Int) := rfl
      rw [positive, Int.cast_natCast, magnitude]
      simp
  | true =>
      have negated : units true significand exponent common =
          -((significand <<< (exponent - common).toNat : Nat) : Int) := rfl
      rw [negated, Int.cast_neg, Int.cast_natCast, neg_mul, magnitude]
      simp

/-- Finite doubles are compared as the numbers that they denote. -/
theorem compare?_of_value {left right : Double} {number other : ℚ}
    (value : left.value? = some number)
    (otherValue : right.value? = some other) :
    left.compare? right = some (compare number other) := by
  cases left with
  | nan => cases value
  | infinite negative => cases value
  | finite negative significand exponent =>
  cases right with
  | nan => cases otherValue
  | infinite negative => cases otherValue
  | finite otherNegative otherSignificand otherExponent =>
  cases value
  cases otherValue
  rw [← units_mul negative significand (min_le_left exponent otherExponent),
    ← units_mul otherNegative otherSignificand
      (min_le_right exponent otherExponent),
    compare_mul_right (by positivity), compare_intCast]
  rfl

/-- Doubles are compared as the numbers that they denote. -/
theorem compare?_of_number {left right : Double} {number other : Extended}
    (denotes : left.number? = some number)
    (otherDenotes : right.number? = some other) :
    left.compare? right = some (compare number other) := by
  cases left with
  | nan => cases denotes
  | infinite negative =>
      cases denotes
      cases right with
      | nan => cases otherDenotes
      | infinite otherNegative =>
          cases otherDenotes
          rw [Extended.compare_infinity]
          rfl
      | finite otherNegative significand exponent =>
          cases otherDenotes
          rw [Extended.compare_infinity_rational]
          rfl
  | finite negative significand exponent =>
      cases denotes
      cases right with
      | nan => cases otherDenotes
      | infinite otherNegative =>
          cases otherDenotes
          rw [Extended.compare_rational_infinity]
          rfl
      | finite otherNegative otherSignificand otherExponent =>
          cases otherDenotes
          rw [Extended.compare_rational]
          exact compare?_of_value rfl rfl

end Double

end LedgerRules
