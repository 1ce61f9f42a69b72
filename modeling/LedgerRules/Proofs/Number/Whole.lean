import LedgerRules.Proofs.Number.Digits

/-!
# Whole numbers as doubles

A whole number of at most 53 bits is a double, and the only whole number that
reads back as that double.  So the shortest digits of the double are those of
the number, and a number that is taken as a double and then as the decimal with
its shortest digits stays what it was.
-/

namespace LedgerRules

namespace Double

/-- The shortest digits of a whole number are its own, when the unit of its
double is at most one. -/
theorem value_shortest_of_whole {significand whole : ℕ} {exponent : ℤ}
    (positive : 0 < whole) (few : whole < 10 ^ 17) (fine : exponent ≤ 0)
    (denotes : (significand : ℚ) * 2 ^ exponent = whole) :
    ((shortest significand exponent).digits : ℚ) *
      10 ^ (shortest significand exponent).exponent =
      whole := by
  have significands : 0 < significand := by
    rcases Nat.eq_zero_or_pos significand with rfl | significands
    · rw [Nat.cast_zero, zero_mul] at denotes
      exact absurd (by exact_mod_cast denotes.symm) positive.ne'
    · exact significands
  have unit : (2 : ℚ) ^ exponent ≤ 1 :=
    zpow_le_one_of_nonpos₀ (by norm_num) fine
  have onGrid : (whole : ℚ) * 10 ^ (0 : ℤ) = significand * 2 ^ exponent := by
    rw [zpow_zero, mul_one, denotes]
  rw [← mul_one (whole : ℚ), ← zpow_zero (10 : ℚ)]
  apply value_shortest_of_alone significands
  · rw [onGrid]
    exact contains_centre significands exponent
  · intro other contains
    apply multiples_eq_of_near
    rw [onGrid, zpow_zero]
    exact (near_of_contains significands contains).trans_lt (by linarith)
  · rw [denotes, zpow_zero]
    exact_mod_cast positive
  · rw [denotes, zero_add]
    exact_mod_cast few

/-- A natural number of at most 53 bits is its own nearest double, with a unit
of at most one. -/
theorem exists_ofQuotient_one {magnitude : ℕ} (positive : 0 < magnitude)
    (small : magnitude < 2 ^ 53) (negative : Bool) :
    ∃ (significand : ℕ) (exponent : ℤ),
      ofQuotient negative magnitude 1 = .finite negative significand exponent ∧
      exponent ≤ 0 ∧
        (significand : ℚ) * 2 ^ exponent = magnitude := by
  obtain ⟨exponent, significand, isExponent, rounds, nearest⟩ :=
    exists_ofQuotient positive Nat.one_pos negative
  rw [Nat.cast_one, div_one] at isExponent rounds
  have bits : (magnitude : ℚ) < 2 ^ (53 : ℤ) := by exact_mod_cast small
  have fine : exponent ≤ 0 := by
    have bound := isExponent.le_of_lt bits
    have least : leastExponent = -1074 := rfl
    omega
  have unit : (0 : ℚ) < 2 ^ exponent := by positivity
  -- in units that are at most one, rounding has nothing to do
  have inUnits : (magnitude : ℚ) / 2 ^ exponent =
      ((magnitude * 2 ^ (-exponent).toNat : ℕ) : ℤ) := by
    push_cast
    rw [pow_toNat_of_nonneg 2 (by omega), zpow_neg, div_eq_mul_inv]
  have exactly : (significand : ℤ) =
      (magnitude * 2 ^ (-exponent).toNat : ℕ) := by
    apply rounds.unique
    rw [inUnits]
    exact roundsTo_whole _
  have denotes : (significand : ℚ) * 2 ^ exponent = magnitude := by
    rw [eq_comm, ← div_eq_iff unit.ne', inUnits, ← exactly]
    rfl
  have short : significand ≠ Nat.pow 2 53 := by
    rintro rfl
    have below := isExponent.below
    rw [← denotes, zpow_add₀ two_ne_zero, mul_comm] at below
    norm_num at below
  have within : ¬ greatestExponent < exponent := by
    have greatest : greatestExponent = 971 := rfl
    omega
  refine ⟨significand, exponent, ?_, fine, denotes⟩
  rw [nearest, if_neg short, pack, if_neg within]

section Whole

variable {whole : ℤ}

theorem natAbs_lt_of_small (small : |whole| < 2 ^ 53) :
    whole.natAbs < 2 ^ 53 := by
  rw [Int.abs_eq_natAbs] at small
  exact_mod_cast small

theorem exists_ofInt (small : |whole| < 2 ^ 53) :
    ∃ (significand : ℕ) (exponent : ℤ), ofInt whole =
      .finite (whole < 0) significand exponent ∧
      exponent ≤ 0 ∧ (significand : ℚ) * 2 ^ exponent = whole.natAbs := by
  rcases Nat.eq_zero_or_pos whole.natAbs with zero | positive
  · cases Int.natAbs_eq_zero.mp zero
    exact ⟨0, leastExponent, rfl, by decide, by simp⟩
  · exact exists_ofQuotient_one positive (natAbs_lt_of_small small) (whole < 0)

theorem isFinite_ofInt (small : |whole| < 2 ^ 53) :
    (ofInt whole).isFinite = true := by
  obtain ⟨significand, exponent, taken, -, -⟩ := exists_ofInt small
  rw [taken]
  rfl

theorem sign_mul_natAbs (whole : ℤ) :
    (if decide (whole < 0) then (-1 : ℚ) else 1) * whole.natAbs = whole := by
  rw [Nat.cast_natAbs, Int.cast_abs]
  rcases lt_or_ge whole 0 with negative | nonnegative
  · rw [if_pos (by simpa using negative),
      abs_of_neg (by exact_mod_cast negative)]
    ring
  · rw [if_neg (by simpa using nonnegative),
      abs_of_nonneg (by exact_mod_cast nonnegative), one_mul]

theorem value?_ofInt (small : |whole| < 2 ^ 53) :
    (ofInt whole).value? = some (whole : ℚ) := by
  obtain ⟨significand, exponent, taken, -, denotes⟩ := exists_ofInt small
  rw [taken, value?, denotes, sign_mul_natAbs]

/-- Whole numbers of at most 53 bits that are in order are in order as
doubles. -/
theorem exceeds_ofInt {least greatest : ℤ} (leastSmall : |least| < 2 ^ 53)
    (greatestSmall : |greatest| < 2 ^ 53) (inOrder : least ≤ greatest) :
    (ofInt least).exceeds (ofInt greatest) = false := by
  rw [exceeds, compare?_of_value (value?_ofInt leastSmall)
    (value?_ofInt greatestSmall), decide_eq_false_iff_not, Option.some.injEq,
    compare_gt_iff_gt, not_lt]
  exact_mod_cast inOrder

end Whole

end Double

namespace Decimal

/-- A whole number of at most 53 bits is the number of the shortest digits of
its double. -/
theorem value?_ofDouble_ofInt {whole : ℤ} (small : |whole| < 2 ^ 53) :
    (ofDouble (Double.ofInt whole)).value? = some (whole : ℚ) := by
  obtain ⟨significand, exponent, taken, fine, denotes⟩ :=
    Double.exists_ofInt small
  have digits : ((Double.shortest significand exponent).digits : ℚ) *
      10 ^ (Double.shortest significand exponent).exponent = whole.natAbs := by
    rcases Nat.eq_zero_or_pos whole.natAbs with zero | positive
    · have nothing : significand = 0 := by
        rw [zero, Nat.cast_zero, mul_eq_zero_iff_right (by positivity)]
          at denotes
        exact_mod_cast denotes
      rw [nothing, zero]
      simp [Double.shortest]
    · have few : whole.natAbs < 10 ^ 17 :=
        (Double.natAbs_lt_of_small small).trans (by norm_num)
      exact Double.value_shortest_of_whole positive few fine denotes
  rw [taken, value?_ofDouble, digits, Double.sign_mul_natAbs]

end Decimal

end LedgerRules
