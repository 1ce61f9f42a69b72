import LedgerRules.Calendar.Timestamp
import LedgerRules.Proofs.Number.Places

/-!
# Instants as doubles

Times are compared by their seconds, each rounded to the nearest double.
Rounding never turns the order of two numbers around.  It may give two instants
the same seconds, but not before the doubles lie further apart than microseconds
do.
-/

namespace LedgerRules

theorem RoundsTo.mono {number other : ℚ} {whole otherWhole : ℤ}
    (rounds : RoundsTo number whole) (otherRounds : RoundsTo other otherWhole)
    (atMost : number ≤ other) : whole ≤ otherWhole := by
  by_contra above
  have apart : (otherWhole : ℚ) + 1 ≤ whole := by exact_mod_cast not_le.mp above
  obtain ⟨low, _⟩ := abs_le.mp rounds.near
  obtain ⟨_, high⟩ := abs_le.mp otherRounds.near
  -- Both numbers lie halfway between the two whole numbers.
  have same : number = other := by linarith
  rw [same] at rounds
  exact above (rounds.unique otherRounds).le

namespace Double

/-- A magnitude is the nearest one to a number among those of 53 bits, whatever
its exponent. -/
def NearestMagnitude (number magnitude : ℚ) : Prop :=
  ∃ (exponent : ℤ) (significand : ℕ), IsExponentOf number exponent ∧
    RoundsTo (number / 2 ^ exponent) significand ∧
    magnitude = significand * 2 ^ exponent

section Significands

variable {number : ℚ} {exponent : ℤ} {significand : ℕ}

theorem significand_le (isExponent : IsExponentOf number exponent)
    (rounds : RoundsTo (number / 2 ^ exponent) significand) :
    significand ≤ 2 ^ 53 := by
  have below : number / 2 ^ exponent ≤ ((2 ^ 53 : ℤ) : ℚ) := by
    rw [div_le_iff₀ (by positivity)]
    calc number ≤ 2 ^ (exponent + 53) := isExponent.below.le
      _ = ((2 ^ 53 : ℤ) : ℚ) * 2 ^ exponent := by
        rw [zpow_add₀ two_ne_zero]
        push_cast
        ring
  exact_mod_cast rounds.mono (roundsTo_whole (2 ^ 53)) below

theorem le_significand (isExponent : IsExponentOf number exponent)
    (rounds : RoundsTo (number / 2 ^ exponent) significand)
    (above : leastExponent < exponent) :
    2 ^ 52 ≤ significand := by
  have reached : ((2 ^ 52 : ℤ) : ℚ) ≤ number / 2 ^ exponent := by
    rw [le_div_iff₀ (by positivity)]
    calc ((2 ^ 52 : ℤ) : ℚ) * 2 ^ exponent = 2 ^ (exponent + 52) := by
          rw [zpow_add₀ two_ne_zero]
          push_cast
          ring
      _ ≤ number := isExponent.full above
  exact_mod_cast (roundsTo_whole (2 ^ 52)).mono rounds reached

end Significands

theorem NearestMagnitude.mono {number other magnitude otherMagnitude : ℚ}
    (nearest : NearestMagnitude number magnitude)
    (otherNearest : NearestMagnitude other otherMagnitude)
    (atMost : number ≤ other) :
    magnitude ≤ otherMagnitude := by
  obtain ⟨exponent, significand, isExponent, rounds, rfl⟩ := nearest
  obtain ⟨otherExponent, otherSignificand, isOther, otherRounds, rfl⟩ :=
    otherNearest
  rcases (isExponent.le isOther atMost).eq_or_lt with rfl | less
  · have inUnits : number / 2 ^ exponent ≤ other / 2 ^ exponent := by gcongr
    have significands : significand ≤ otherSignificand := by
      exact_mod_cast rounds.mono otherRounds inUnits
    gcongr
  · -- A power of two that is a double lies between the numbers.
    have short : (significand : ℚ) ≤ 2 ^ 53 := by
      exact_mod_cast significand_le isExponent rounds
    have long : (2 : ℚ) ^ 52 ≤ otherSignificand := by
      exact_mod_cast le_significand isOther otherRounds
        (isExponent.least.trans_lt less)
    calc (significand : ℚ) * 2 ^ exponent ≤ 2 ^ 53 * 2 ^ exponent := by gcongr
      _ = 2 ^ 52 * 2 ^ (exponent + 1) := by
        rw [zpow_add₀ two_ne_zero]
        ring
      _ ≤ 2 ^ 52 * 2 ^ otherExponent := by
        gcongr
        · norm_num
        · omega
      _ ≤ otherSignificand * 2 ^ otherExponent := by gcongr

private theorem nearestMagnitude_pow {size : ℤ}
    (normal : leastExponent + 52 ≤ size) :
    NearestMagnitude (2 ^ size) (2 ^ size) := by
  have whole : (2 : ℚ) ^ size / 2 ^ (size - 52) = ((2 ^ 52 : ℕ) : ℤ) := by
    rw [← zpow_sub₀ two_ne_zero, sub_sub_cancel]
    norm_num
  refine ⟨size - 52, 2 ^ 52, ⟨by omega, ?_, ?_⟩, ?_, ?_⟩
  · exact zpow_lt_zpow_right₀ (by norm_num) (by omega)
  · intro _
    rw [sub_add_cancel]
  · rw [whole]
    exact roundsTo_whole _
  · rw [← div_eq_iff (by positivity), whole]
    norm_cast

/-- Up to a power of two, the nearest magnitude is at most half a unit of the
numbers below that power away. -/
theorem NearestMagnitude.near {number magnitude : ℚ}
    (nearest : NearestMagnitude number magnitude) {size : ℤ}
    (normal : leastExponent + 53 ≤ size) (small : number ≤ 2 ^ size) :
    |magnitude - number| ≤ 2 ^ (size - 54) := by
  rcases small.eq_or_lt with rfl | below
  · have power := nearestMagnitude_pow (by omega : leastExponent + 52 ≤ size)
    rw [le_antisymm (nearest.mono power le_rfl) (power.mono nearest le_rfl),
      sub_self, abs_zero]
    positivity
  · obtain ⟨exponent, significand, isExponent, rounds, rfl⟩ := nearest
    have bound := isExponent.le_of_lt below
    exact (abs_sub_le_of_roundsTo rounds).trans
      (zpow_le_zpow_right₀ (by norm_num) (by omega))

/-- A number is the nearest one to another on the same side of zero, whatever
its magnitude. -/
structure Nearest (number nearest : ℚ) : Prop where
  magnitude : NearestMagnitude |number| |nearest|
  nonneg : 0 ≤ number → 0 ≤ nearest
  nonpos : number < 0 → nearest ≤ 0

theorem Nearest.mono {number other nearest otherNearest : ℚ}
    (isNearest : Nearest number nearest) (isOther : Nearest other otherNearest)
    (atMost : number ≤ other) :
    nearest ≤ otherNearest := by
  rcases le_or_gt 0 number with nonneg | negative
  · have magnitudes := isNearest.magnitude.mono isOther.magnitude
    rw [abs_of_nonneg nonneg, abs_of_nonneg (nonneg.trans atMost),
      abs_of_nonneg (isNearest.nonneg nonneg),
      abs_of_nonneg (isOther.nonneg (nonneg.trans atMost))] at magnitudes
    exact magnitudes atMost
  · rcases le_or_gt 0 other with otherNonneg | otherNegative
    · exact (isNearest.nonpos negative).trans (isOther.nonneg otherNonneg)
    · have magnitudes := isOther.magnitude.mono isNearest.magnitude
      rw [abs_of_neg negative, abs_of_neg otherNegative,
        abs_of_nonpos (isNearest.nonpos negative),
        abs_of_nonpos (isOther.nonpos otherNegative)] at magnitudes
      linarith [magnitudes (by linarith)]

theorem Nearest.near {number nearest : ℚ} (isNearest : Nearest number nearest)
    {size : ℤ} (normal : leastExponent + 53 ≤ size)
    (small : |number| ≤ 2 ^ size) :
    |nearest - number| ≤ 2 ^ (size - 54) := by
  have magnitudes := isNearest.magnitude.near normal small
  rcases le_or_gt 0 number with nonneg | negative
  · rwa [abs_of_nonneg nonneg, abs_of_nonneg (isNearest.nonneg nonneg)]
      at magnitudes
  · rw [abs_of_neg negative, abs_of_nonpos (isNearest.nonpos negative),
      ← abs_neg] at magnitudes
    convert magnitudes using 2
    ring

/-- The least magnitude that is past all doubles. -/
def beyond : ℚ := 2 ^ (greatestExponent + 53)

/-- A number among the doubles, as far as their magnitudes go. -/
def clamped (number : ℚ) : Extended :=
  if number ≤ -beyond then ⊥ else if beyond ≤ number then ⊤
    else .rational number

theorem clamped_mono : Monotone clamped := by
  intro number other atMost
  unfold clamped
  by_cases low : number ≤ -beyond
  · rw [if_pos low]
    exact bot_le
  · have otherLow : ¬ other ≤ -beyond := fun least => low (atMost.trans least)
    rw [if_neg low, if_neg otherLow]
    by_cases otherHigh : beyond ≤ other
    · rw [if_pos otherHigh]
      exact le_top
    · have high : ¬ beyond ≤ number := fun greatest =>
        otherHigh (greatest.trans atMost)
      rw [if_neg high, if_neg otherHigh]
      exact Extended.rational_strictMono.monotone atMost

theorem clamped_of_abs_lt {number : ℚ} (within : |number| < beyond) :
    clamped number = .rational number := by
  obtain ⟨low, high⟩ := abs_lt.mp within
  rw [clamped, if_neg low.not_ge, if_neg high.not_ge]

theorem clamped_signed {magnitude : ℚ} (nonneg : 0 ≤ magnitude)
    (negative : Bool) :
    clamped ((if negative then -1 else 1) * magnitude) =
      if beyond ≤ magnitude then .infinity negative
      else .rational ((if negative then -1 else 1) * magnitude) := by
  have positive : 0 < beyond := by
    unfold beyond
    positivity
  cases negative with
  | false =>
      have above : ¬ magnitude ≤ -beyond := by linarith
      simp [clamped, above, Extended.infinity]
  | true =>
      have below : ¬ beyond ≤ -magnitude := by linarith
      simp [clamped, below, Extended.infinity]

/-- A significand of 53 bits makes up a magnitude, unless its exponent is past
the greatest one. -/
theorem number?_pack {significand : ℕ} {exponent : ℤ}
    (short : significand < 2 ^ 53)
    (full : leastExponent < exponent → 2 ^ 52 ≤ significand) (negative : Bool) :
    (pack negative significand exponent).number? =
      some (clamped ((if negative then
        -1 else 1) * (significand * 2 ^ exponent))) := by
  rw [clamped_signed (by positivity)]
  have least : leastExponent = -1074 := rfl
  have greatest : greatestExponent = 971 := rfl
  by_cases past : greatestExponent < exponent
  · have reached : beyond ≤ significand * 2 ^ exponent := by
      have long : (2 : ℚ) ^ 52 ≤ significand := by
        exact_mod_cast full (by omega)
      calc beyond = 2 ^ 52 * 2 ^ (greatestExponent + 1) := by
            rw [beyond, zpow_add₀ two_ne_zero, zpow_add₀ two_ne_zero]
            ring
        _ ≤ 2 ^ 52 * 2 ^ exponent := by
          gcongr
          · norm_num
          · omega
        _ ≤ significand * 2 ^ exponent := by gcongr
    rw [pack, if_pos past, if_pos reached]
    rfl
  · have within : (significand : ℚ) * 2 ^ exponent < beyond := by
      have below : (significand : ℚ) < 2 ^ 53 := by exact_mod_cast short
      calc (significand : ℚ) * 2 ^ exponent < 2 ^ 53 * 2 ^ exponent := by gcongr
        _ ≤ 2 ^ 53 * 2 ^ greatestExponent := by
          gcongr
          · norm_num
          · omega
        _ = beyond := by
          rw [beyond, zpow_add₀ two_ne_zero]
          ring
    rw [pack, if_neg past, if_neg within.not_ge]
    rfl

theorem exists_nearest_ofQuotient {denominator : ℕ} (positive : 0 < denominator)
    (numerator : ℕ) (negative : Bool) :
    ∃ magnitude : ℚ, 0 ≤ magnitude ∧
      NearestMagnitude ((numerator : ℚ) / denominator) magnitude ∧
      (ofQuotient negative numerator denominator).number? =
        some (clamped ((if negative then -1 else 1) * magnitude)) := by
  rcases Nat.eq_zero_or_pos numerator with rfl | numerators
  · have isExponent : IsExponentOf ((0 : ℕ) / denominator : ℚ) leastExponent :=
      ⟨le_rfl, by rw [Nat.cast_zero, zero_div]; positivity, fun above =>
        (lt_irrefl _ above).elim⟩
    have rounds : RoundsTo (((0 : ℕ) / denominator : ℚ) / 2 ^ leastExponent)
        (0 : ℕ) := by
      simpa using roundsTo_whole 0
    refine ⟨(0 : ℕ) * 2 ^ leastExponent, by positivity,
      ⟨_, 0, isExponent, rounds, rfl⟩, ?_⟩
    exact number?_pack (by norm_num) (fun above => (lt_irrefl _ above).elim)
      negative
  · obtain ⟨exponent, significand, isExponent, rounds, nearest⟩ :=
      exists_ofQuotient numerators positive negative
    refine ⟨significand * 2 ^ exponent, by positivity,
      ⟨exponent, significand, isExponent, rounds, rfl⟩, ?_⟩
    rw [nearest]
    split
    case isTrue full =>
      have carried : ((Nat.pow 2 52 : ℕ) : ℚ) * 2 ^ (exponent + 1) =
          significand * 2 ^ exponent := by
        rw [full, zpow_add₀ two_ne_zero]
        norm_num
        ring
      rw [← carried]
      exact number?_pack (by norm_num) (fun _ => le_rfl) negative
    case isFalse short =>
      exact number?_pack
        (lt_of_le_of_ne (significand_le isExponent rounds) short)
        (le_significand isExponent rounds) negative

end Double

namespace Timestamp

variable {time other : Timestamp}

/-- The exact number of seconds since the start of 1970. -/
def exactSeconds (time : Timestamp) : ℚ :=
  time.instant / perSecond

/-- The number of seconds before or after the start of 1970 up to which doubles
lie closer than microseconds. -/
def fineSeconds : ℚ := 2 ^ (33 : ℤ)

theorem exactSeconds_le (ordered : time.instant ≤ other.instant) :
    time.exactSeconds ≤ other.exactSeconds := by
  have instants : (time.instant : ℚ) ≤ other.instant := by
    exact_mod_cast ordered
  unfold exactSeconds
  gcongr
  norm_num [perSecond]

private theorem exactSeconds_add_le (before : time.instant < other.instant) :
    time.exactSeconds + 1 / 1000000 ≤ other.exactSeconds := by
  have instants : (time.instant : ℚ) + 1 ≤ other.instant := by
    exact_mod_cast before
  simp only [exactSeconds, perSecond, Int.cast_ofNat]
  linarith

theorem exists_nearest_seconds (time : Timestamp) :
    ∃ nearest, Double.Nearest time.exactSeconds nearest ∧
      time.seconds.number? = some (Double.clamped nearest) := by
  obtain ⟨magnitude, nonneg, isNearest, number⟩ :=
    Double.exists_nearest_ofQuotient
    (by decide : 0 < perSecond.natAbs) time.instant.natAbs (time.instant < 0)
  have absolute : (time.instant.natAbs : ℚ) / perSecond.natAbs =
      |time.exactSeconds| := by
    rw [exactSeconds, abs_div, Nat.cast_natAbs, Nat.cast_natAbs, Int.cast_abs,
      Int.cast_abs]
  have perSecondPos : (0 : ℚ) < perSecond := by norm_num [perSecond]
  rw [absolute] at isNearest
  refine ⟨_, ?_, number⟩
  by_cases negative : time.instant < 0
  · have below : time.exactSeconds < 0 :=
      div_neg_of_neg_of_pos (by exact_mod_cast negative) perSecondPos
    simp only [negative, decide_true, if_true, neg_mul, one_mul]
    exact ⟨by rwa [abs_neg, abs_of_nonneg nonneg], fun above =>
      absurd below above.not_gt, fun _ => neg_nonpos.mpr nonneg⟩
  · have above : 0 ≤ time.exactSeconds :=
      div_nonneg (by exact_mod_cast not_lt.mp negative) perSecondPos.le
    simp only [negative, decide_false, Bool.false_eq_true, if_false, one_mul]
    exact ⟨by rwa [abs_of_nonneg nonneg], fun _ => nonneg, fun below =>
      absurd below above.not_gt⟩

/-- The seconds of a later time are greater or the same. -/
theorem compare?_seconds_of_le (ordered : time.instant ≤ other.instant) :
    time.seconds.compare? other.seconds = some .lt ∨
      time.seconds.compare? other.seconds = some .eq := by
  obtain ⟨nearest, isNearest, number⟩ := time.exists_nearest_seconds
  obtain ⟨otherNearest, isOther, otherNumber⟩ := other.exists_nearest_seconds
  rw [Double.compare?_of_number number otherNumber, Option.some.injEq,
    Option.some.injEq, compare_lt_iff_lt, compare_eq_iff_eq]
  exact (Double.clamped_mono
    (isNearest.mono isOther (exactSeconds_le ordered))).lt_or_eq

theorem compare?_seconds_eq_lt (before : time.instant < other.instant)
    (fine : |time.exactSeconds| ≤ fineSeconds)
    (otherFine : |other.exactSeconds| ≤ fineSeconds) :
    time.seconds.compare? other.seconds = some .lt := by
  obtain ⟨nearest, isNearest, number⟩ := time.exists_nearest_seconds
  obtain ⟨otherNearest, isOther, otherNumber⟩ := other.exists_nearest_seconds
  have halfUnit : (2 : ℚ) ^ ((33 : ℤ) - 54) = 1 / 2097152 := by norm_num
  have near := isNearest.near (by decide) fine
  have otherNear := isOther.near (by decide) otherFine
  rw [halfUnit] at near otherNear
  have within : ∀ {exact nearest : ℚ}, |exact| ≤ fineSeconds →
      |nearest - exact| ≤ 1 / 2097152 →
      Double.clamped nearest = .rational nearest := by
    intro exact nearest small close
    apply Double.clamped_of_abs_lt
    calc |nearest| = |exact + (nearest - exact)| := by rw [add_sub_cancel]
      _ ≤ |exact| + |nearest - exact| := abs_add_le _ _
      _ ≤ fineSeconds + 1 / 2097152 := add_le_add small close
      _ < 2 ^ (34 : ℤ) := by norm_num [fineSeconds]
      _ ≤ Double.beyond := zpow_le_zpow_right₀ (by norm_num) (by decide)
  rw [Double.compare?_of_number number otherNumber, within fine near,
    within otherFine otherNear, Option.some.injEq, Extended.compare_rational,
    compare_lt_iff_lt]
  linarith [(abs_le.mp near).2, (abs_le.mp otherNear).1,
    exactSeconds_add_le before]

theorem seconds_congr (same : time.instant = other.instant) :
    time.seconds = other.seconds := by
  unfold seconds
  rw [same]

theorem compare?_seconds (fine : |time.exactSeconds| ≤ fineSeconds)
    (otherFine : |other.exactSeconds| ≤ fineSeconds) :
    time.seconds.compare? other.seconds =
      some (compare time.instant other.instant) := by
  obtain ⟨nearest, -, number⟩ := time.exists_nearest_seconds
  obtain ⟨otherNearest, -, otherNumber⟩ := other.exists_nearest_seconds
  rcases lt_trichotomy time.instant other.instant with before | same | after
  · rw [compare?_seconds_eq_lt before fine otherFine,
      compare_lt_iff_lt.mpr before]
  · rw [seconds_congr same, Double.compare?_of_number otherNumber otherNumber,
      compare_eq_iff_eq.mpr rfl, compare_eq_iff_eq.mpr same]
  · have turned := compare?_seconds_eq_lt after otherFine fine
    rw [Double.compare?_of_number otherNumber number, Option.some.injEq,
      compare_lt_iff_lt] at turned
    rw [Double.compare?_of_number number otherNumber,
      compare_gt_iff_gt.mpr turned, compare_gt_iff_gt.mpr after]

end Timestamp

end LedgerRules
