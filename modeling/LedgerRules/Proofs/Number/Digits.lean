import LedgerRules.Proofs.Number.Places

/-!
# Fifteen digits

A decimal of at most fifteen digits is the only one in the interval that reads
back as its nearest double, as far as grids of so many digits go.  So the
shortest digits of that double are those of the decimal, and taking a decimal as
its nearest double and back gives the number that it was.
-/

namespace LedgerRules

namespace Scientific

private theorem value_trimmed (digits : ℕ) (exponent : ℤ) :
    ((trimmed digits exponent).digits : ℚ) *
      10 ^ (trimmed digits exponent).exponent =
      digits * 10 ^ exponent := by
  fun_induction trimmed digits exponent with
  | case1 exponent => simp
  | case2 digits exponent nonzero divisible induction =>
      rw [induction, zpow_add₀ (by norm_num), zpow_one]
      have whole : ((digits / 10 : ℕ) : ℚ) * 10 = digits := by
        exact_mod_cast Nat.div_mul_cancel (Nat.dvd_of_mod_eq_zero divisible)
      rw [← whole]
      ring
  | case3 => rfl

end Scientific

namespace Double

namespace Interval

/-- A number in an interval, whose ends belong to it when it is closed. -/
def Contains (interval : Interval) (number : ℚ) : Prop :=
  if interval.closed then
    (interval.low : ℚ) ≤ number * interval.scale ∧
    number * interval.scale ≤ interval.high
  else (interval.low : ℚ) < number * interval.scale ∧
    number * interval.scale < interval.high

theorem Contains.convex {interval : Interval} {least number greatest : ℚ}
    (containsLeast : interval.Contains least)
    (containsGreatest : interval.Contains greatest) (above : least ≤ number)
    (below : number ≤ greatest) : interval.Contains number := by
  have scaledAbove := mul_le_mul_of_nonneg_right above
    (Nat.cast_nonneg (α := ℚ) interval.scale)
  have scaledBelow := mul_le_mul_of_nonneg_right below
    (Nat.cast_nonneg (α := ℚ) interval.scale)
  unfold Contains at *
  split
  case isTrue closed =>
    rw [if_pos closed] at containsLeast containsGreatest
    exact ⟨containsLeast.1.trans scaledAbove,
      scaledBelow.trans containsGreatest.2⟩
  case isFalse opened =>
    rw [if_neg opened] at containsLeast containsGreatest
    exact ⟨containsLeast.1.trans_le scaledAbove,
      scaledBelow.trans_lt containsGreatest.2⟩

end Interval

section Interval

variable {significand : ℕ} {exponent : ℤ}

/-- How far the interval of a double reaches down, in quarters of its unit. -/
def lowerGap (significand : ℕ) (exponent : ℤ) : ℕ :=
  if significand = Nat.pow 2 52 ∧ leastExponent < exponent then 1 else 2

theorem scale_interval_pos (significand : ℕ) (exponent : ℤ) :
    0 < (interval significand exponent).scale := by
  unfold interval
  dsimp only
  split
  · rw [Nat.one_shiftLeft]
    positivity
  · exact Nat.one_pos

private theorem unit_interval (exponent : ℤ) :
    (((if exponent - 2 < 0 then 1 else 1 <<< (exponent - 2).toNat : ℕ)) : ℚ) =
      2 ^ (exponent - 2) * (interval significand exponent).scale := by
  unfold interval
  dsimp only
  split
  case isTrue negative =>
    push_cast [Nat.one_shiftLeft]
    rw [pow_toNat_neg 2 negative, mul_inv_cancel₀ (by positivity)]
  case isFalse nonnegative =>
    push_cast [Nat.one_shiftLeft]
    rw [pow_toNat_of_nonneg 2 nonnegative, mul_one]

theorem interval_quarters (positive : 0 < significand) (exponent : ℤ) :
    let quarter := (2 : ℚ) ^ (exponent - 2) *
      (interval significand exponent).scale
    ((interval significand exponent).low : ℚ) =
        (4 * significand - lowerGap significand exponent) * quarter ∧
      ((interval significand exponent).centre : ℚ) = 4 * significand * quarter ∧
      ((interval significand exponent).high : ℚ) = (4 * significand + 2) *
        quarter := by
  have reaches : lowerGap significand exponent ≤ 4 * significand := by
    unfold lowerGap
    split <;> omega
  have unit := @unit_interval significand exponent
  have low : (interval significand exponent).low =
      (4 * significand - lowerGap significand exponent) *
        if exponent - 2 < 0 then 1 else 1 <<< (exponent - 2).toNat := rfl
  have centre : (interval significand exponent).centre = 4 * significand *
      if exponent - 2 < 0 then 1 else 1 <<< (exponent - 2).toNat := rfl
  have high : (interval significand exponent).high = (4 * significand + 2) *
      if exponent - 2 < 0 then 1 else 1 <<< (exponent - 2).toNat := rfl
  dsimp only
  rw [← unit, low, centre, high]
  refine ⟨?_, ?_, ?_⟩
  · rw [Nat.cast_mul, Nat.cast_sub reaches, Nat.cast_mul, Nat.cast_ofNat]
  · rw [Nat.cast_mul, Nat.cast_mul, Nat.cast_ofNat]
  · rw [Nat.cast_mul, Nat.cast_add, Nat.cast_mul, Nat.cast_ofNat,
      Nat.cast_ofNat]

theorem contains_iff (positive : 0 < significand) {exponent : ℤ} {number : ℚ} :
    (interval significand exponent).Contains number ↔
      if significand % 2 = 0 then
        (4 * significand - lowerGap significand exponent) *
          (2 : ℚ) ^ (exponent - 2) ≤ number ∧
          number ≤ (4 * significand + 2) * 2 ^ (exponent - 2)
      else
        (4 * significand - lowerGap significand exponent) *
          (2 : ℚ) ^ (exponent - 2) < number ∧
          number < (4 * significand + 2) * 2 ^ (exponent - 2) := by
  obtain ⟨low, -, high⟩ := interval_quarters positive exponent
  have scale : (0 : ℚ) < (interval significand exponent).scale := by
    exact_mod_cast scale_interval_pos significand exponent
  have closed : (interval significand exponent).closed =
      decide (significand % 2 = 0) := rfl
  unfold Interval.Contains
  rw [closed, low, high, ← mul_assoc, ← mul_assoc]
  simp only [decide_eq_true_eq, mul_le_mul_iff_left₀ scale,
    mul_lt_mul_iff_left₀ scale]

theorem zpow_eq_four_mul (exponent : ℤ) :
    (2 : ℚ) ^ exponent = 4 * 2 ^ (exponent - 2) := by
  rw [zpow_sub₀ two_ne_zero]
  norm_num
  ring

theorem lowerGap_bounds (significand : ℕ) (exponent : ℤ) :
    (1 : ℚ) ≤ lowerGap significand exponent ∧
    (lowerGap significand exponent : ℚ) ≤ 2 := by
  unfold lowerGap
  split <;> norm_num

/-- A double lies in its interval. -/
theorem contains_centre (positive : 0 < significand) (exponent : ℤ) :
    (interval significand exponent).Contains (significand * 2 ^ exponent) := by
  have quarter : (0 : ℚ) < 2 ^ (exponent - 2) := by positivity
  obtain ⟨gap, -⟩ := lowerGap_bounds significand exponent
  rw [contains_iff positive, zpow_eq_four_mul exponent]
  split
  · constructor <;> nlinarith
  · constructor <;> nlinarith

private theorem centre_div_scale (positive : 0 < significand) (exponent : ℤ) :
    ((interval significand exponent).centre : ℚ) /
      (interval significand exponent).scale =
      significand * 2 ^ exponent := by
  have scale : (0 : ℚ) < (interval significand exponent).scale := by
    exact_mod_cast scale_interval_pos significand exponent
  rw [(interval_quarters positive exponent).2.1, zpow_eq_four_mul exponent]
  field_simp

theorem centre_interval_pos (positive : 0 < significand) (exponent : ℤ) :
    0 < (interval significand exponent).centre := by
  have scale : (0 : ℚ) < (interval significand exponent).scale := by
    exact_mod_cast scale_interval_pos significand exponent
  have centre : (0 : ℚ) < (interval significand exponent).centre := by
    rw [(interval_quarters positive exponent).2.1]
    positivity
  exact_mod_cast centre

theorem near_of_contains (positive : 0 < significand) {number : ℚ}
    (contains : (interval significand exponent).Contains number) :
    |number - significand * 2 ^ exponent| ≤ 1 / 2 * 2 ^ exponent := by
  have quarter : (0 : ℚ) < 2 ^ (exponent - 2) := by positivity
  obtain ⟨-, gap⟩ := lowerGap_bounds significand exponent
  have bounds : (4 * significand - lowerGap significand exponent) *
      (2 : ℚ) ^ (exponent - 2) ≤
      number ∧ number ≤ (4 * significand + 2) * 2 ^ (exponent - 2) := by
    rw [contains_iff positive] at contains
    split at contains
    · exact contains
    · exact ⟨contains.1.le, contains.2.le⟩
  rw [zpow_eq_four_mul exponent, abs_le]
  constructor <;> nlinarith

private theorem contains_of_roundsTo (positive : 0 < significand) {number : ℚ}
    (rounds : RoundsTo (number / 2 ^ exponent) significand)
    (above : significand = Nat.pow 2 52 → significand * 2 ^ exponent ≤ number) :
    (interval significand exponent).Contains number := by
  have quarter : (0 : ℚ) < 2 ^ (exponent - 2) := by positivity
  have unit : (0 : ℚ) < 2 ^ exponent := by positivity
  have scaled : number = number / 2 ^ exponent * (4 * 2 ^ (exponent - 2)) := by
    rw [← zpow_eq_four_mul, div_mul_cancel₀ number unit.ne']
  rw [contains_iff positive]
  generalize number / 2 ^ exponent = ratio at rounds scaled
  split
  case isTrue =>
    obtain ⟨least, greatest⟩ := abs_le.mp rounds.near
    push_cast at least greatest
    refine ⟨?_, by rw [scaled]; nlinarith⟩
    by_cases power : significand = Nat.pow 2 52
    · obtain ⟨gap, -⟩ := lowerGap_bounds significand exponent
      have reached := above power
      rw [zpow_eq_four_mul] at reached
      nlinarith
    · rw [lowerGap, if_neg (fun both => power both.1), scaled]
      push_cast
      nlinarith
  case isFalse odd =>
    have power : significand ≠ Nat.pow 2 52 := by
      rintro rfl
      exact odd rfl
    have strictly : |ratio - ((significand : ℤ) : ℚ)| < 1 / 2 := by
      rcases rounds with near | ⟨-, even⟩
      · exact near
      · exact (odd (Nat.even_iff.mp (by exact_mod_cast even))).elim
    obtain ⟨least, greatest⟩ := abs_lt.mp strictly
    push_cast at least greatest
    rw [lowerGap, if_neg (fun both => power both.1), scaled]
    push_cast
    constructor <;> nlinarith

private theorem contains_of_carried {exponent : ℤ} {number : ℚ}
    (rounds : RoundsTo (number / 2 ^ exponent) (Nat.pow 2 53 : ℕ))
    (below : number < 2 ^ (exponent + 53)) :
    (interval (Nat.pow 2 52) (exponent + 1)).Contains number := by
  have unit : (0 : ℚ) < 2 ^ exponent := by positivity
  have half : (2 : ℚ) ^ (exponent + 1 - 2) = 1 / 2 * 2 ^ exponent := by
    rw [show exponent + 1 - 2 = exponent - 1 by ring, zpow_sub₀ two_ne_zero]
    norm_num
    ring
  have power : (2 : ℚ) ^ (exponent + 53) = 2 ^ exponent * 2 ^ 53 := by
    rw [zpow_add₀ two_ne_zero]
    norm_num
  have gap : lowerGap (Nat.pow 2 52) (exponent + 1) = 1 ∨
      lowerGap (Nat.pow 2 52) (exponent + 1) = 2 := by
    unfold lowerGap
    split
    · exact .inl rfl
    · exact .inr rfl
  have least := (abs_le.mp rounds.near).1
  rw [neg_le_sub_iff_le_add, ← sub_le_iff_le_add, le_div_iff₀ unit] at least
  rw [contains_iff (by norm_num), if_pos (by norm_num), half]
  rw [power] at below
  norm_num at least below ⊢
  rcases gap with one | two
  · rw [one]
    constructor <;> linarith
  · rw [two]
    constructor <;> linarith

private theorem ofQuotient_contains {numerator denominator : ℕ}
    (numerators : 0 < numerator) (positive : 0 < denominator)
    (low : (10 : ℚ) ^ (-100 : ℤ) ≤ numerator / denominator)
    (high : (numerator : ℚ) / denominator < 10 ^ (100 : ℤ)) (negative : Bool) :
    ∃ significand exponent,
      ofQuotient negative numerator denominator =
        .finite negative significand exponent ∧
        Nat.pow 2 52 ≤ significand ∧
        (interval significand exponent).Contains (numerator / denominator) := by
  obtain ⟨exponent, significand, isExponent, rounds, nearest⟩ :=
    exists_ofQuotient numerators positive negative
  rw [nearest]
  have least : leastExponent = -1074 := rfl
  have greatest : greatestExponent = 971 := rfl
  have bits : (10 : ℚ) ^ (100 : ℤ) ≤ 2 ^ (400 : ℤ) :=
    calc (10 : ℚ) ^ (100 : ℤ) ≤ 16 ^ (100 : ℤ) := by norm_num
      _ = 2 ^ (400 : ℤ) := by
        rw [show (16 : ℚ) = 2 ^ (4 : ℤ) by norm_num, ← zpow_mul]; norm_num
  have smallBits : (2 : ℚ) ^ (-400 : ℤ) ≤ 10 ^ (-100 : ℤ) := by
    rw [zpow_neg, zpow_neg]
    exact inv_anti₀ (by positivity) bits
  have above := (zpow_lt_zpow_iff_right₀ (by norm_num : (1 : ℚ) < 2)).mp
    ((smallBits.trans low).trans_lt isExponent.below)
  have full := isExponent.full (by omega)
  have within := (zpow_lt_zpow_iff_right₀ (by norm_num : (1 : ℚ) < 2)).mp
    (full.trans_lt (high.trans_le bits))
  have unit : (0 : ℚ) < 2 ^ exponent := by positivity
  have fullPower : (2 : ℚ) ^ (exponent + 52) = 2 ^ 52 * 2 ^ exponent := by
    rw [zpow_add₀ two_ne_zero, mul_comm]
    norm_num
  rw [fullPower] at full
  split
  case isTrue carried =>
    refine ⟨Nat.pow 2 52, exponent + 1, ?_, le_rfl, ?_⟩
    · rw [pack, if_neg (by omega)]
    · subst carried
      exact contains_of_carried rounds isExponent.below
  case isFalse =>
    have reached : Nat.pow 2 52 ≤ significand := by
      have least := (abs_le.mp rounds.near).2
      have atLeast := (le_div_iff₀ unit).mpr full
      have nearlyReached : (2 : ℚ) ^ 52 - 1 < significand := by
        push_cast at least
        linarith
      rw [sub_lt_iff_lt_add] at nearlyReached
      exact Nat.lt_succ_iff.mp (by exact_mod_cast nearlyReached)
    refine ⟨significand, exponent, ?_, reached, ?_⟩
    · rw [pack, if_neg (by omega)]
    · refine contains_of_roundsTo (lt_of_lt_of_le (by norm_num) reached) rounds
        fun power => ?_
      rw [power, Nat.pow_eq, Nat.cast_pow, Nat.cast_ofNat]
      exact full

end Interval

section Grid

variable {interval : Interval} {exponent : ℤ}

/-- What the ends of an interval are multiplied by to lie on a grid. -/
def gridScale (exponent : ℤ) : ℕ :=
  if exponent < 0 then Nat.pow 10 (-exponent).toNat else 1

/-- The distance of the points of a grid, over the scales of the interval and
the grid. -/
def gridStep (interval : Interval) (exponent : ℤ) : ℕ :=
  if exponent < 0 then interval.scale else interval.scale *
    Nat.pow 10 exponent.toNat

theorem gridScale_pos (exponent : ℤ) : 0 < gridScale exponent := by
  unfold gridScale
  split
  · exact Nat.pow_pos (by norm_num)
  · exact Nat.one_pos

theorem gridStep_eq (interval : Interval) (exponent : ℤ) :
    (gridStep interval exponent : ℚ) = 10 ^ exponent * interval.scale *
      gridScale exponent := by
  unfold gridStep gridScale
  split
  case isTrue negative =>
    have nonzero : (10 : ℚ) ^ exponent ≠ 0 := by positivity
    rw [Nat.pow_eq, Nat.cast_pow, Nat.cast_ofNat, pow_toNat_neg 10 negative]
    field_simp
  case isFalse nonnegative =>
    rw [Nat.pow_eq, Nat.cast_mul, Nat.cast_pow, Nat.cast_ofNat,
      pow_toNat_of_nonneg 10 nonnegative, Nat.cast_one]
    ring

private theorem holds_iff_contains (point : ℕ) :
    interval.holds (interval.low * gridScale exponent)
      (point * gridStep interval exponent)
        (interval.high * gridScale exponent) = true ↔
      interval.Contains (point * 10 ^ exponent) := by
  have scale : (0 : ℚ) < gridScale exponent := by
    exact_mod_cast gridScale_pos exponent
  have scaled : ((point * gridStep interval exponent : ℕ) : ℚ) =
      point * 10 ^ exponent * interval.scale * gridScale exponent := by
    rw [Nat.cast_mul, gridStep_eq]
    ring
  unfold Interval.holds Interval.Contains
  split
  · simp only [Bool.and_eq_true, decide_eq_true_eq]
    rw [← Nat.cast_le (α := ℚ), ← Nat.cast_le (α := ℚ), scaled, Nat.cast_mul,
      Nat.cast_mul, mul_le_mul_iff_left₀ scale, mul_le_mul_iff_left₀ scale]
  · simp only [Bool.and_eq_true, decide_eq_true_eq]
    rw [← Nat.cast_lt (α := ℚ), ← Nat.cast_lt (α := ℚ), scaled, Nat.cast_mul,
      Nat.cast_mul, mul_lt_mul_iff_left₀ scale, mul_lt_mul_iff_left₀ scale]

/-- The multiple of a power of ten that is next below the middle of an
interval. -/
def gridBelow (interval : Interval) (exponent : ℤ) : ℕ :=
  interval.centre * gridScale exponent / gridStep interval exponent

theorem gridBelow_bounds (positive : 0 < interval.scale) (exponent : ℤ) :
    (gridBelow interval exponent : ℚ) * 10 ^ exponent ≤
        (interval.centre : ℚ) / interval.scale ∧
      (interval.centre : ℚ) / interval.scale <
        ((gridBelow interval exponent + 1 : ℕ) : ℚ) * 10 ^ exponent := by
  have scale : (0 : ℚ) < interval.scale := by exact_mod_cast positive
  have factor : (0 : ℚ) < gridScale exponent := by
    exact_mod_cast gridScale_pos exponent
  have step : 0 < gridStep interval exponent := by
    have stepValue := gridStep_eq interval exponent
    have stepPositive : (0 : ℚ) < gridStep interval exponent := by
      rw [stepValue]
      positivity
    exact_mod_cast stepPositive
  have inSteps : ∀ point : ℕ, ((point * gridStep interval exponent : ℕ) : ℚ) =
      point * 10 ^ exponent * interval.scale * gridScale exponent := by
    intro point
    rw [Nat.cast_mul, gridStep_eq]
    ring
  have low : gridBelow interval exponent * gridStep interval exponent ≤
      interval.centre * gridScale exponent := Nat.div_mul_le_self _ _
  have high : interval.centre * gridScale exponent <
      (gridBelow interval exponent + 1) * gridStep interval exponent := by
    rw [Nat.mul_comm _ (gridStep interval exponent)]
    exact Nat.lt_mul_div_succ _ step
  rw [← Nat.cast_le (α := ℚ), inSteps, Nat.cast_mul,
    mul_le_mul_iff_left₀ factor] at low
  rw [← Nat.cast_lt (α := ℚ), inSteps, Nat.cast_mul,
    mul_lt_mul_iff_left₀ factor] at high
  exact ⟨(le_div_iff₀ scale).mpr low, (div_lt_iff₀ scale).mpr high⟩

/-- The neighbour that is chosen, by which of the two are in the interval. -/
def chosenPoint (below remainder step : ℕ) (lowHit highHit : Bool) : Option ℕ :=
  if lowHit && highHit then
    if 2 * remainder < step then some below
    else if step < 2 * remainder then some (below + 1)
    else some (below + below % 2)
  else if lowHit then some below
  else if highHit then some (below + 1)
  else none

theorem chosenPoint_cases (hit : ℕ → Bool) (below remainder step : ℕ) :
    (∃ point, chosenPoint below remainder step (hit below) (hit (below + 1)) =
      some point ∧
        hit point = true) ∨
      chosenPoint below remainder step (hit below) (hit (below + 1)) = none ∧
        hit below = false ∧ hit (below + 1) = false := by
  unfold chosenPoint
  cases low : hit below with
  | false =>
      cases high : hit (below + 1) with
      | false => exact .inr ⟨rfl, rfl, rfl⟩
      | true => exact .inl ⟨below + 1, rfl, high⟩
  | true =>
      cases high : hit (below + 1) with
      | false => exact .inl ⟨below, rfl, low⟩
      | true =>
          left
          simp only [Bool.and_self, if_true]
          split
          · exact ⟨below, rfl, low⟩
          · split
            · exact ⟨below + 1, rfl, high⟩
            · refine ⟨below + below % 2, rfl, ?_⟩
              rcases Nat.mod_two_eq_zero_or_one below with even | odd
              · rw [even]
                exact low
              · rw [odd]
                exact high

theorem gridPoint_cases (positive : 0 < interval.scale)
    (contains : interval.Contains (interval.centre / interval.scale))
    (exponent : ℤ) :
    (∃ point, gridPoint interval exponent = some point ∧
        interval.Contains (point * 10 ^ exponent)) ∨
      gridPoint interval exponent = none ∧
        ∀ point : ℕ, ¬ interval.Contains (point * 10 ^ exponent) := by
  obtain ⟨atMost, above⟩ := gridBelow_bounds positive exponent
  let hit : ℕ → Bool := fun point =>
    interval.holds (interval.low * gridScale exponent)
      (point * gridStep interval exponent)
      (interval.high * gridScale exponent)
  have hit_iff : ∀ point, hit point = true ↔
      interval.Contains (point * 10 ^ exponent) :=
    holds_iff_contains
  have isChosen : gridPoint interval exponent =
      chosenPoint (gridBelow interval exponent)
      (interval.centre * gridScale exponent % gridStep interval exponent)
      (gridStep interval exponent) (hit (gridBelow interval exponent))
      (hit (gridBelow interval exponent + 1)) := rfl
  rw [isChosen]
  rcases chosenPoint_cases hit (gridBelow interval exponent)
    (interval.centre * gridScale exponent % gridStep interval exponent)
    (gridStep interval exponent)
      with ⟨point, found, hits⟩ | ⟨none, lowMiss, highMiss⟩
  · exact .inl ⟨point, found, (hit_iff point).mp hits⟩
  · refine .inr ⟨none, fun point other => ?_⟩
    have unit : (0 : ℚ) < 10 ^ exponent := by positivity
    -- a point below the middle has the lower neighbour above it, any other one
    -- the upper below it
    rcases Nat.lt_or_ge (gridBelow interval exponent) point with later | earlier
    · have next : ((gridBelow interval exponent + 1 : ℕ) : ℚ) * 10 ^ exponent ≤
          point * 10 ^ exponent :=
        mul_le_mul_of_nonneg_right (by exact_mod_cast later) unit.le
      have hits := (hit_iff _).mpr (contains.convex other above.le next)
      rw [highMiss] at hits
      cases hits
    · have previous : (point : ℚ) * 10 ^ exponent ≤
          gridBelow interval exponent * 10 ^ exponent :=
        mul_le_mul_of_nonneg_right (by exact_mod_cast earlier) unit.le
      have hits := (hit_iff _).mpr (other.convex contains previous atMost)
      rw [lowMiss] at hits
      cases hits

end Grid

section Leading

theorem decimalLength_bounds {number : ℕ} (positive : 0 < number) :
    (10 : ℚ) ^ ((decimalLength number : ℤ) - 1) ≤ number ∧
      ((number + 1 : ℕ) : ℚ) ≤ 10 ^ (decimalLength number : ℤ) := by
  rw [decimalLength_eq_log positive]
  constructor
  · rw [Nat.cast_add, Nat.cast_one, add_sub_cancel_right, zpow_natCast]
    exact_mod_cast Nat.pow_log_le_self 10 positive.ne'
  · rw [zpow_natCast]
    exact_mod_cast Nat.lt_pow_succ_log_self (by norm_num) number

private theorem leadingExponent_bounds {centre scale : ℕ} (centres : 0 < centre)
    (positive : 0 < scale) :
    (10 : ℚ) ^ leadingExponent centre scale ≤ (centre : ℚ) / scale ∧
      (centre : ℚ) / scale < 10 ^ (leadingExponent centre scale + 1) := by
  have scaleQ : (0 : ℚ) < scale := by exact_mod_cast positive
  have centreQ : (0 : ℚ) < centre := by exact_mod_cast centres
  unfold leadingExponent
  split
  case isTrue atLeastOne =>
    obtain ⟨low, high⟩ := decimalLength_bounds (Nat.div_pos atLeastOne positive)
    have below : ((centre / scale : ℕ) : ℚ) ≤ centre / scale := Nat.cast_div_le
    have above : (centre : ℚ) / scale < ((centre / scale + 1 : ℕ) : ℚ) := by
      rw [div_lt_iff₀ scaleQ]
      rw [mul_comm]
      exact_mod_cast Nat.lt_mul_div_succ centre positive
    rw [sub_add_cancel]
    exact ⟨low.trans below, above.trans_le high⟩
  case isFalse less =>
    have quotient : 0 < (scale - 1) / centre := Nat.div_pos (by omega) centres
    obtain ⟨low, high⟩ := decimalLength_bounds quotient
    generalize decimalLength ((scale - 1) / centre) = length at low high ⊢
    have below : ((scale - 1) / centre : ℕ) * (centre : ℚ) < scale := by
      have product := Nat.div_mul_le_self (scale - 1) centre
      exact_mod_cast (show (scale - 1) / centre * centre < scale by omega)
    have above : (scale : ℚ) ≤ centre * ((scale - 1) / centre + 1 : ℕ) := by
      have product := Nat.lt_mul_div_succ (scale - 1) centres
      exact_mod_cast (show scale ≤ centre * ((scale - 1) / centre + 1) by omega)
    constructor
    · rw [zpow_neg, le_div_iff₀ scaleQ, inv_mul_le_iff₀ (by positivity)]
      calc (scale : ℚ) ≤ centre * ((scale - 1) / centre + 1 : ℕ) := above
        _ ≤ centre * 10 ^ (length : ℤ) :=
          mul_le_mul_of_nonneg_left high centreQ.le
        _ = 10 ^ (length : ℤ) * centre := mul_comm _ _
    · rw [div_lt_iff₀ scaleQ, show -(length : ℤ) + 1 =
        -((length : ℤ) - 1) by ring, zpow_neg, lt_inv_mul_iff₀ (by positivity)]
      calc (10 : ℚ) ^ ((length : ℤ) - 1) * centre
          ≤ ((scale - 1) / centre : ℕ) * centre :=
            mul_le_mul_of_nonneg_right low centreQ.le
        _ < scale := below

end Leading

section FirstHit

variable {interval : Interval}

theorem firstHit_of_some {leading : ℤ} {digits point : ℕ}
    (found : gridPoint interval (leading - digits + 1) = some point)
    (remaining : ℕ) :
    firstHit interval leading remaining digits =
      .trimmed point (leading - digits + 1) := by
  unfold firstHit
  simp only [found]

theorem firstHit_of_none {leading : ℤ} {digits : ℕ}
    (nothing : gridPoint interval (leading - digits + 1) = none)
    (remaining : ℕ) :
    firstHit interval leading (remaining + 1) digits =
      firstHit interval leading remaining (digits + 1) := by
  conv_lhs => unfold firstHit
  simp only [nothing]

theorem firstHit_spec (positive : 0 < interval.scale)
    (contains : interval.Contains (interval.centre / interval.scale))
    {leading exponent : ℤ} {point : ℕ}
    (hit : interval.Contains (point * 10 ^ exponent)) :
    ∀ remaining digits : ℕ, exponent ≤ leading - digits + 1 →
      leading - digits + 1 ≤ exponent + remaining →
      ∃ (found : ℕ) (place : ℤ), firstHit interval leading remaining digits =
          .trimmed found place ∧ exponent ≤ place ∧
          interval.Contains (found * 10 ^ place) := by
  intro remaining
  induction remaining with
  | zero =>
      intro digits coarser finer
      rcases gridPoint_cases positive contains (leading - digits + 1) with
        ⟨found, isFound, inside⟩ | ⟨_, nothing⟩
      · exact ⟨found, leading - digits + 1, firstHit_of_some isFound _, coarser,
          inside⟩
      · have same : leading - digits + 1 = exponent := by omega
        rw [same] at nothing
        exact (nothing point hit).elim
  | succ remaining induction =>
      intro digits coarser finer
      rcases gridPoint_cases positive contains (leading - digits + 1) with
        ⟨found, isFound, inside⟩ | ⟨isNone, nothing⟩
      · exact ⟨found, leading - digits + 1, firstHit_of_some isFound _, coarser,
          inside⟩
      · have apart : leading - digits + 1 ≠ exponent := by
          intro same
          rw [same] at nothing
          exact nothing point hit
        obtain ⟨found, place, search, finerPlace, inside⟩ :=
          induction (digits + 1) (by push_cast; omega) (by push_cast; omega)
        exact ⟨found, place, (firstHit_of_none isNone remaining).trans search,
          finerPlace, inside⟩

end FirstHit

theorem multiples_eq_of_near {number other : ℕ} {exponent : ℤ}
    (near : |(number : ℚ) * 10 ^ exponent - other * 10 ^ exponent| <
      10 ^ exponent) :
    number = other := by
  have unit : (0 : ℚ) < 10 ^ exponent := by positivity
  rw [← sub_mul, abs_mul, abs_of_pos unit, mul_lt_iff_lt_one_left unit] at near
  have whole : |(number : ℤ) - other| < 1 := by exact_mod_cast near
  have same := Int.abs_lt_one_iff.mp whole
  omega

theorem cast_mul_pow_toNat (number : ℕ) {common place : ℤ}
    (finer : common ≤ place) :
    ((number * 10 ^ (place - common).toNat : ℕ) : ℚ) * 10 ^ common = number *
      10 ^ place := by
  rw [mul_zpow_eq_of_le (by norm_num) (number : ℚ) finer]
  push_cast
  rfl

section Shortest

variable {significand : ℕ} {exponent : ℤ} {coefficient : ℕ} {place : ℤ}

private theorem point_eq_of_contains (positive : 0 < significand) {common : ℤ}
    (wide : (2 : ℚ) ^ exponent < 10 ^ common) {point other : ℕ}
    (contains : (interval significand exponent).Contains (point * 10 ^ common))
    (otherContains : (interval significand exponent).Contains
      (other * 10 ^ common)) :
    point = other := by
  apply multiples_eq_of_near
  have near := near_of_contains positive contains
  have otherNear := near_of_contains positive otherContains
  rw [abs_sub_comm] at otherNear
  calc |(point : ℚ) * 10 ^ common - other * 10 ^ common|
      ≤ |(point : ℚ) * 10 ^ common - significand * 2 ^ exponent| +
          |(significand : ℚ) * 2 ^ exponent - other * 10 ^ common| :=
            abs_sub_le _ _ _
    _ ≤ 1 / 2 * 2 ^ exponent + 1 / 2 * 2 ^ exponent := add_le_add near otherNear
    _ = 2 ^ exponent := by ring
    _ < 10 ^ common := wide

/-- The shortest digits of a double are those of a point that stands alone in
its interval, as far as the multiples of one power of ten go, when the search
comes to that power. -/
theorem value_shortest_of_alone (positive : 0 < significand) {common : ℤ}
    {point : ℕ}
    (contains : (interval significand exponent).Contains (point * 10 ^ common))
    (alone : ∀ other : ℕ,
      (interval significand exponent).Contains (other * 10 ^ common) →
      other = point)
    (low : (10 : ℚ) ^ common ≤ significand * 2 ^ exponent)
    (high : (significand : ℚ) * 2 ^ exponent < 10 ^ (common + 17)) :
    ((shortest significand exponent).digits : ℚ) *
      10 ^ (shortest significand exponent).exponent =
      point * 10 ^ common := by
  have scale := scale_interval_pos significand exponent
  have middle := centre_div_scale positive exponent
  have inside := contains_centre positive exponent
  obtain ⟨leads, isLeading⟩ :=
    leadingExponent_bounds (centre_interval_pos positive exponent) scale
  rw [middle] at leads isLeading
  have searched : shortest significand exponent =
      firstHit (interval significand exponent) (leadingExponent
        (interval significand exponent).centre
          (interval significand exponent).scale) 16 1 := by
    rw [shortest, if_neg positive.ne']
  rw [searched]
  generalize leadingExponent _ _ = leading at leads isLeading
  have coarser := (zpow_lt_zpow_iff_right₀ (by norm_num : (1 : ℚ) < 10)).mp
    (low.trans_lt isLeading)
  have finer := (zpow_lt_zpow_iff_right₀ (by norm_num : (1 : ℚ) < 10)).mp
    (leads.trans_lt high)
  obtain ⟨found, foundPlace, search, notFiner, foundContains⟩ :=
    firstHit_spec scale
    (middle ▸ inside) contains 16 1
    (show common ≤ leading - ((1 : ℕ) : ℤ) + 1 by push_cast; omega)
      (by push_cast; omega)
  -- what is found stands on the common grid as well, where the point is alone
  rw [← cast_mul_pow_toNat found notFiner] at foundContains
  rw [search, Scientific.value_trimmed, ← cast_mul_pow_toNat found notFiner,
    alone _ foundContains]

private theorem exists_grid (full : Nat.pow 2 52 ≤ significand)
    (short : coefficient < 10 ^ 15)
    (contains : (interval significand exponent).Contains
      (coefficient * 10 ^ place)) :
    ∃ common ≤ place, (10 : ℚ) ^ common ≤ significand * 2 ^ exponent ∧
      (significand : ℚ) * 2 ^ exponent < 10 ^ (common + 17) ∧
      (2 : ℚ) ^ exponent < 10 ^ common := by
  have positive : 0 < significand :=
    lt_of_lt_of_le (Nat.pow_pos (by norm_num)) full
  have unit : (0 : ℚ) < 2 ^ exponent := by positivity
  have bits : (2 : ℚ) ^ 52 * 2 ^ exponent ≤ significand * 2 ^ exponent := by
    apply mul_le_mul_of_nonneg_right _ unit.le
    exact_mod_cast full
  obtain ⟨leading, low, high⟩ := exists_mem_Ico_zpow
    (show 0 < (significand : ℚ) * 2 ^ exponent by positivity)
      (by norm_num : (1 : ℚ) < 10)
  have nearly := (abs_le.mp (near_of_contains positive contains)).1
  have digits : (coefficient : ℚ) * 10 ^ place < 10 ^ 15 * 10 ^ place :=
    mul_lt_mul_of_pos_right (by exact_mod_cast short) (by positivity)
  have placeWide : (2 : ℚ) ^ exponent < 10 ^ place := by linarith
  have leadingWide : (2 : ℚ) ^ exponent < 10 ^ leading := by
    have next := high
    rw [zpow_add₀ (by norm_num), zpow_one] at next
    linarith
  have near : leading - 1 < place + 15 := by
    apply (zpow_lt_zpow_iff_right₀ (by norm_num : (1 : ℚ) < 10)).mp
    calc (10 : ℚ) ^ (leading - 1) = 1 / 10 * 10 ^ leading := by
          rw [zpow_sub₀ (by norm_num)]
          ring
      _ ≤ coefficient * 10 ^ place := by linarith
      _ < 10 ^ 15 * 10 ^ place := digits
      _ = 10 ^ (place + 15) := by
          rw [zpow_add₀ (by norm_num), mul_comm]
          norm_num
  refine ⟨min place leading, min_le_left _ _, ?_, ?_, ?_⟩
  · exact (zpow_le_zpow_right₀ (by norm_num) (min_le_right _ _)).trans low
  · exact high.trans_le (zpow_le_zpow_right₀ (by norm_num) (by omega))
  · rcases min_choice place leading with isPlace | isLeading
    · rwa [isPlace]
    · rwa [isLeading]

private theorem value_shortest (full : Nat.pow 2 52 ≤ significand)
    (short : coefficient < 10 ^ 15)
    (contains : (interval significand exponent).Contains
      (coefficient * 10 ^ place)) :
    ((shortest significand exponent).digits : ℚ) *
      10 ^ (shortest significand exponent).exponent =
      coefficient * 10 ^ place := by
  have positive : 0 < significand :=
    lt_of_lt_of_le (Nat.pow_pos (by norm_num)) full
  obtain ⟨common, atMost, low, high, wide⟩ := exists_grid full short contains
  rw [← cast_mul_pow_toNat coefficient atMost] at contains ⊢
  exact value_shortest_of_alone positive contains
    (fun _ otherContains => point_eq_of_contains positive wide otherContains
      contains) low high

end Shortest

end Double

namespace Decimal

/-- A decimal of at most fifteen digits that is neither very great nor very near
to zero. -/
def IsShort : Decimal → Prop
  | .finite _ coefficient exponent =>
      coefficient < 10 ^ 15 ∧ -100 ≤ exponent ∧ exponent ≤ 80
  | _ => False

/-- The decimal of a double denotes the number of its shortest digits. -/
theorem value?_ofDouble (negative : Bool) (significand : ℕ) (exponent : ℤ) :
    (ofDouble (.finite negative significand exponent)).value? =
      some ((if negative then (-1 : ℚ) else 1) *
        ((Double.shortest significand exponent).digits *
          10 ^ (Double.shortest significand exponent).exponent)) := by
  simp only [ofDouble]
  split
  case isTrue zero =>
    rw [zero]
    simp [value?, Double.shortest]
  case isFalse =>
    split
    case isTrue whole =>
      simp only [Bool.and_eq_true, decide_eq_true_eq] at whole
      have places :
          (10 : ℚ) ^ ((Double.shortest significand exponent).exponent.toNat +
          1) *
          10 ^ (-1 : ℤ) =
            10 ^ (Double.shortest significand exponent).exponent := by
        rw [pow_succ, pow_toNat_of_nonneg 10 (not_lt.mpr whole.2), zpow_neg_one,
          mul_assoc, mul_inv_cancel₀ (by norm_num), mul_one]
      rw [value?, Nat.pow_eq, Nat.cast_mul, Nat.cast_pow, Nat.cast_ofNat,
        mul_assoc, places]
    case isFalse => rfl

theorem number?_of_value {decimal : Decimal} {number : ℚ}
    (value : decimal.value? = some number) :
    decimal.number? = some (.rational number) := by
  cases decimal with
  | finite negative coefficient exponent =>
      cases value
      rfl
  | infinite negative => cases value
  | nan negative signalling payload => cases value

section Short

variable {negative : Bool} {coefficient : ℕ} {exponent : ℤ}

theorem IsShort.bounds (short : IsShort (.finite negative coefficient exponent))
    (positive : 0 < coefficient) :
    (10 : ℚ) ^ (-100 : ℤ) ≤ coefficient * 10 ^ exponent ∧
      (coefficient : ℚ) * 10 ^ exponent < 10 ^ (100 : ℤ) := by
  obtain ⟨few, leastExponent, greatestExponent⟩ := short
  have atLeastOne : (1 : ℚ) ≤ coefficient := by exact_mod_cast positive
  have digits : (coefficient : ℚ) < 10 ^ 15 := by exact_mod_cast few
  have unit : (0 : ℚ) < 10 ^ exponent := by positivity
  constructor
  · calc (10 : ℚ) ^ (-100 : ℤ) ≤ 10 ^ exponent :=
          zpow_le_zpow_right₀ (by norm_num) leastExponent
      _ ≤ coefficient * 10 ^ exponent :=
        le_mul_of_one_le_left unit.le atLeastOne
  · calc (coefficient : ℚ) * 10 ^ exponent < 10 ^ 15 * 10 ^ exponent :=
          mul_lt_mul_of_pos_right digits unit
      _ ≤ 10 ^ 15 * 10 ^ (80 : ℤ) :=
          mul_le_mul_of_nonneg_left
            (zpow_le_zpow_right₀ (by norm_num) greatestExponent)
            (by positivity)
      _ ≤ 10 ^ (100 : ℤ) := by norm_num

theorem IsShort.exists_double
    (short : IsShort (.finite negative coefficient exponent))
    (positive : 0 < coefficient) :
    ∃ significand place, toDouble (.finite negative coefficient exponent) =
        .finite negative significand place ∧ Nat.pow 2 52 ≤ significand ∧
      (Double.interval significand place).Contains
        (coefficient * 10 ^ exponent) := by
  obtain ⟨low, high⟩ := short.bounds positive
  rw [toDouble_eq_ofQuotient positive low high]
  rw [← value_quotient coefficient exponent] at low high ⊢
  exact Double.ofQuotient_contains (quotient_fst_pos positive exponent)
    (quotient_snd_pos coefficient exponent) low high negative

/-- A decimal of at most fifteen digits is the number of its nearest double. -/
theorem number?_ofDouble_toDouble {decimal : Decimal}
    (short : decimal.IsShort) :
    (ofDouble decimal.toDouble).number? = decimal.number? := by
  cases decimal with
  | infinite negative => cases short
  | nan negative signalling payload => cases short
  | finite negative coefficient exponent =>
      rcases Nat.eq_zero_or_pos coefficient with rfl | positive
      · simp [toDouble, ofDouble, number?, value?]
      · obtain ⟨significand, place, nearest, full, contains⟩ :=
          short.exists_double positive
        have value := value?_ofDouble negative significand place
        rw [Double.value_shortest full short.1 contains] at value
        rw [nearest]
        exact number?_of_value value

end Short

end Decimal

end LedgerRules
