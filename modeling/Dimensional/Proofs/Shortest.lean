import Mathlib.Algebra.Order.Field.Power
import Mathlib.Tactic.Linarith
import Mathlib.Tactic.Positivity
import Dimensional.Proofs.Rounding

/-!
The shortest decimal of a double rounds to it. Dropping zeros does not change what a decimal stands
for, every candidate on a grid has been tested, and the exact value stands behind them. So any
decimal of the same value is read as the double, and the bounds on decimal exponents are never in
the way.
-/

set_option autoImplicit false

namespace Dimensional.Decimal

open Binary64 (Ratio weight unitScale infinityRank)

/-- The number that a decimal stands for. -/
def value (d : Decimal) : ℚ := d.significand * (10 : ℚ) ^ d.exponent

theorem proper_toRatio (d : Decimal) : d.toRatio.Proper := Nat.pow_pos (by decide)

theorem zpow_ten_mul_den (exponent : Int) :
    (10 : ℚ) ^ exponent * ((Nat.pow 10 (-exponent).toNat : Nat) : ℚ) =
      (Nat.pow 10 exponent.toNat : Nat) := by
  have parts : exponent + ((-exponent).toNat : Int) = (exponent.toNat : Int) := by omega
  rw [Nat.pow_eq, Nat.pow_eq, Nat.cast_pow, Nat.cast_pow, Nat.cast_ofNat, ← zpow_natCast,
    ← zpow_natCast, ← zpow_add₀ (by norm_num), parts]

/-- The ratio counts least positive doubles. -/
theorem num_toRatio (d : Decimal) :
    (d.toRatio.num : ℚ) = d.value * unitScale * d.toRatio.den := by
  have power := zpow_ten_mul_den d.exponent
  calc (d.toRatio.num : ℚ)
      = d.significand * (Nat.pow 10 d.exponent.toNat : Nat) * unitScale := by
        simp only [toRatio, Nat.cast_mul]
    _ = d.value * unitScale * d.toRatio.den := by
        rw [← power]
        simp only [value, toRatio]
        ring

theorem roundsTo_of_value_eq {d other : Decimal} (same : d.value = other.value) (rank : Nat) :
    d.toRatio.roundsTo rank = other.toRatio.roundsTo rank := by
  apply Ratio.roundsTo_congr d.proper_toRatio other.proper_toRatio
  have cross : (d.toRatio.num : ℚ) * other.toRatio.den = other.toRatio.num * d.toRatio.den := by
    rw [num_toRatio, num_toRatio, same]
    ring
  exact_mod_cast cross

theorem value_trim (fuel : Nat) (d : Decimal) : (trim fuel d).value = d.value := by
  fun_induction trim fuel d with
  | case1 d => rfl
  | case2 fuel d round ih =>
    simp only [Bool.and_eq_true, decide_eq_true_eq] at round
    have tenth : (d.significand : ℚ) = (d.significand / 10 : Nat) * 10 := by
      have exact := Nat.div_mul_cancel (Nat.dvd_of_mod_eq_zero round.1)
      exact_mod_cast exact.symm
    rw [ih, value, value, tenth, zpow_add₀ (by norm_num), zpow_one]
    ring
  | case3 fuel d rough => rfl

/-- Which neighbour on the grid is taken depends on the tie, but both have been tested. -/
theorem roundsTo_of_onGrid {tie : Tie} {rank : Nat} {exponent : Int} {d : Decimal}
    (found : onGrid tie rank exponent = some d) : d.toRatio.roundsTo rank = true := by
  unfold onGrid at found
  dsimp only at found
  generalize compareMiddle _ _ _ = middle at found
  generalize floorMultiple _ _ = below at found
  generalize (⟨below, exponent⟩ : Decimal) = lower at found
  generalize (⟨below + 1, exponent⟩ : Decimal) = upper at found
  have keep : ∀ {taken : Decimal}, taken.toRatio.roundsTo rank = true → some taken = some d →
      d.toRatio.roundsTo rank = true := fun tested same => Option.some.inj same ▸ tested
  cases low : lower.toRatio.roundsTo rank with
  | false =>
    cases high : upper.toRatio.roundsTo rank with
    | false =>
      rw [low, high] at found
      cases found
    | true =>
      rw [low, high] at found
      exact keep high found
  | true =>
    cases high : upper.toRatio.roundsTo rank with
    | false =>
      rw [low, high] at found
      exact keep low found
    | true =>
      rw [low, high] at found
      cases middle with
      | lt => exact keep high found
      | gt => exact keep low found
      | eq =>
        cases tie with
        | awayFromZero => exact keep high found
        | toEven =>
          apply keep _ found
          split
          · exact low
          · exact high

theorem value_mul_pow_five (multiple places : Nat) :
    (⟨multiple * Nat.pow 5 places, -(places : Int)⟩ : Decimal).value * (Nat.pow 2 places : Nat) =
      multiple := by
  have ten : (10 : ℚ) ^ places = 5 ^ places * 2 ^ places := by
    rw [← mul_pow]
    norm_num
  have positive : (0 : ℚ) < 10 ^ places := by positivity
  simp only [value, Nat.pow_eq, Nat.cast_mul, Nat.cast_pow, Nat.cast_ofNat, zpow_neg, zpow_natCast]
  calc (multiple : ℚ) * 5 ^ places * (10 ^ places)⁻¹ * 2 ^ places
      = multiple * (5 ^ places * 2 ^ places * (10 ^ places)⁻¹) := by ring
    _ = multiple := by rw [← ten, mul_inv_cancel₀ positive.ne', mul_one]

theorem value_exact (rank : Nat) : (exact rank).value * unitScale = weight rank := by
  have places : (-1074 : Int) = -((1074 : Nat) : Int) := rfl
  unfold exact unitScale
  rw [places]
  -- As a numeral the number of places would make the unifier work out the powers.
  generalize 1074 = places
  exact value_mul_pow_five _ _

/-- A magnitude is nearer to itself than to its neighbours. -/
theorem roundsTo_exact {rank : Nat} (positive : 0 < rank) :
    (exact rank).toRatio.roundsTo rank = true := by
  have whole : (exact rank).toRatio.num = weight rank * (exact rank).toRatio.den := by
    have ratio := num_toRatio (exact rank)
    rw [value_exact] at ratio
    exact_mod_cast ratio
  have proper : 0 < (exact rank).toRatio.den := proper_toRatio _
  generalize (exact rank).toRatio = x at whole proper ⊢
  cases rank with
  | zero => exact absurd positive (Nat.lt_irrefl 0)
  | succ rank =>
    have before := Binary64.weight_lt_weight_succ rank
    have after := Binary64.weight_lt_weight_succ (rank + 1)
    have reached : x.reaches (rank + 1) = true := by
      apply Ratio.reaches_succ_of_lt
      rw [whole, ← Nat.mul_assoc]
      exact Nat.mul_lt_mul_of_pos_right (by omega) proper
    have missed : x.reaches (rank + 1 + 1) = false := by
      apply Ratio.not_reaches_succ_of_lt
      rw [whole, ← Nat.mul_assoc]
      exact Nat.mul_lt_mul_of_pos_right (by omega) proper
    rw [Ratio.roundsTo, reached, missed]
    rfl

theorem roundsTo_shortest (tie : Tie) {rank : Nat} (positive : 0 < rank) :
    (shortest tie rank).toRatio.roundsTo rank = true := by
  rw [shortest, if_neg (by omega)]
  dsimp only
  rw [roundsTo_of_value_eq (value_trim _ _)]
  cases found : (List.range 17).findSome? fun n =>
      onGrid tie rank (magnitudeScale (weight rank) - (n + 1 : Nat)) with
  | none => exact roundsTo_exact positive
  | some d =>
    obtain ⟨n, _, onGrid⟩ := List.exists_of_findSome?_eq_some found
    exact roundsTo_of_onGrid onGrid

/-- The leading digit of a positive decimal stands just below its scale. -/
theorem value_bounds {d : Decimal} (positive : d.significand ≠ 0) :
    (10 : ℚ) ^ (d.scale - 1) ≤ d.value ∧ d.value < (10 : ℚ) ^ d.scale := by
  have some : 0 < digitCount d.significand := Nat.length_toDigits_pos
  have upper : d.significand < 10 ^ digitCount d.significand :=
    (Nat.length_toDigits_le_iff (by decide) some).1 (Nat.le_refl _)
  have lower : 10 ^ (digitCount d.significand - 1) ≤ d.significand := by
    by_cases single : digitCount d.significand - 1 = 0
    · rw [single, Nat.pow_zero]
      exact Nat.pos_of_ne_zero positive
    · by_contra below
      have fewer := (Nat.length_toDigits_le_iff (b := 10) (by decide)
        (Nat.pos_of_ne_zero single)).2 (Nat.lt_of_not_le below)
      change digitCount d.significand ≤ _ at fewer
      omega
  have unit : (0 : ℚ) < 10 ^ d.exponent := zpow_pos (by norm_num) _
  constructor
  · have split : d.scale - 1 = ((digitCount d.significand - 1 : Nat) : Int) + d.exponent := by
      simp only [scale]
      omega
    rw [split, zpow_add₀ (by norm_num), zpow_natCast, value]
    exact mul_le_mul_of_nonneg_right (by exact_mod_cast lower) unit.le
  · rw [scale, zpow_add₀ (by norm_num), zpow_natCast, value]
    exact mul_lt_mul_of_pos_right (by exact_mod_cast upper) unit

theorem den_pos (d : Decimal) : (0 : ℚ) < d.toRatio.den := by
  exact_mod_cast d.proper_toRatio

theorem unitScale_pos : 0 < unitScale := by decide +kernel

/-- What rounds to a finite rank is not beyond the least infinite one. -/
theorem value_le_of_roundsTo {d : Decimal} {rank : Nat} (rounds : d.toRatio.roundsTo rank = true)
    (finite : rank < infinityRank) : d.value * unitScale ≤ weight infinityRank := by
  simp only [Ratio.roundsTo, Bool.and_eq_true, Bool.not_eq_true'] at rounds
  have bounded := Ratio.le_of_not_reaches_succ rounds.2
  have last : weight rank ≤ weight infinityRank :=
    Binary64.weight_strictMono.monotone (Nat.le_of_lt finite)
  have last' : weight (rank + 1) ≤ weight infinityRank :=
    Binary64.weight_strictMono.monotone finite
  have below : d.toRatio.num ≤ weight infinityRank * d.toRatio.den := by
    have twice : (weight rank + weight (rank + 1)) * d.toRatio.den ≤
        2 * weight infinityRank * d.toRatio.den := Nat.mul_le_mul_right _ (by omega)
    rw [Nat.mul_assoc] at twice
    omega
  have ratio : (d.toRatio.num : ℚ) ≤ weight infinityRank * d.toRatio.den := by
    exact_mod_cast below
  rw [num_toRatio] at ratio
  exact le_of_mul_le_mul_right ratio d.den_pos

/-- What rounds to a positive rank is more than half of the least positive double. -/
theorem lt_value_of_roundsTo {d : Decimal} {rank : Nat} (rounds : d.toRatio.roundsTo rank = true)
    (positive : 0 < rank) : 1 < 2 * (d.value * unitScale) := by
  simp only [Ratio.roundsTo, Bool.and_eq_true, Bool.not_eq_true'] at rounds
  have first := Ratio.reaches_mono d.proper_toRatio positive rounds.1
  have visible : d.toRatio.den < 2 * d.toRatio.num := by
    simpa [Ratio.reaches] using first
  have ratio : (d.toRatio.den : ℚ) < 2 * d.toRatio.num := by exact_mod_cast visible
  rw [num_toRatio] at ratio
  apply lt_of_mul_lt_mul_right (a := (d.toRatio.den : ℚ)) _ d.den_pos.le
  linarith

/-- Infinity is below the least decimal of the exponent from which on nothing is computed. -/
theorem scale_le_of_value_le {d : Decimal} (nonzero : d.significand ≠ 0)
    (bounded : d.value * unitScale ≤ weight infinityRank) : d.scale ≤ 400 := by
  by_contra huge
  have unit : (0 : ℚ) < unitScale := by exact_mod_cast unitScale_pos
  have infinity : weight infinityRank < 10 ^ 400 * unitScale := by decide +kernel
  have infinity' : (weight infinityRank : ℚ) < 10 ^ 400 * unitScale := by
    exact_mod_cast infinity
  have large : (10 : ℚ) ^ 400 ≤ d.value := by
    calc (10 : ℚ) ^ 400 = 10 ^ (400 : Int) := (zpow_natCast 10 400).symm
      _ ≤ 10 ^ (d.scale - 1) := zpow_le_zpow_right₀ (by norm_num) (by omega)
      _ ≤ d.value := (value_bounds nonzero).1
  have scaled := mul_le_mul_of_nonneg_right large unit.le
  exact absurd (lt_of_lt_of_le infinity' scaled) (not_lt_of_ge bounded)

/-- Half of the least positive double is above all decimals of such a negative exponent. -/
theorem le_scale_of_lt_value {d : Decimal} (nonzero : d.significand ≠ 0)
    (visible : 1 < 2 * (d.value * unitScale)) : -400 ≤ d.scale := by
  by_contra tiny
  obtain ⟨lower, upper⟩ := value_bounds nonzero
  have positive : 0 < d.value := lt_of_lt_of_le (zpow_pos (by norm_num) _) lower
  have least : 2 * unitScale < 10 ^ 400 := by decide +kernel
  have least' : (2 * unitScale : ℚ) < 10 ^ 400 := by exact_mod_cast least
  have small : d.value * 10 ^ 400 ≤ 1 := by
    calc d.value * 10 ^ 400 ≤ 10 ^ (-400 : Int) * 10 ^ 400 := by
          apply mul_le_mul_of_nonneg_right _ (by positivity)
          exact upper.le.trans (zpow_le_zpow_right₀ (by norm_num) (by omega))
      _ = 1 := by rw [zpow_neg]; exact inv_mul_cancel₀ (by positivity)
  have smaller : (1 : ℚ) < 1 := by
    calc (1 : ℚ) < 2 * (d.value * unitScale) := visible
      _ = d.value * (2 * unitScale) := by ring
      _ < d.value * 10 ^ 400 := mul_lt_mul_of_pos_left least' positive
      _ ≤ 1 := small
  exact lt_irrefl _ smaller

theorem nearestRank_of_roundsTo {d : Decimal} {rank : Nat}
    (rounds : d.toRatio.roundsTo rank = true) (positive : 0 < rank) (finite : rank < infinityRank) :
    d.nearestRank = rank := by
  have visible := lt_value_of_roundsTo rounds positive
  have nonzero : d.significand ≠ 0 := by
    intro zero
    simp only [value, zero, Nat.cast_zero, zero_mul, mul_zero] at visible
    exact absurd visible (by norm_num)
  have notHuge := scale_le_of_value_le nonzero (value_le_of_roundsTo rounds finite)
  have notTiny := le_scale_of_lt_value nonzero visible
  rw [nearestRank, if_neg nonzero, if_neg (by omega), if_neg (by omega)]
  exact Ratio.nearest_of_roundsTo d.proper_toRatio rounds (Nat.le_of_lt finite)

end Dimensional.Decimal
