import Mathlib.Order.Monotone.Basic
import Mathlib.Tactic.Ring
import Dimensional.Number.Decimal

/-!
Ranks and rounding. A finite double has a rank below that of infinity. Weights grow with ranks, so
the magnitudes that round to a rank are an interval and the search for the nearest rank finds the
one that a magnitude rounds to. What a magnitude rounds to does not depend on how it is written as a
ratio.
-/

set_option autoImplicit false

namespace Dimensional.Binary64

section Finite

open Float.Model

variable {x : Float}

theorem isNaN_of_isFinite (finite : x.isFinite = true) : x.isNaN = false := by
  change x.toModel.unpack.isFinite = true at finite
  change x.toModel.unpack.isNaN = false
  cases parts : x.toModel.unpack with
  | notANumber =>
    rw [parts] at finite
    cases finite
  | _ => rfl

theorem unpackExponent_of_isFinite {bits : BitVec Format.binary64.numBits}
    (finite : (UnpackedFloat.unpack Format.binary64 bits).isFinite = true) :
    UnpackedFloat.unpackExponent bits ≠ -1#_ := by
  intro all
  have shape : UnpackedFloat.unpack Format.binary64 bits =
      if UnpackedFloat.unpackMantissa bits = 0#_ then
        .infinity (.ofBitVec (UnpackedFloat.unpackSign bits))
      else .notANumber := if_pos all
  rw [shape] at finite
  split at finite <;> cases finite

theorem toNat_unpackExponent (bits : BitVec Format.binary64.numBits) :
    (UnpackedFloat.unpackExponent bits).toNat = bits.toNat / 2 ^ 52 % 2 ^ 11 := by
  rw [← Nat.shiftRight_eq_div_pow]
  rfl

/-- The rank of a finite double is below that of infinity. -/
theorem rank_lt_of_isFinite (finite : x.isFinite = true) : rank x < infinityRank := by
  have notAll : x.toBits.toNat / 2 ^ 52 % 2 ^ 11 ≠ 2047 := by
    intro all
    have field := toNat_unpackExponent x.toBits.toBitVec
    exact unpackExponent_of_isFinite finite (BitVec.toNat_inj.1 (field.trans all))
  simp only [rank, signWeight, infinityRank]
  omega

end Finite

theorem hiddenBit_pos : 0 < hiddenBit := by decide

/-- Below the first level there is no hidden bit. -/
theorem weight_subnormal {fraction : Nat} (inside : fraction < hiddenBit) :
    weight fraction = fraction := by
  simp [weight, Nat.div_eq_of_lt inside, Nat.mod_eq_of_lt inside]

theorem weight_normal (level : Nat) {fraction : Nat} (inside : fraction < hiddenBit) :
    weight (hiddenBit * (level + 1) + fraction) = (hiddenBit + fraction) * Nat.pow 2 level := by
  have quotient : (hiddenBit * (level + 1) + fraction) / hiddenBit = level + 1 := by
    rw [Nat.mul_add_div hiddenBit_pos, Nat.div_eq_of_lt inside, Nat.add_zero]
  have remainder : (hiddenBit * (level + 1) + fraction) % hiddenBit = fraction := by
    rw [Nat.mul_add_mod, Nat.mod_eq_of_lt inside]
  simp [weight, quotient, remainder]

theorem weight_lt_weight_succ (rank : Nat) : weight rank < weight (rank + 1) := by
  have parts := Nat.div_add_mod rank hiddenBit
  have inside := Nat.mod_lt rank hiddenBit_pos
  generalize rank / hiddenBit = level at parts
  generalize rank % hiddenBit = fraction at parts inside
  subst parts
  -- The next rank has the next fraction, or the fraction zero one level higher.
  by_cases room : fraction + 1 < hiddenBit
  · cases level with
    | zero =>
      rw [Nat.mul_zero, Nat.zero_add, weight_subnormal inside, weight_subnormal room]
      exact Nat.lt_succ_self fraction
    | succ level =>
      rw [Nat.add_assoc, weight_normal level inside, weight_normal level room]
      exact Nat.mul_lt_mul_of_pos_right (by omega) (Nat.pow_pos (by decide))
  · have next : hiddenBit * level + fraction + 1 = hiddenBit * (level + 1) + 0 := by
      rw [Nat.mul_succ]
      omega
    rw [next, weight_normal level hiddenBit_pos]
    cases level with
    | zero =>
      rw [Nat.mul_zero, Nat.zero_add, weight_subnormal inside]
      simpa using inside
    | succ level =>
      rw [weight_normal level inside]
      calc (hiddenBit + fraction) * Nat.pow 2 level
          < (hiddenBit + 0) * 2 * Nat.pow 2 level :=
            Nat.mul_lt_mul_of_pos_right (by omega) (Nat.pow_pos (by decide))
        _ = (hiddenBit + 0) * Nat.pow 2 (level + 1) := by
            simp only [Nat.pow_eq, Nat.pow_succ]
            ring

theorem weight_strictMono : StrictMono weight := strictMono_nat_of_lt_succ weight_lt_weight_succ

namespace Ratio

/-- A proper ratio does not divide by zero. -/
def Proper (x : Ratio) : Prop := 0 < x.den

/-- A ratio that reaches a rank is not below the middle of this rank and the one before. -/
theorem le_of_reaches_succ {x : Ratio} {rank : Nat} (reached : x.reaches (rank + 1) = true) :
    (weight rank + weight (rank + 1)) * x.den ≤ 2 * x.num := by
  simp only [reaches, Nat.succ_ne_zero, ↓reduceIte, Nat.add_sub_cancel] at reached
  split at reached
  · exact of_decide_eq_true reached
  · exact Nat.le_of_lt (of_decide_eq_true reached)

theorem le_of_not_reaches_succ {x : Ratio} {rank : Nat} (missed : x.reaches (rank + 1) = false) :
    2 * x.num ≤ (weight rank + weight (rank + 1)) * x.den := by
  simp only [reaches, Nat.succ_ne_zero, ↓reduceIte, Nat.add_sub_cancel] at missed
  split at missed
  · exact Nat.le_of_not_le (of_decide_eq_false missed)
  · exact Nat.le_of_not_lt (of_decide_eq_false missed)

theorem reaches_succ_of_lt {x : Ratio} {rank : Nat}
    (beyond : (weight rank + weight (rank + 1)) * x.den < 2 * x.num) :
    x.reaches (rank + 1) = true := by
  simp only [reaches, Nat.succ_ne_zero, ↓reduceIte, Nat.add_sub_cancel]
  split
  · exact decide_eq_true (Nat.le_of_lt beyond)
  · exact decide_eq_true beyond

theorem not_reaches_succ_of_lt {x : Ratio} {rank : Nat}
    (below : 2 * x.num < (weight rank + weight (rank + 1)) * x.den) :
    x.reaches (rank + 1) = false := by
  by_contra reached
  have beyond := le_of_reaches_succ (Bool.not_eq_false _ ▸ reached)
  omega

theorem reaches_of_reaches_succ {x : Ratio} (proper : x.Proper) {rank : Nat}
    (reached : x.reaches (rank + 1) = true) : x.reaches rank = true := by
  cases rank with
  | zero => rfl
  | succ rank =>
    have wider : (weight rank + weight (rank + 1)) * x.den <
        (weight (rank + 1) + weight (rank + 2)) * x.den := by
      have below := weight_lt_weight_succ rank
      have above : weight (rank + 1) < weight (rank + 2) := weight_lt_weight_succ (rank + 1)
      exact Nat.mul_lt_mul_of_pos_right (by omega) proper
    exact reaches_succ_of_lt (Nat.lt_of_lt_of_le wider (le_of_reaches_succ reached))

theorem reaches_mono {x : Ratio} (proper : x.Proper) {lower upper : Nat} (le : lower ≤ upper)
    (reached : x.reaches upper = true) : x.reaches lower = true := by
  induction upper, le using Nat.le_induction with
  | base => exact reached
  | succ upper _ ih => exact ih (reaches_of_reaches_succ proper reached)

/-- The search keeps the rank that the ratio rounds to within its range. -/
theorem climb_of_roundsTo {x : Ratio} (proper : x.Proper) {rank : Nat}
    (rounds : x.roundsTo rank = true) (finite : rank ≤ infinityRank) (bits base : Nat)
    (from_base : base ≤ rank) (below : rank < base + Nat.pow 2 bits) :
    x.climb bits base = rank := by
  simp only [roundsTo, Bool.and_eq_true, Bool.not_eq_true'] at rounds
  obtain ⟨reached, missed⟩ := rounds
  induction bits generalizing base with
  | zero =>
    simp only [Nat.pow_eq, Nat.pow_zero] at below
    rw [climb]
    omega
  | succ bits ih =>
    have halves : Nat.pow 2 (bits + 1) = Nat.pow 2 bits + Nat.pow 2 bits := by
      simp only [Nat.pow_eq, Nat.pow_succ]
      omega
    rw [climb]
    by_cases high : base + Nat.pow 2 bits ≤ rank
    · have middle := reaches_mono proper high reached
      simp only [middle, Bool.and_true, decide_eq_true_eq, Nat.le_trans high finite, ↓reduceIte]
      exact ih _ high (by omega)
    · have middle : x.reaches (base + Nat.pow 2 bits) = false := by
        by_contra reaches
        have beyond := reaches_mono proper (Nat.lt_of_not_le high)
          (Bool.not_eq_false _ ▸ reaches)
        rw [missed] at beyond
        cases beyond
      simp only [middle, Bool.and_false, Bool.false_eq_true, ↓reduceIte]
      exact ih _ from_base (by omega)

theorem nearest_of_roundsTo {x : Ratio} (proper : x.Proper) {rank : Nat}
    (rounds : x.roundsTo rank = true) (finite : rank ≤ infinityRank) : x.nearest = rank :=
  climb_of_roundsTo proper rounds finite 63 0 (Nat.zero_le rank)
    (Nat.lt_of_le_of_lt finite (by decide))

/-- Two ratios of one magnitude reach the same ranks. -/
theorem reaches_congr {x y : Ratio} (properX : x.Proper) (properY : y.Proper)
    (same : x.num * y.den = y.num * x.den) (rank : Nat) : x.reaches rank = y.reaches rank := by
  by_cases zero : rank = 0
  · simp [reaches, zero]
  · have scaled : 2 * x.num * y.den = 2 * y.num * x.den := by
      rw [Nat.mul_assoc, same, Nat.mul_assoc]
    have weak : ∀ low, low * x.den ≤ 2 * x.num ↔ low * y.den ≤ 2 * y.num := by
      intro low
      rw [← Nat.mul_le_mul_right_iff properY, scaled, Nat.mul_right_comm,
        Nat.mul_le_mul_right_iff properX]
    have strict : ∀ low, low * x.den < 2 * x.num ↔ low * y.den < 2 * y.num := by
      intro low
      rw [← Nat.mul_lt_mul_right properY, scaled, Nat.mul_right_comm,
        Nat.mul_lt_mul_right properX]
    simp only [reaches, zero, ↓reduceIte, weak, strict]

theorem roundsTo_congr {x y : Ratio} (properX : x.Proper) (properY : y.Proper)
    (same : x.num * y.den = y.num * x.den) (rank : Nat) : x.roundsTo rank = y.roundsTo rank := by
  rw [roundsTo, roundsTo, reaches_congr properX properY same, reaches_congr properX properY same]

end Ratio

end Dimensional.Binary64
