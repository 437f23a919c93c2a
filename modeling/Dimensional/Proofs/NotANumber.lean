import Mathlib.Data.List.Induction
import Dimensional.Scalar
import Dimensional.Proofs.Rounding

/-!
When the arithmetic of doubles gives no number. Rounding a result may make it infinite or zero, but
never undefined, so products and quotients are undefined by the kinds of their operands alone: a
product where zero meets infinity, a quotient where two infinite numbers or two zeros meet. A number
that is neither, divided by itself, is exactly one.
-/

set_option autoImplicit false

namespace Dimensional.Binary64

open Float.Model

section Unpacked

/-- Zero of either sign. -/
def isZero : UnpackedFloat → Bool
  | .zero _ => true
  | _ => false

theorem isNaN_roundWithAccuracy (spec : Format) (sign : UnpackedFloat.Sign) (mantissa : Nat)
    (exponent : Int) (accuracy : UnpackedFloat.Accuracy) :
    (UnpackedFloat.roundWithAccuracy spec sign mantissa exponent accuracy).isNaN = false := by
  -- However the mantissa is shifted, rounding ends in zero or in a finite number.
  have rounded : ∀ mantissa exponent, (if zero : mantissa = 0 then UnpackedFloat.zero sign
      else .finite sign mantissa exponent (Nat.pos_of_ne_zero zero)).isNaN = false := by
    intro mantissa exponent
    cases mantissa <;> rfl
  exact rounded _ _

theorem isNaN_mul (spec : Format) (a b : UnpackedFloat) :
    (UnpackedFloat.mul spec a b).isNaN =
      (a.isNaN || b.isNaN || (a.isInf && isZero b) || (isZero a && b.isInf)) := by
  cases a with
  | finite sign mantissa exponent positive =>
    cases b with
    | finite sign' mantissa' exponent' positive' => exact isNaN_roundWithAccuracy spec _ _ _ _
    | _ => rfl
  | _ => cases b <;> rfl

/-- Finite numbers divide mantissa by mantissa, and the quotient is rounded. -/
theorem div_finite (spec : Format) (sign sign' : UnpackedFloat.Sign) {mantissa mantissa' : Nat}
    (exponent exponent' : Int) (positive : 0 < mantissa) (positive' : 0 < mantissa') :
    UnpackedFloat.div spec (.finite sign mantissa exponent positive)
        (.finite sign' mantissa' exponent' positive') =
      let quotient := UnpackedFloat.divCore spec mantissa exponent mantissa' exponent'
      UnpackedFloat.roundWithAccuracy spec (sign / sign') quotient.1 quotient.2.1 quotient.2.2 :=
  rfl

theorem isNaN_div (spec : Format) (a b : UnpackedFloat) :
    (UnpackedFloat.div spec a b).isNaN =
      (a.isNaN || b.isNaN || (a.isInf && b.isInf) || (isZero a && isZero b)) := by
  cases a with
  | finite sign mantissa exponent positive =>
    cases b with
    | finite sign' mantissa' exponent' positive' =>
      rw [div_finite]
      exact isNaN_roundWithAccuracy spec _ _ _ _
    | _ => rfl
  | _ => cases b <;> rfl

/-- Only bits with the greatest exponent stand for no number. -/
theorem isNaN_unpack_of_exponent {bits : BitVec Format.binary64.numBits}
    (notFull : UnpackedFloat.unpackExponent bits ≠ -1#_) :
    (UnpackedFloat.unpack Format.binary64 bits).isNaN = false := by
  change (if UnpackedFloat.unpackExponent bits = -1#_ then _
    else if UnpackedFloat.unpackExponent bits = 0#_ then _ else _ : UnpackedFloat).isNaN = false
  rw [if_neg notFull]
  by_cases low : UnpackedFloat.unpackExponent bits = 0#_
  · rw [if_pos low]
    by_cases empty : UnpackedFloat.unpackMantissa bits = 0#_
    · rw [dif_pos empty]
      rfl
    · rw [dif_neg empty]
      rfl
  · rw [if_neg low]
    rfl

theorem isNaN_unpack_packComponents (sign : UnpackedFloat.Sign)
    {exponent : BitVec Format.binary64.exponentBits}
    (mantissa : BitVec Format.binary64.mantissaBitsWithoutImplicit) (notFull : exponent ≠ -1#_) :
    (UnpackedFloat.unpack Format.binary64
      (UnpackedFloat.packComponents Format.binary64 sign exponent mantissa)).isNaN = false := by
  apply isNaN_unpack_of_exponent
  rwa [UnpackedFloat.unpackExponent_packComponents]

theorem isNaN_unpack_packedInfinity (sign : UnpackedFloat.Sign) :
    (UnpackedFloat.unpack Format.binary64
      (UnpackedFloat.packedInfinity Format.binary64 sign)).isNaN = false := by
  cases sign <;> rfl

/-- Packing rounds a number that is too great to infinity, and nothing to an undefined one. -/
theorem isNaN_unpack_pack (number : UnpackedFloat) :
    (pack number).unpack.isNaN = number.isNaN := by
  change (UnpackedFloat.unpack Format.binary64
    (UnpackedFloat.pack Format.binary64 number)).isNaN = _
  cases number with
  | notANumber => rfl
  | infinity sign => exact isNaN_unpack_packedInfinity sign
  | zero sign => cases sign <;> rfl
  | finite sign mantissa exponent positive =>
    change (UnpackedFloat.unpack Format.binary64 (UnpackedFloat.pack Format.binary64
      (.finite sign mantissa exponent positive))).isNaN = false
    unfold UnpackedFloat.pack
    dsimp only
    split
    · exact isNaN_unpack_packedInfinity sign
    · next inside =>
      split
      · apply isNaN_unpack_packComponents
        intro full
        have value := congrArg BitVec.toNat full
        generalize (exponent + Format.binary64.exponentBias +
          Format.binary64.mantissaBitsWithoutImplicit).toNat = biased at inside value
        change ¬2048 ≤ biased + 1 at inside
        change biased % 2048 = 2047 at value
        omega
      · exact isNaN_unpack_packComponents sign _ (by decide)

/-- Equal mantissas and exponents divide to one, exactly. -/
theorem divCore_self {mantissa : Nat} (positive : 0 < mantissa) (exponent : Int) :
    UnpackedFloat.divCore Format.binary64 mantissa exponent mantissa exponent =
      (2 ^ 53, -53, .exact) := by
  have target : min 0 (Format.binary64.targetExponent 0) = -53 := rfl
  have shift : ((0 : Int) - -53).toNat = 53 := rfl
  rw [UnpackedFloat.divCore, Int.sub_self, Int.sub_self, target, shift, Nat.shiftLeft_eq,
    Nat.mul_div_cancel_left _ positive, Nat.mul_mod_right]
  rfl

end Unpacked

variable {x y : Float}

theorem isZero_unpack (x : Float) : (x == 0) = isZero x.toModel.unpack := by
  change x.toModel.unpack.beq (.zero .positive) = _
  cases x.toModel.unpack with
  | finite sign mantissa exponent positive => cases sign <;> rfl
  | infinity sign => cases sign <;> rfl
  | zero sign => rfl
  | notANumber => rfl

/-- Two infinite numbers, or two zeros: they have no quotient. -/
def Clash (x y : Float) : Prop :=
  (x.isInf = true ∧ y.isInf = true) ∨ ((x == 0) = true ∧ (y == 0) = true)

theorem isNaN_div_iff (x y : Float) :
    (x / y).isNaN = true ↔ x.isNaN = true ∨ y.isNaN = true ∨ Clash x y := by
  have packed : (x / y).isNaN =
      (UnpackedFloat.div Format.binary64 x.toModel.unpack y.toModel.unpack).isNaN :=
    isNaN_unpack_pack _
  rw [packed, isNaN_div, ← isZero_unpack, ← isZero_unpack]
  change (x.isNaN || y.isNaN || x.isInf && y.isInf || _) = true ↔ _
  rw [Bool.or_eq_true, Bool.or_eq_true, Bool.or_eq_true, Bool.and_eq_true, Bool.and_eq_true,
    or_assoc, or_assoc, Clash]

theorem isNaN_mul_iff (x y : Float) :
    (x * y).isNaN = true ↔ x.isNaN = true ∨ y.isNaN = true ∨
      (x.isInf = true ∧ (y == 0) = true) ∨ ((x == 0) = true ∧ y.isInf = true) := by
  have packed : (x * y).isNaN =
      (UnpackedFloat.mul Format.binary64 x.toModel.unpack y.toModel.unpack).isNaN :=
    isNaN_unpack_pack _
  rw [packed, isNaN_mul, ← isZero_unpack, ← isZero_unpack]
  change (x.isNaN || y.isNaN || x.isInf && _ || _ && y.isInf) = true ↔ _
  rw [Bool.or_eq_true, Bool.or_eq_true, Bool.or_eq_true, Bool.and_eq_true, Bool.and_eq_true,
    or_assoc, or_assoc]

theorem isNaN_undefined : (Scalar.undefined : Float).isNaN = true := by decide +kernel

theorem not_isInf_of_isFinite (finite : x.isFinite = true) : ¬x.isInf = true := by
  change x.toModel.unpack.isFinite = true at finite
  change ¬x.toModel.unpack.isInf = true
  cases shape : x.toModel.unpack with
  | infinity sign =>
    rw [shape] at finite
    cases finite
  | _ => exact nofun

theorem isFinite_of_number (number : ¬x.isNaN = true) (bounded : ¬x.isInf = true) :
    x.isFinite = true := by
  change ¬x.toModel.unpack.isNaN = true at number
  change ¬x.toModel.unpack.isInf = true at bounded
  change x.toModel.unpack.isFinite = true
  cases shape : x.toModel.unpack with
  | infinity sign =>
    rw [shape] at bounded
    exact absurd rfl bounded
  | notANumber =>
    rw [shape] at number
    exact absurd rfl number
  | _ => rfl

theorem ne_zero_of_pos (positive : 0 < x) : ¬(x == 0) = true := by
  change decide ((0 : Float).toModel < x.toModel) = true at positive
  rw [decide_eq_true_iff] at positive
  change UnpackedFloat.lt (.zero .positive) x.toModel.unpack = true at positive
  rw [isZero_unpack]
  cases shape : x.toModel.unpack with
  | zero sign =>
    rw [shape] at positive
    cases positive
  | _ => exact nofun

theorem div_self_eq_one (finite : x.isFinite = true) (nonzero : ¬(x == 0) = true) :
    x / x = 1.0 := by
  change Float.ofModel
    (pack (UnpackedFloat.div Format.binary64 x.toModel.unpack x.toModel.unpack)) = _
  change x.toModel.unpack.isFinite = true at finite
  rw [isZero_unpack] at nonzero
  cases shape : x.toModel.unpack with
  | finite sign mantissa exponent positive =>
    rw [div_finite, divCore_self positive]
    cases sign <;> decide +kernel
  | infinity sign =>
    rw [shape] at finite
    cases finite
  | zero sign =>
    rw [shape] at nonzero
    exact absurd rfl nonzero
  | notANumber =>
    rw [shape] at finite
    cases finite

/-- A product of finite positive factors may be infinite or zero, but is a number. -/
theorem isNaN_product {factors : List Float}
    (sound : ∀ factor ∈ factors, factor.isFinite = true ∧ 0 < factor) :
    ¬(Scalar.product factors).isNaN = true := by
  induction factors using List.reverseRecOn with
  | nil => decide +kernel
  | append_singleton factors last ih =>
    obtain ⟨finite, positive⟩ := sound last (by simp)
    have number := ih fun factor inside => sound factor (List.mem_append_left _ inside)
    rw [Scalar.product_append_single, isNaN_mul_iff]
    rintro (undefined | undefined | ⟨_, zero⟩ | ⟨_, infinite⟩)
    · exact number undefined
    · rw [isNaN_of_isFinite finite] at undefined
      cases undefined
    · exact ne_zero_of_pos positive zero
    · exact not_isInf_of_isFinite finite infinite

end Dimensional.Binary64
