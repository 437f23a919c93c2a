import Dimensional.Proofs.Calibration
import Dimensional.Proofs.ProductDimension

/-!
Powers and their exponents. A power reads the number that the exponent has in its own unit, and only
asks of that unit that it has no dimension. So exponents that amount to the same pure number give
the same power exactly when their units have the same factor, or the number is zero.
-/

set_option autoImplicit false

namespace Dimensional

namespace Exact

theorem div_zero (n : Exact) : n / of 0 = undefined := by
  cases n <;> rfl

/-- A quotient whose terms are scaled keeps its value if they are scaled alike, and otherwise only
where it is zero or has none. -/
theorem div_scaled_iff (n m : Exact) (c : ℚ) {d : ℚ} (nonzero : d ≠ 0) :
    n * of c / (m * of d) = n / m ↔ c = d ∨ n = of 0 ∨ n / m = undefined := by
  cases n with
  | undefined => exact iff_of_true rfl (Or.inr (Or.inr rfl))
  | of n =>
    cases m with
    | undefined => exact iff_of_true rfl (Or.inr (Or.inr rfl))
    | of m =>
      rw [of_mul, of_mul]
      by_cases zero : m = 0
      · rw [zero, zero_mul, div_zero, div_zero]
        exact iff_of_true rfl (Or.inr (Or.inr rfl))
      · rw [of_div _ (mul_ne_zero zero nonzero), of_div n zero]
        simp only [of.injEq, reduceCtorEq, or_false]
        rw [mul_div_mul_comm, mul_right_eq_self₀, div_eq_one_iff_eq nonzero, div_eq_zero_iff,
          or_iff_left zero]

/-- What a number amounts to, with a factor that is not zero, and the factor determine it. -/
theorem number_eq_iff {n n' f f' x : ℚ} (amount : n * f = x) (amount' : n' * f' = x)
    (nonzero : f ≠ 0) (nonzero' : f' ≠ 0) : n = n' ↔ f = f' ∨ x = 0 := by
  constructor
  · rintro rfl
    rcases mul_eq_mul_left_iff.1 (amount.trans amount'.symm) with same | nothing
    · exact Or.inl same
    · exact Or.inr (by rw [← amount, nothing, zero_mul])
  · rintro (rfl | rfl)
    · exact mul_right_cancel₀ nonzero (amount.trans amount'.symm)
    · rw [(mul_eq_zero_iff_right nonzero).1 amount, (mul_eq_zero_iff_right nonzero').1 amount']

/-- Exact numbers with powers of choice. -/
def Powered (_power : Exact → Exact → Exact) : Type := Exact

namespace Powered

variable {power : Exact → Exact → Exact}

instance : Scalar (Powered power) :=
  { (inferInstance : Scalar Exact) with power := power }

instance : DecidableEq (Powered power) := (inferInstance : DecidableEq Exact)

/-- A rational number. -/
def of (value : ℚ) : Powered power := Exact.of value

theorem of_ne_undefined (value : ℚ) : (of value : Powered power) ≠ Scalar.undefined :=
  Exact.noConfusion

theorem of_inj {n m : ℚ} : (of n : Powered power) = of m ↔ n = m := iff_of_eq (Exact.of.injEq n m)

theorem exists_of_mul {number factor : Powered power} {total : ℚ}
    (product : number * factor = of total) :
    ∃ n f, number = of n ∧ factor = of f ∧ n * f = total := by
  cases number with
  | undefined => cases product
  | of n =>
    cases factor with
    | undefined => cases product
    | of f => exact ⟨n, f, rfl, rfl, of_inj.1 product⟩

theorem eq_of_div_one {number : Powered power} {value : ℚ}
    (quotient : number / Scalar.one = of value) : number = of value := by
  cases number with
  | undefined => cases quotient
  | of n =>
    have plain : Exact.of n / Exact.of 1 = Exact.of value := quotient
    rw [of_div n one_ne_zero, div_one] at plain
    exact plain

theorem div_scaled_iff (n m : Powered power) (c : ℚ) {d : ℚ} (nonzero : d ≠ 0) :
    n * of c / (m * of d) = n / m ↔ c = d ∨ n = of 0 ∨ n / m = Scalar.undefined :=
  Exact.div_scaled_iff n m c nonzero

end Powered

end Exact

open Exact (Powered)

namespace Unit

variable {α : Type} [Scalar α] {bases : Bases} {a b : Unit α}

/-- A conversion that is defined is between units of one dimension. -/
theorem exists_of_conversionTo (defined : a.conversionTo bases b ≠ Scalar.undefined) :
    ∃ base dimension, bases.base? a.generation = some base ∧
      a.dimensionIn? base = some dimension ∧ b.dimensionIn? base = some dimension ∧
      a.conversionTo bases b = a.factorRatio b := by
  unfold conversionTo at defined ⊢
  cases home : bases.base? a.generation with
  | none => simp only [home, ne_eq, not_true_eq_false] at defined
  | some base =>
    simp only [home, conversionIn] at defined ⊢
    split at defined
    · next compatible =>
      obtain ⟨dimension, knownA, knownB⟩ := exists_of_compatibleIn compatible
      exact ⟨base, dimension, rfl, knownA, knownB, if_pos compatible⟩
    · exact absurd rfl defined

end Unit

namespace Formula

/-- The same value expressed in another unit, into which its own converts with the factor. -/
structure Value.Rescaled {power : Exact → Exact → Exact} (bases : Bases) (factor : ℚ)
    (value other : Value (Powered power)) : Prop where
  conversion : value.unit.conversionTo bases other.unit = Powered.of factor
  expressed : other.number = value.convertTo bases other.unit

/-- A number to the quotient of two names. -/
def powerOfQuotient {α : Type} (number : α) (b a : String) : Expr α :=
  .binary (.number number) .power (.binary (.identifier b) .divide (.identifier a))

namespace Context

section Outcome

variable {α : Type} [Scalar α] {context : Context α} {base : Base}

/-- What converts into pure numbers has no dimension. -/
theorem isDimensionless_of_conversionTo {unit : Unit α}
    (defined : unit.conversionTo context.bases (.simple context.system.pureUnit) ≠
      Scalar.undefined) :
    unit.isDimensionless context.bases = true := by
  obtain ⟨own, dimension, home, known, pure, _⟩ := Unit.exists_of_conversionTo defined
  have measured := ((SimpleUnit.dimensionIn?_eq_some_iff own _ _).1 pure).2
  have zero : dimension.isZero = true := by
    rw [Base.isZero_of_dimension? measured]
    rfl
  simp only [Unit.isDimensionless, home]
  rw [Unit.isDimensionlessIn_eq known, zero]

/-- A power of an exponent without a dimension: that of the numbers, in the unit of the base. -/
theorem evaluate_power (frozen : context.system.base? context.bases = some base)
    (left : Expr α) {right : Expr α} {exponent : Value α}
    (computed : context.evaluateAt 2 right = .ok exponent)
    (pure : exponent.unit.isDimensionless context.bases = true) :
    context.evaluate (.binary left .power right) =
      (context.evaluateAt 2 left).map fun raised =>
        context.result (Scalar.power raised.number exponent.number) raised.unit := by
  have within := not_deep_of_evaluateAt computed
  have shallow : ¬context.options.maxDepth < 1 := by omega
  rw [evaluate_eq frozen, evaluateAt, if_neg shallow]
  simp only [computed]
  cases context.evaluateAt 2 left with
  | error error => rfl
  | ok raised => exact if_pos pure

/-- The power of a number to the quotient of two names, whatever these are bound to. -/
theorem evaluate_powerOfQuotient (frozen : context.system.base? context.bases = some base)
    (number : α) {a b : String} {valueA valueB : Value α} {dimA dimB : Dimension}
    (boundA : context.environment.find? a = some valueA)
    (boundB : context.environment.find? b = some valueB)
    (knownA : valueA.unit.dimensionIn? base = some dimA)
    (knownB : valueB.unit.dimensionIn? base = some dimB) :
    context.evaluate (powerOfQuotient number b a) =
      if context.options.maxDepth < 3 then .error (.depthExceeded context.options.maxDepth)
      else if (dimB - dimA).isZero then
        .ok (context.result (Scalar.power number (valueB.number / valueA.number))
          (.simple context.system.pureUnit))
      else .error .dimensionedExponent := by
  have homeB := base?_of_known frozen knownB
  have measured := Unit.dimensionIn?_quotientIn knownB knownA
  have home := base?_of_known frozen measured
  have judged := Unit.isDimensionlessIn_eq measured
  rw [evaluate_eq frozen, powerOfQuotient]
  -- The tree has three levels, and each of them can be the first that is too deep.
  by_cases first : context.options.maxDepth < 1
  · rw [evaluateAt_of_deep first, if_pos (by omega)]
  by_cases second : context.options.maxDepth < 2
  · rw [evaluateAt, if_neg first, evaluateAt_of_deep second, if_pos (by omega)]
  by_cases third : context.options.maxDepth < 3
  · simp only [evaluateAt, first, second, third, ↓reduceIte]
  · simp only [evaluateAt, first, second, third, ↓reduceIte, boundA, boundB, apply, Unit.divide,
      homeB, withUnit, result, Unit.isDimensionless, home, judged]

/-- A unit without a dimension converts into pure numbers with its factor. -/
theorem conversionTo_pureUnit (frozen : context.system.base? context.bases = some base)
    {unit : Unit α} (known : unit.dimensionIn? base = some (Dimension.zeros base.rank)) :
    unit.conversionTo context.bases (.simple context.system.pureUnit) =
      unit.factor / Scalar.one := by
  have home := base?_of_known frozen known
  have pure : (Unit.simple context.system.pureUnit).dimensionIn? base =
      some (Dimension.zeros base.rank) := dimensionIn?_pureUnit frozen
  have compatible := (Unit.compatibleIn_iff known pure).2 rfl
  simp only [Unit.conversionTo, home, Unit.conversionIn, compatible, ↓reduceIte]
  rfl

end Outcome

section Exponents

variable {power : Exact → Exact → Exact} {context : Context (Powered power)} {base : Base}
  {value other : Value (Powered power)}

/-- What a value amounts to as a pure number is its number times the factor of its unit. -/
theorem exists_of_convertTo_pureUnit {x : ℚ}
    (amount : value.convertTo context.bases (.simple context.system.pureUnit) = Powered.of x) :
    value.unit.isDimensionless context.bases = true ∧
      ∃ n f : ℚ, value.number = Powered.of n ∧ value.unit.factor = Powered.of f ∧ n * f = x := by
  obtain ⟨n, f, number, conversion, product⟩ := Powered.exists_of_mul amount
  have defined : value.unit.conversionTo context.bases (.simple context.system.pureUnit) ≠
      Scalar.undefined := by
    rw [conversion]
    exact Powered.of_ne_undefined _
  obtain ⟨_, _, _, _, _, ratio⟩ := Unit.exists_of_conversionTo defined
  rw [ratio] at conversion
  exact ⟨isDimensionless_of_conversionTo defined, n, f, number, Powered.eq_of_div_one conversion,
    product⟩

/-- A value expressed in another unit stays in its dimension. -/
theorem dimensionIn?_of_rescaled (frozen : context.system.base? context.bases = some base)
    {factor : ℚ} (rescaled : value.Rescaled context.bases factor other) {dimension : Dimension}
    (known : value.unit.dimensionIn? base = some dimension) :
    other.unit.dimensionIn? base = some dimension := by
  have defined : value.unit.conversionTo context.bases other.unit ≠ Scalar.undefined := by
    rw [rescaled.conversion]
    exact Powered.of_ne_undefined _
  obtain ⟨own, shared, home, before, after, _⟩ := Unit.exists_of_conversionTo defined
  rw [base?_of_known frozen known, Option.some.injEq] at home
  subst home
  rwa [known.symm.trans before]

/-- A power is that of the number that the exponent has in its own unit. For exponents that amount
to the same pure number, these numbers are the same exactly when the factors of their units are or
the pure number is zero. A quotient of two names keeps its number when both are expressed in other
units with one conversion factor, and otherwise only where it is zero or undefined. -/
theorem power_of_exponents (power : Exact → Exact → Exact)
    (context : Context (Powered power)) (base : Base)
    (frozen : context.system.base? context.bases = some base)
    (known : context.environment.KnownIn base) :
    (∀ (left right right' : Expr (Powered power)) (exponent exponent' : Value _) (x : ℚ),
      context.evaluateAt 2 right = .ok exponent → context.evaluateAt 2 right' = .ok exponent' →
      exponent.convertTo context.bases (.simple context.system.pureUnit) = Powered.of x →
      exponent'.convertTo context.bases (.simple context.system.pureUnit) = Powered.of x →
      context.evaluate (.binary left .power right) =
        (context.evaluateAt 2 left).map (fun raised =>
          context.result (power raised.number exponent.number) raised.unit) ∧
      context.evaluate (.binary left .power right') =
        (context.evaluateAt 2 left).map (fun raised =>
          context.result (power raised.number exponent'.number) raised.unit) ∧
      ∃ f f' : ℚ, exponent.unit.factor = Powered.of f ∧ exponent'.unit.factor = Powered.of f' ∧
        (f ≠ 0 → f' ≠ 0 → (exponent.number = exponent'.number ↔ f = f' ∨ x = 0) ∧
          (f = f' ∨ x = 0 → context.evaluate (.binary left .power right') =
            context.evaluate (.binary left .power right)))) ∧
    ∀ (number : Powered power) (a b : String) (valueA valueB valueA' valueB' : Value _)
      (other : Environment (Powered power)) (factorA factorB : ℚ),
      context.environment.find? a = some valueA → context.environment.find? b = some valueB →
      other.find? a = some valueA' → other.find? b = some valueB' →
      valueA.Rescaled context.bases factorA valueA' →
      valueB.Rescaled context.bases factorB valueB' → factorA ≠ 0 →
      (valueB'.number / valueA'.number = valueB.number / valueA.number ↔
        factorB = factorA ∨ valueB.number = Powered.of 0 ∨
          valueB.number / valueA.number = Scalar.undefined) ∧
      (factorB = factorA ∨ valueB.number = Powered.of 0 →
        (context.rebind other).evaluate (powerOfQuotient number b a) =
          context.evaluate (powerOfQuotient number b a)) := by
  constructor
  · intro left right right' exponent exponent' x computed computed' amount amount'
    obtain ⟨pure, n, f, number, factor, product⟩ := exists_of_convertTo_pureUnit amount
    obtain ⟨pure', n', f', number', factor', product'⟩ := exists_of_convertTo_pureUnit amount'
    have raised := evaluate_power frozen left computed pure
    have raised' := evaluate_power frozen left computed' pure'
    refine ⟨raised, raised', f, f', factor, factor', ?_⟩
    intro nonzero nonzero'
    have decided := Exact.number_eq_iff product product' nonzero nonzero'
    rw [raised, raised', number, number']
    refine ⟨Powered.of_inj.trans decided, ?_⟩
    intro alike
    rw [decided.2 alike]
  · intro number a b valueA valueB valueA' valueB' other factorA factorB boundA boundB boundA'
      boundB' rescaledA rescaledB nonzero
    obtain ⟨dimA, knownA⟩ := Option.isSome_iff_exists.1 (known a valueA boundA)
    obtain ⟨dimB, knownB⟩ := Option.isSome_iff_exists.1 (known b valueB boundB)
    have knownA' := dimensionIn?_of_rescaled frozen rescaledA knownA
    have knownB' := dimensionIn?_of_rescaled frozen rescaledB knownB
    have frozen' : (context.rebind other).system.base? (context.rebind other).bases = some base :=
      frozen
    have decided : valueB'.number / valueA'.number = valueB.number / valueA.number ↔
        factorB = factorA ∨ valueB.number = Powered.of 0 ∨
          valueB.number / valueA.number = Scalar.undefined := by
      rw [rescaledA.expressed, rescaledB.expressed, Value.convertTo, Value.convertTo,
        rescaledA.conversion, rescaledB.conversion]
      exact Powered.div_scaled_iff _ _ factorB nonzero
    refine ⟨decided, ?_⟩
    intro alike
    rw [evaluate_powerOfQuotient frozen' number boundA' boundB' knownA' knownB',
      evaluate_powerOfQuotient frozen number boundA boundB knownA knownB,
      decided.2 (alike.imp_right Or.inl)]
    rfl

end Exponents

/-- Six decametres and three. -/
def decametres : List (String × Value (Powered Scalar.power)) :=
  [("b", .of (.of 6) (lengthUnit "decametre" (.of 10))),
    ("a", .of (.of 3) (lengthUnit "decametre" (.of 10)))]

/-- The same in metres. -/
def metres : List (String × Value (Powered Scalar.power)) :=
  [("b", .of (.of 60) (lengthUnit "metre" (.of 1))),
    ("a", .of (.of 30) (lengthUnit "metre" (.of 1)))]

theorem knownIn_decametres :
    (lengths decametres).environment.KnownIn (lengths decametres).system.layout := by
  apply knownIn_lengths
  simp only [decametres, List.forall_mem_cons]
  exact ⟨⟨_, _, rfl⟩, ⟨_, _, rfl⟩, List.forall_mem_nil _⟩

/-- Expressing decametres in metres multiplies them by ten. -/
theorem rescaled_metres {n m : ℚ} (ten : n * 10 = m) :
    (Value.of (.of n) (lengthUnit "decametre" (.of 10)) :
      Value (Powered Scalar.power)).Rescaled (lengths decametres).bases 10
      (.of (.of m) (lengthUnit "metre" (.of 1))) := by
  have conversion : (lengthUnit "decametre" (.of 10) : Unit (Powered Scalar.power)).conversionTo
      (lengths decametres).bases (lengthUnit "metre" (.of 1)) = .of 10 := by
    rw [conversionTo_lengthUnit]
    decide +kernel
  refine ⟨conversion, ?_⟩
  simp only [Value.convertTo, Value.of, conversion]
  exact (Powered.of_inj.2 ten).symm

/-- Five to six decametres over three is five to two, and to sixty metres over thirty. -/
theorem power_of_decametres :
    (lengths decametres).evaluate (.binary (.number (.of 5)) .power (.number (.of 2))) =
        (lengths decametres).evaluate (powerOfQuotient (.of 5) "b" "a") ∧
      ((lengths decametres).rebind ⟨metres⟩).evaluate (powerOfQuotient (.of 5) "b" "a") =
        (lengths decametres).evaluate (powerOfQuotient (.of 5) "b" "a") := by
  let base := (lengths decametres).system.layout
  let unit : Unit (Powered Scalar.power) := lengthUnit "decametre" (.of 10)
  have frozen : (lengths decametres).system.base? (lengths decametres).bases = some base := rfl
  obtain ⟨byAmount, byNames⟩ :=
    power_of_exponents Scalar.power (lengths decametres) base frozen knownIn_decametres
  constructor
  · have computed : (lengths decametres).evaluateAt 2
        (.binary (.identifier "b") .divide (.identifier "a")) =
        .ok ((lengths decametres).result (.of 6 / .of 3) (unit.quotientIn base unit)) := rfl
    have measured : unit.dimensionIn? base = some ⟨[1]⟩ := rfl
    have quotient :=
      conversionTo_pureUnit frozen (Unit.dimensionIn?_quotientIn_self measured measured)
    have known : (Unit.simple (lengths decametres).system.pureUnit).dimensionIn? base =
        some (Dimension.zeros base.rank) := dimensionIn?_pureUnit frozen
    have number := conversionTo_pureUnit frozen known
    have two : Value.convertTo (lengths decametres).bases
        ((lengths decametres).result (.of 6 / .of 3) (unit.quotientIn base unit))
        (.simple (lengths decametres).system.pureUnit) = Powered.of 2 := by
      simp only [Value.convertTo, result, quotient]
      decide +kernel
    have two' : Value.convertTo (lengths decametres).bases
        ((lengths decametres).result (.of 2) (.simple (lengths decametres).system.pureUnit))
        (.simple (lengths decametres).system.pureUnit) = Powered.of 2 := by
      simp only [Value.convertTo, result, number]
      decide +kernel
    have one : (unit.quotientIn base unit).factor = Powered.of 1 := by decide +kernel
    obtain ⟨_, _, f, f', factor, factor', decided⟩ :=
      byAmount (.number (.of 5)) _ (.number (.of 2)) _ _ 2 computed rfl two two'
    have plain : f = 1 := Powered.of_inj.1 (factor.symm.trans one)
    have plain' : f' = 1 := Powered.of_inj.1 factor'.symm
    rw [plain, plain'] at decided
    exact (decided one_ne_zero one_ne_zero).2 (Or.inl rfl)
  · exact (byNames (.of 5) "a" "b" _ _ _ _ ⟨metres⟩ 10 10 rfl rfl rfl rfl
      (rescaled_metres (by norm_num)) (rescaled_metres (by norm_num)) (by norm_num)).2
      (Or.inl rfl)

/-- A decametre, ten metres and a metre. -/
def strides : List (String × Value Exact) :=
  [("far", .of (.of 1) (lengthUnit "decametre" (.of 10))),
    ("same", .of (.of 10) (lengthUnit "metre" (.of 1))),
    ("step", .of (.of 1) (lengthUnit "metre" (.of 1)))]

/-- A decametre over a metre and ten metres over a metre both have no dimension and are the pure
number 10, but two to the one is 2 and two to the other is 1024. -/
theorem power_of_strides_differs :
    let context : Context Exact := lengths strides
    let number : Unit Exact := .simple context.system.pureUnit
    context.environment.KnownIn context.system.layout ∧
    ∃ far same power power' : Value Exact,
      context.evaluateAt 2 (.binary (.identifier "far") .divide (.identifier "step")) = .ok far ∧
      context.evaluateAt 2 (.binary (.identifier "same") .divide (.identifier "step")) = .ok same ∧
      far.unit.isDimensionless context.bases = true ∧
      same.unit.isDimensionless context.bases = true ∧
      far.convertTo context.bases number = .of 10 ∧
      same.convertTo context.bases number = .of 10 ∧
      context.evaluate (powerOfQuotient (.of 2) "far" "step") = .ok power ∧
      context.evaluate (powerOfQuotient (.of 2) "same" "step") = .ok power' ∧
      power.number = .of 2 ∧ power'.number = .of 1024 := by
  intro context number
  let base := context.system.layout
  let decametre : Unit Exact := lengthUnit "decametre" (.of 10)
  let metre : Unit Exact := lengthUnit "metre" (.of 1)
  have frozen : context.system.base? context.bases = some base := rfl
  have known : context.environment.KnownIn base := by
    apply knownIn_lengths
    simp only [strides, List.forall_mem_cons]
    exact ⟨⟨_, _, rfl⟩, ⟨_, _, rfl⟩, ⟨_, _, rfl⟩, List.forall_mem_nil _⟩
  have knownDecametre : decametre.dimensionIn? base = some ⟨[1]⟩ := rfl
  have knownMetre : metre.dimensionIn? base = some ⟨[1]⟩ := rfl
  have far := conversionTo_pureUnit frozen
    (Unit.dimensionIn?_quotientIn_self knownMetre knownDecametre)
  have same := conversionTo_pureUnit frozen
    (Unit.dimensionIn?_quotientIn_self knownMetre knownMetre)
  have pureFar : (decametre.quotientIn base metre).isDimensionless context.bases = true := by
    apply isDimensionless_of_conversionTo
    rw [far]
    decide +kernel
  have pureSame : (metre.quotientIn base metre).isDimensionless context.bases = true := by
    apply isDimensionless_of_conversionTo
    rw [same]
    decide +kernel
  refine ⟨known, context.result (.of 1 / .of 1) (decametre.quotientIn base metre),
    context.result (.of 10 / .of 1) (metre.quotientIn base metre), _, _, rfl, rfl, pureFar,
    pureSame, ?_, ?_, evaluate_power frozen _ rfl pureFar, evaluate_power frozen _ rfl pureSame,
    ?_, ?_⟩
  · simp only [Value.convertTo, result, number, far]
    decide +kernel
  · simp only [Value.convertTo, result, number, same]
    decide +kernel
  · decide +kernel
  · decide +kernel

end Context

end Formula

end Dimensional
