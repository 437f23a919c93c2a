import Dimensional.Formula.Formula
import Dimensional.Proofs.NetCount
import Dimensional.Proofs.Outcome

/-!
What evaluation does not see. Units are alike when they differ in serial numbers only, and bases
when they list the same quantities in another order. Whatever is done with units, alike units over
alike bases come to alike results, so two evaluations over alike values have the same number, the
same unit but for serial numbers, or the same error.
-/

set_option autoImplicit false

namespace Dimensional

variable {α : Type}

namespace SimpleUnit

/-- The unit without its serial number. -/
def unmarked (unit : SimpleUnit α) : SimpleUnit α := { unit with serial := 0 }

@[simp] theorem unmarked_name (unit : SimpleUnit α) : unit.unmarked.name = unit.name := rfl

@[simp] theorem unmarked_label (unit : SimpleUnit α) : unit.unmarked.label = unit.label := rfl

@[simp] theorem unmarked_quantity (unit : SimpleUnit α) :
    unit.unmarked.quantity = unit.quantity := rfl

@[simp] theorem unmarked_factor (unit : SimpleUnit α) : unit.unmarked.factor = unit.factor := rfl

theorem belongsTo_unmarked (base : Base) (unit : SimpleUnit α) :
    unit.unmarked.BelongsTo base ↔ unit.BelongsTo base :=
  ⟨fun known => ⟨known.native, known.listed⟩, fun known => ⟨known.native, known.listed⟩⟩

/-- Whether a simple unit has a dimension does not depend on the base. -/
theorem isDimensionlessIn_eq (base : Base) (unit : SimpleUnit α) :
    unit.isDimensionlessIn base = unit.quantity.isDimensionless := by
  cases pure : unit.isDimensionlessIn base with
  | true => rw [quantity_of_isDimensionlessIn pure, Quantity.isDimensionless_dimensionless]
  | false => exact (Bool.or_eq_false_iff.1 pure).1.symm

end SimpleUnit

namespace Members

/-- The members without their serial numbers. -/
def unmarked (members : Members α) : Members α :=
  ⟨members.dividend.map SimpleUnit.unmarked, members.divisor.map SimpleUnit.unmarked⟩

theorem unmarked_append (a b : Members α) :
    (a.append b).unmarked = a.unmarked.append b.unmarked := by
  simp only [append, unmarked, List.map_append]

theorem unmarked_filter (keep : Quantity → Bool) (members : Members α) :
    (members.filter fun member => keep member.quantity).unmarked =
      members.unmarked.filter fun member => keep member.quantity := by
  simp only [filter, unmarked, List.filter_map, Function.comp_def, SimpleUnit.unmarked_quantity]

end Members

theorem measuring_unmarked (quantity : Quantity) (units : List (SimpleUnit α)) :
    measuring quantity (units.map SimpleUnit.unmarked) = measuring quantity units := by
  simp only [measuring, List.map_map, Function.comp_def, SimpleUnit.unmarked_quantity]

namespace Unit

/-- The unit without the serial numbers in it. -/
def unmarked : Unit α → Unit α
  | simple unit => simple unit.unmarked
  | composite unit => composite { unit with
      dividend := unit.dividend.map SimpleUnit.unmarked
      divisor := unit.divisor.map SimpleUnit.unmarked }

@[simp] theorem unmarked_name (unit : Unit α) : unit.unmarked.name = unit.name := by
  cases unit <;> rfl

@[simp] theorem unmarked_symbol (unit : Unit α) : unit.unmarked.symbol = unit.symbol := by
  cases unit <;> rfl

@[simp] theorem unmarked_generation (unit : Unit α) :
    unit.unmarked.generation = unit.generation := by
  cases unit <;> rfl

@[simp] theorem unmarked_label (unit : Unit α) : unit.unmarked.label = unit.label := by
  simp only [label, unmarked_symbol, unmarked_name]

/-- What does not tell serial numbers is the same of alike units. -/
theorem congr_unmarked {β : Type} {report : Unit α → β}
    (blind : ∀ unit, report unit.unmarked = report unit) {a b : Unit α}
    (same : a.unmarked = b.unmarked) : report a = report b := by
  rw [← blind a, same, blind]

theorem allMembers_unmarked (unit : Unit α) :
    unit.unmarked.allMembers = unit.allMembers.unmarked := by
  cases unit <;> rfl

@[simp] theorem unmarked_factor [Scalar α] (unit : Unit α) :
    unit.unmarked.factor = unit.factor := by
  cases unit with
  | simple unit => rfl
  | composite unit =>
    simp only [factor, unmarked, CompositeUnit.factor, List.map_map, Function.comp_def,
      SimpleUnit.unmarked_factor]

theorem netCount_unmarked (quantity : Quantity) (unit : Unit α) :
    unit.unmarked.netCount quantity = unit.netCount quantity := by
  simp only [netCount, allMembers_unmarked, Members.unmarked, measuring_unmarked]

theorem belongsTo_unmarked (base : Base) (unit : Unit α) :
    unit.unmarked.BelongsTo base ↔ unit.BelongsTo base := by
  have members : unit.unmarked.allMembers.All (SimpleUnit.BelongsTo base) ↔
      unit.allMembers.All (SimpleUnit.BelongsTo base) := by
    simp only [allMembers_unmarked, Members.All, Members.unmarked, ← List.map_append,
      List.forall_mem_map, SimpleUnit.belongsTo_unmarked]
  constructor
  · rintro ⟨native, inside⟩
    exact ⟨unit.unmarked_generation ▸ native, members.1 inside⟩
  · rintro ⟨native, inside⟩
    exact ⟨unit.unmarked_generation.trans native, members.2 inside⟩

theorem compatibleIn_unmarked (base : Base) (a b : Unit α) :
    a.unmarked.compatibleIn base b.unmarked = a.compatibleIn base b := by
  rw [Bool.eq_iff_iff, compatibleIn_iff_sameCounts, compatibleIn_iff_sameCounts]
  simp only [belongsTo_unmarked, SameCounts, netCount_unmarked]

/-- The unit without members. -/
def empty (base : Base) : Unit α := Members.toUnit ⟨[], []⟩ base.generation

theorem dimensionIn?_empty (base : Base) :
    (empty base : Unit α).dimensionIn? base = some (Dimension.zeros base.rank) := if_pos rfl

/-- A known dimension is zero when no quantity is left after cancelling. -/
theorem any_isZero_iff (base : Base) (unit : Unit α) :
    (unit.dimensionIn? base).any Dimension.isZero = true ↔
      unit.BelongsTo base ∧
        ∀ quantity, quantity ≠ Quantity.dimensionless → unit.netCount quantity = 0 := by
  rw [← isSome_dimensionIn?_iff]
  cases known : unit.dimensionIn? base with
  | none => simp
  | some dimension =>
    rw [Option.any_some, Dimension.isZero_iff_eq_zeros, size_of_dimensionIn? known,
      dimensions_eq_iff known (dimensionIn?_empty base)]
    exact ⟨fun same => ⟨rfl, same⟩, And.right⟩

theorem isDimensionlessIn_unmarked (base : Base) (unit : Unit α) :
    unit.unmarked.isDimensionlessIn base = unit.isDimensionlessIn base := by
  cases unit with
  | simple unit =>
    simp only [unmarked, isDimensionlessIn, SimpleUnit.isDimensionlessIn_eq,
      SimpleUnit.unmarked_quantity]
  | composite unit =>
    change ((Unit.composite unit).unmarked.dimensionIn? base).any _ =
      ((Unit.composite unit).dimensionIn? base).any _
    rw [Bool.eq_iff_iff, any_isZero_iff, any_isZero_iff]
    simp only [belongsTo_unmarked, netCount_unmarked]

/-- The members that have a dimension, in any base. -/
theorem membersIn_eq_filter (base : Base) (unit : Unit α) :
    unit.membersIn base =
      unit.allMembers.filter fun member => !member.quantity.isDimensionless := by
  simp only [membersIn_eq, SimpleUnit.isDimensionlessIn_eq]

theorem membersIn_unmarked (base : Base) (unit : Unit α) :
    unit.unmarked.membersIn base = (unit.membersIn base).unmarked := by
  rw [membersIn_eq_filter, membersIn_eq_filter, allMembers_unmarked,
    Members.unmarked_filter fun quantity => !quantity.isDimensionless]

end Unit

/-- Names and symbols of what unit arithmetic makes do not tell serial numbers. -/
theorem Members.unmarked_toUnit (members : Members α) (generation : Generation) :
    (members.toUnit generation).unmarked = members.unmarked.toUnit generation := by
  simp only [toUnit, Unit.unmarked, CompositeUnit.generated, unmarked, List.map_map,
    Function.comp_def, SimpleUnit.unmarked_name, SimpleUnit.unmarked_label]

namespace Unit

theorem productIn_unmarked (base : Base) (a b : Unit α) :
    a.unmarked.productIn base b.unmarked = (a.productIn base b).unmarked := by
  rw [productIn, productIn, Members.unmarked_toUnit, Members.unmarked_append, membersIn_unmarked,
    membersIn_unmarked, unmarked_generation]

theorem quotientIn_unmarked (base : Base) (a b : Unit α) :
    a.unmarked.quotientIn base b.unmarked = (a.quotientIn base b).unmarked := by
  rw [quotientIn, quotientIn, Members.unmarked_toUnit, Members.unmarked_append, membersIn_unmarked,
    membersIn_unmarked, unmarked_generation]
  rfl

theorem productIn_eq (base other : Base) (a b : Unit α) :
    a.productIn base b = a.productIn other b := by
  simp only [productIn, membersIn_eq_filter]

theorem quotientIn_eq (base other : Base) (a b : Unit α) :
    a.quotientIn base b = a.quotientIn other b := by
  simp only [quotientIn, membersIn_eq_filter]

end Unit

theorem Base.Shuffles.isDimensionlessIn_eq {base shuffled : Base}
    (shuffles : base.Shuffles shuffled) (unit : Unit α) :
    unit.isDimensionlessIn shuffled = unit.isDimensionlessIn base := by
  cases unit with
  | simple unit => simp only [Unit.isDimensionlessIn, SimpleUnit.isDimensionlessIn_eq]
  | composite unit =>
    change ((Unit.composite unit).dimensionIn? shuffled).any _ =
      ((Unit.composite unit).dimensionIn? base).any _
    rw [Bool.eq_iff_iff, Unit.any_isZero_iff, Unit.any_isZero_iff, shuffles.belongsTo_iff]

/-- The same generations are frozen, with the same quantities in any order. -/
def Bases.Shuffles (bases shuffled : Bases) : Prop :=
  ∀ generation, Option.Rel Base.Shuffles (bases.base? generation) (shuffled.base? generation)

namespace Bases.Shuffles

variable {bases shuffled : Bases}

theorem base?_cases (shuffles : bases.Shuffles shuffled) (generation : Generation) :
    (bases.base? generation = none ∧ shuffled.base? generation = none) ∨
      ∃ base other, bases.base? generation = some base ∧
        shuffled.base? generation = some other ∧ base.Shuffles other := by
  have related := shuffles generation
  cases frozen : bases.base? generation <;> cases frozen' : shuffled.base? generation <;>
    rw [frozen, frozen'] at related <;> cases related
  · exact Or.inl ⟨rfl, rfl⟩
  · next same => exact Or.inr ⟨_, _, rfl, rfl, same⟩

variable {a b a' b' : Unit α}

theorem isDimensionless_eq (shuffles : bases.Shuffles shuffled)
    (same : a.unmarked = a'.unmarked) :
    a'.isDimensionless shuffled = a.isDimensionless bases := by
  have blind : ∀ unit : Unit α,
      unit.unmarked.isDimensionless shuffled = unit.isDimensionless shuffled := by
    intro unit
    unfold Unit.isDimensionless
    rw [Unit.unmarked_generation]
    cases shuffled.base? unit.generation with
    | some base => exact unit.isDimensionlessIn_unmarked base
    | none => cases unit <;> rfl
  rw [← Unit.congr_unmarked blind same]
  unfold Unit.isDimensionless
  rcases shuffles.base?_cases a.generation with ⟨none, none'⟩ | ⟨base, other, frozen, frozen', both⟩
  · rw [none, none']
  · rw [frozen, frozen']
    exact both.isDimensionlessIn_eq a

theorem conversionTo_eq [Scalar α] (shuffles : bases.Shuffles shuffled)
    (left : a.unmarked = a'.unmarked) (right : b.unmarked = b'.unmarked) :
    a'.conversionTo shuffled b' = a.conversionTo bases b := by
  have generation := Unit.congr_unmarked Unit.unmarked_generation left
  have above := Unit.congr_unmarked Unit.unmarked_factor left
  have below := Unit.congr_unmarked Unit.unmarked_factor right
  rw [Unit.conversionTo, Unit.conversionTo, ← generation]
  rcases shuffles.base?_cases a.generation with ⟨none, none'⟩ | ⟨base, other, frozen, frozen', same⟩
  · rw [none, none']
  · have judged : a'.compatibleIn other b' = a.compatibleIn base b := by
      rw [same.compatibleIn_eq, ← Unit.compatibleIn_unmarked base a b, left, right,
        Unit.compatibleIn_unmarked]
    rw [frozen, frozen']
    simp only [Unit.conversionIn, Unit.factorRatio, judged, above, below]

theorem multiply_eq (shuffles : bases.Shuffles shuffled) (left : a.unmarked = a'.unmarked)
    (right : b.unmarked = b'.unmarked) :
    (a'.multiply shuffled b').map Unit.unmarked = (a.multiply bases b).map Unit.unmarked := by
  have generation := Unit.congr_unmarked Unit.unmarked_generation left
  rw [Unit.multiply, Unit.multiply, ← generation]
  rcases shuffles.base?_cases a.generation with ⟨none, none'⟩ | ⟨base, other, frozen, frozen', _⟩
  · rw [none, none']
  · rw [frozen, frozen']
    simp only [Except.map, ← Unit.productIn_unmarked, left, right, Unit.productIn_eq base other]

theorem divide_eq (shuffles : bases.Shuffles shuffled) (left : a.unmarked = a'.unmarked)
    (right : b.unmarked = b'.unmarked) :
    (a'.divide shuffled b').map Unit.unmarked = (a.divide bases b).map Unit.unmarked := by
  have generation := Unit.congr_unmarked Unit.unmarked_generation left
  rw [Unit.divide, Unit.divide, ← generation]
  rcases shuffles.base?_cases a.generation with ⟨none, none'⟩ | ⟨base, other, frozen, frozen', _⟩
  · rw [none, none']
  · rw [frozen, frozen']
    simp only [Except.map, ← Unit.quotientIn_unmarked, left, right, Unit.quotientIn_eq base other]

end Bases.Shuffles

namespace Formula

/-- The value without serial numbers in its unit. -/
def Value.unmarked (value : Value α) : Value α := { value with unit := value.unit.unmarked }

theorem Value.unmarked_eq_iff (value other : Value α) :
    value.unmarked = other.unmarked ↔
      value.number = other.number ∧ value.unit.unmarked = other.unit.unmarked ∧
        value.precision = other.precision := by
  simp only [unmarked, Value.mk.injEq]

namespace Context

/-- Contexts with alike values over alike bases. -/
structure Alike (first second : Context α) : Prop where
  bases : first.bases.Shuffles second.bases
  generation : first.system.generation = second.system.generation
  values : ∀ name, (first.environment.find? name).map Value.unmarked =
    (second.environment.find? name).map Value.unmarked
  options : first.options = second.options

variable {first second : Context α}

theorem unmarked_result (alike : first.Alike second) {number : α} {unit other : Unit α}
    (same : unit.unmarked = other.unmarked) :
    (first.result number unit).unmarked = (second.result number other).unmarked := by
  rw [Value.unmarked_eq_iff]
  exact ⟨rfl, same, congrArg Options.precision alike.options⟩

theorem map_unmarked_withUnit (alike : first.Alike second) (number : α)
    {unit other : Except UnitError (Unit α)}
    (same : other.map Unit.unmarked = unit.map Unit.unmarked) :
    (first.withUnit number unit).map Value.unmarked =
      (second.withUnit number other).map Value.unmarked := by
  rcases Except.map_eq_map same with ⟨error, rfl, rfl⟩ | ⟨b, a, rfl, rfl, alikeUnits⟩
  · rfl
  · exact congrArg Except.ok (unmarked_result alike alikeUnits.symm)

variable [Scalar α]

theorem map_unmarked_combine (alike : first.Alike second) (operation : α → α → α)
    {left right left' right' : Value α} (sameLeft : left.unmarked = left'.unmarked)
    (sameRight : right.unmarked = right'.unmarked) :
    (first.combine operation left right).map Value.unmarked =
      (second.combine operation left' right').map Value.unmarked := by
  obtain ⟨numberLeft, unitLeft, _⟩ := (left.unmarked_eq_iff left').1 sameLeft
  obtain ⟨numberRight, unitRight, _⟩ := (right.unmarked_eq_iff right').1 sameRight
  have factor := alike.bases.conversionTo_eq unitLeft unitRight
  have nameLeft := Unit.congr_unmarked Unit.unmarked_name unitLeft
  have nameRight := Unit.congr_unmarked Unit.unmarked_name unitRight
  simp only [combine, factor, nameLeft, nameRight, numberLeft, numberRight]
  split
  · rfl
  · exact congrArg Except.ok (unmarked_result alike unitRight)

/-- Operations on alike values come to alike values or to the same error. -/
theorem map_unmarked_apply (alike : first.Alike second) (operator : Operator)
    {left right left' right' : Value α} (sameLeft : left.unmarked = left'.unmarked)
    (sameRight : right.unmarked = right'.unmarked) :
    (first.apply operator left right).map Value.unmarked =
      (second.apply operator left' right').map Value.unmarked := by
  obtain ⟨numberLeft, unitLeft, _⟩ := (left.unmarked_eq_iff left').1 sameLeft
  obtain ⟨numberRight, unitRight, _⟩ := (right.unmarked_eq_iff right').1 sameRight
  cases operator with
  | add => exact map_unmarked_combine alike _ sameLeft sameRight
  | subtract => exact map_unmarked_combine alike _ sameLeft sameRight
  | multiply =>
    rw [apply, apply, numberLeft, numberRight]
    exact map_unmarked_withUnit alike _ (alike.bases.multiply_eq unitLeft unitRight)
  | divide =>
    rw [apply, apply, numberLeft, numberRight]
    exact map_unmarked_withUnit alike _ (alike.bases.divide_eq unitLeft unitRight)
  | power =>
    rw [apply, apply, alike.bases.isDimensionless_eq unitRight, numberLeft, numberRight]
    split
    · exact congrArg Except.ok (unmarked_result alike unitLeft)
    · rfl
  | modulo => rfl

/-- Trees over alike contexts come to alike values or to the same error. -/
theorem map_unmarked_evaluateAt (alike : first.Alike second) (expr : Expr α) (depth : Nat) :
    (first.evaluateAt depth expr).map Value.unmarked =
      (second.evaluateAt depth expr).map Value.unmarked := by
  induction expr generalizing depth with
  | number value =>
    rw [evaluateAt, evaluateAt, alike.options]
    split
    · rfl
    · have pure : (Unit.simple first.system.pureUnit).unmarked =
          (Unit.simple second.system.pureUnit).unmarked := by
        rw [QuantitySystem.pureUnit, QuantitySystem.pureUnit, alike.generation]
        rfl
      exact congrArg Except.ok (unmarked_result alike pure)
  | identifier name =>
    rw [evaluateAt, evaluateAt, alike.options]
    have bound := alike.values name
    split
    · rfl
    · cases found : first.environment.find? name with
      | none =>
        rw [found] at bound
        rw [Option.map_eq_none_iff.1 bound.symm]
      | some value =>
        rw [found] at bound
        obtain ⟨value', found', same⟩ := Option.map_eq_some_iff.1 bound.symm
        rw [found']
        exact congrArg Except.ok same.symm
  | negate operand ih =>
    rw [evaluateAt, evaluateAt, alike.options]
    split
    · rfl
    · rcases Except.map_eq_map (ih (depth + 1)) with ⟨error, failed, failed'⟩ |
        ⟨value, value', computed, computed', same⟩
      · rw [failed, failed']
      · obtain ⟨number, unit, _⟩ := (value.unmarked_eq_iff value').1 same
        rw [computed, computed']
        simp only [number]
        exact congrArg Except.ok (unmarked_result alike unit)
  | binary left operator right ihLeft ihRight =>
    rw [evaluateAt, evaluateAt, alike.options]
    split
    · rfl
    · rcases Except.map_eq_map (ihLeft (depth + 1)) with ⟨error, failed, failed'⟩ |
        ⟨leftValue, leftValue', computed, computed', sameLeft⟩
      · rw [failed, failed']
      rw [computed, computed']
      rcases Except.map_eq_map (ihRight (depth + 1)) with ⟨error, failed, failed'⟩ |
        ⟨rightValue, rightValue', computed, computed', sameRight⟩
      · rw [failed, failed']
      rw [computed, computed']
      exact map_unmarked_apply alike operator sameLeft sameRight
  | invalid text =>
    rw [evaluateAt, evaluateAt, alike.options]

theorem map_unmarked_evaluate (alike : first.Alike second) (expr : Expr α) :
    (first.evaluate expr).map Value.unmarked = (second.evaluate expr).map Value.unmarked := by
  rw [evaluate, evaluate, QuantitySystem.base, QuantitySystem.base, QuantitySystem.base?,
    QuantitySystem.base?, alike.generation]
  rcases alike.bases.base?_cases second.system.generation with ⟨none, none'⟩ |
    ⟨base, other, frozen, frozen', _⟩
  · rw [none, none']
  · rw [frozen, frozen']
    exact map_unmarked_evaluateAt alike expr 1

end Context

variable {first second : Context Float}

theorem map_unmarked_evaluate (alike : first.Alike second) (text : String) :
    ((parse text).bind fun parsed => parsed.evaluate first).map Value.unmarked =
      ((parse text).bind fun parsed => parsed.evaluate second).map Value.unmarked := by
  cases parse text with
  | error error => simp only [Except.bind]
  | ok formula =>
    simp only [Except.bind, evaluate, evaluateExpr]
    rcases Except.map_eq_map (Context.map_unmarked_evaluate alike formula.expr) with
      ⟨error, failed, failed'⟩ | ⟨value, value', computed, computed', same⟩
    · rw [failed, failed']
    · rw [computed, computed']
      exact congrArg Except.ok same

/-- Expressed in alike units, alike values are the same number. -/
theorem evaluateAs_eq (alike : first.Alike second) (text : String) {target target' : Unit Float}
    (sameTarget : target.unmarked = target'.unmarked) :
    ((parse text).bind fun parsed => parsed.evaluateAs first target) =
      ((parse text).bind fun parsed => parsed.evaluateAs second target') := by
  have outcomes := map_unmarked_evaluate alike text
  cases parsed : parse text with
  | error error => simp only [Except.bind]
  | ok formula =>
    rw [parsed] at outcomes
    simp only [Except.bind] at outcomes ⊢
    rw [evaluateAs, evaluateAs]
    rcases Except.map_eq_map outcomes with ⟨error, failed, failed'⟩ |
      ⟨value, value', computed, computed', same⟩
    · rw [failed, failed']
    · obtain ⟨number, unit, _⟩ := (value.unmarked_eq_iff value').1 same
      have factor := alike.bases.conversionTo_eq unit sameTarget
      have name := Unit.congr_unmarked Unit.unmarked_name unit
      have targetName := Unit.congr_unmarked Unit.unmarked_name sameTarget
      rw [computed, computed']
      simp only [expressIn, factor, number, name, targetName]

end Formula

end Dimensional
