import Dimensional.Proofs.Calibration

/-!
Multiplying by a unit and dividing by it again. Members are listed and never cancelled, so what
comes back is a longer unit of the same dimension. The other unit leaves no trace in its factor; but
the members without a dimension are left out on the way, with whatever factors they had, so the unit
is restored exactly when these factors cancel.
-/

set_option autoImplicit false

namespace Dimensional

namespace Members

variable {α : Type}

theorem filter_append (keep : SimpleUnit α → Bool) (a b : Members α) :
    (a.append b).filter keep = (a.filter keep).append (b.filter keep) := by
  simp only [filter, append, List.filter_append]

theorem filter_filter_self (keep : SimpleUnit α → Bool) (a : Members α) :
    (a.filter keep).filter keep = a.filter keep := by
  simp only [filter, List.filter_filter, Bool.and_self]

end Members

namespace Unit

variable {α : Type}

theorem membersIn_toUnit (base : Base) (generation : Generation) (members : Members α) :
    (members.toUnit generation).membersIn base =
      members.filter fun member => !member.isDimensionlessIn base :=
  membersIn_eq base (members.toUnit generation)

/-- Nothing more is left out of members that were filtered before. -/
theorem filter_membersIn (base : Base) (unit : Unit α) :
    ((unit.membersIn base).filter fun member => !member.isDimensionlessIn base) =
      unit.membersIn base := by
  rw [membersIn_eq, Members.filter_filter_self]

theorem membersIn_productIn (base : Base) (a b : Unit α) :
    (a.productIn base b).membersIn base = (a.membersIn base).append (b.membersIn base) := by
  rw [productIn, membersIn_toUnit, Members.filter_append, filter_membersIn, filter_membersIn]

theorem membersIn_quotientIn (base : Base) (a b : Unit α) :
    (a.quotientIn base b).membersIn base =
      (a.membersIn base).append (b.membersIn base).inverse := by
  have inverted : ((b.membersIn base).inverse.filter fun member => !member.isDimensionlessIn base) =
      (b.membersIn base).inverse := congrArg Members.inverse (filter_membersIn base b)
  rw [quotientIn, membersIn_toUnit, Members.filter_append, filter_membersIn, inverted]

variable {a b x y unit : Unit Exact}

namespace Positive

theorem membersIn_pos (positive : unit.Positive) (base : Base) : 0 < (unit.membersIn base).ratio :=
  Members.ratio_pos (all_membersIn positive base)

theorem droppedIn_pos (positive : unit.Positive) (base : Base) : 0 < (unit.droppedIn base).ratio :=
  Members.ratio_pos (Members.All.filter positive _)

theorem productIn (left : a.Positive) (right : b.Positive) (base : Base) :
    (a.productIn base b).Positive :=
  (all_membersIn left base).append (all_membersIn right base)

theorem quotientIn (left : a.Positive) (right : b.Positive) (base : Base) :
    (a.quotientIn base b).Positive :=
  (all_membersIn left base).append (all_membersIn right base).inverse

end Positive

/-- Only the members of the first operand that have a dimension count in the end. -/
theorem ratio_quotientIn_productIn (base : Base) (x : Unit Exact) (positive : y.Positive) :
    ((x.productIn base y).quotientIn base y).ratio = (x.membersIn base).ratio := by
  have nonzero := (positive.membersIn_pos base).ne'
  change (((x.productIn base y).membersIn base).append (y.membersIn base).inverse).ratio = _
  rw [membersIn_productIn, Members.ratio_append, Members.ratio_append, Members.ratio_inverse,
    mul_inv_cancel_right₀ nonzero]

theorem ratio_productIn_quotientIn (base : Base) (x : Unit Exact) (positive : y.Positive) :
    ((x.quotientIn base y).productIn base y).ratio = (x.membersIn base).ratio := by
  have nonzero := (positive.membersIn_pos base).ne'
  change (((x.quotientIn base y).membersIn base).append (y.membersIn base)).ratio = _
  rw [membersIn_quotientIn, Members.ratio_append, Members.ratio_append, Members.ratio_inverse,
    inv_mul_cancel_right₀ nonzero]

/-- What multiplication and division by the same unit give back for a unit. -/
structure Restores (bases : Bases) (base : Base) (restored unit : Unit Exact) : Prop where
  dimension : restored.dimensionIn? base = unit.dimensionIn? base
  conversion : restored.conversionTo bases unit = .of (1 / (unit.droppedIn base).ratio)
  neutral : restored.conversionTo bases unit = .of 1 ↔ (unit.droppedIn base).ratio = 1

/-- A unit of the same dimension whose factor counts the members that have a dimension. -/
theorem Restores.of_ratio {bases : Bases} {base : Base} {restored : Unit Exact}
    {dimension : Dimension} (home : bases.base? restored.generation = some base)
    (known : restored.dimensionIn? base = some dimension)
    (same : unit.dimensionIn? base = some dimension)
    (positive : restored.Positive) (positive' : unit.Positive)
    (ratio : restored.ratio = (unit.membersIn base).ratio) :
    restored.Restores bases base unit := by
  have compatible := (compatibleIn_iff known same).2 rfl
  have keeps := (positive'.membersIn_pos base).ne'
  have drops := (positive'.droppedIn_pos base).ne'
  have conversion : restored.conversionTo bases unit = .of (1 / (unit.droppedIn base).ratio) := by
    simp only [conversionTo, home, conversionIn, compatible, ↓reduceIte]
    rw [positive.factorRatio_eq positive', ratio, ← ratio_membersIn_mul base unit,
      div_mul_cancel_left₀ keeps, one_div]
  refine ⟨known.trans same.symm, conversion, ?_⟩
  rw [conversion, Exact.of.injEq, div_eq_one_iff_eq drops]
  exact eq_comm

section Known

variable {bases : Bases} {base : Base} {generation : Generation} {dx dy : Dimension}
  (frozen : bases.base? generation = some base) (knownX : x.dimensionIn? base = some dx)
  (knownY : y.dimensionIn? base = some dy)

include frozen knownX knownY

theorem restores_quotientIn_productIn (positiveX : x.Positive) (positiveY : y.Positive) :
    ((x.productIn base y).quotientIn base y).Restores bases base x := by
  have sizes : dx.size = dy.size :=
    (size_of_dimensionIn? knownX).trans (size_of_dimensionIn? knownY).symm
  have measured := dimensionIn?_quotientIn (dimensionIn?_productIn knownX knownY) knownY
  rw [Dimension.add_sub_self sizes] at measured
  exact .of_ratio (base?_of_dimensionIn? frozen measured) measured knownX
    ((positiveX.productIn positiveY base).quotientIn positiveY base) positiveX
    (ratio_quotientIn_productIn base x positiveY)

theorem restores_productIn_quotientIn (positiveX : x.Positive) (positiveY : y.Positive) :
    ((x.quotientIn base y).productIn base y).Restores bases base x := by
  have sizes : dx.size = dy.size :=
    (size_of_dimensionIn? knownX).trans (size_of_dimensionIn? knownY).symm
  have measured := dimensionIn?_productIn (dimensionIn?_quotientIn knownX knownY) knownY
  rw [Dimension.sub_add_self sizes] at measured
  exact .of_ratio (base?_of_dimensionIn? frozen measured) measured knownX
    ((positiveX.quotientIn positiveY base).productIn positiveY base) positiveX
    (ratio_productIn_quotientIn base x positiveY)

/-- Products and quotients with known units are formed in the one base. -/
theorem multiply_divide_eq :
    x.multiply bases y = .ok (x.productIn base y) ∧
      (x.productIn base y).divide bases y = .ok ((x.productIn base y).quotientIn base y) ∧
      x.divide bases y = .ok (x.quotientIn base y) ∧
      (x.quotientIn base y).multiply bases y = .ok ((x.quotientIn base y).productIn base y) := by
  have homeX := base?_of_dimensionIn? frozen knownX
  have homeProduct := base?_of_dimensionIn? frozen (dimensionIn?_productIn knownX knownY)
  have homeQuotient := base?_of_dimensionIn? frozen (dimensionIn?_quotientIn knownX knownY)
  simp only [multiply, divide, homeX, homeProduct, homeQuotient, and_self]

end Known

/-- Multiplying by a unit and dividing by it again, in either order, succeeds, gives the dimension
back and leaves no trace of that unit in the factor. It converts into the first unit with factor 1
exactly when the members of the first unit that have no dimension amount to 1. -/
theorem restores_of_multiply_divide (system : QuantitySystem Exact) (bases : Bases) (base : Base)
    (frozen : system.base? bases = some base) (x y : Unit Exact)
    (knownX : (x.dimensionIn? base).isSome = true) (knownY : (y.dimensionIn? base).isSome = true)
    (positiveX : x.Positive) (positiveY : y.Positive) :
    (∃ product restored, x.multiply bases y = .ok product ∧
      product.divide bases y = .ok restored ∧ restored.Restores bases base x) ∧
    ∃ quotient restored, x.divide bases y = .ok quotient ∧
      quotient.multiply bases y = .ok restored ∧ restored.Restores bases base x := by
  obtain ⟨dx, measuredX⟩ := Option.isSome_iff_exists.1 knownX
  obtain ⟨dy, measuredY⟩ := Option.isSome_iff_exists.1 knownY
  obtain ⟨multiplied, overProduct, divided, timesQuotient⟩ :=
    multiply_divide_eq frozen measuredX measuredY
  constructor
  · exact ⟨_, _, multiplied, overProduct,
      restores_quotientIn_productIn frozen measuredX measuredY positiveX positiveY⟩
  · exact ⟨_, _, divided, timesQuotient,
      restores_productIn_quotientIn frozen measuredX measuredY positiveX positiveY⟩

/-- A hundredth, as a unit of pure numbers in the system of lengths. -/
def percent : SimpleUnit Exact :=
  ⟨"percent", "%", [], Quantity.dimensionless, .of (1 / 100), ⟨0⟩, 2⟩

theorem positive_simple {unit : SimpleUnit Exact} {value : ℚ} (shape : unit.factor = .of value)
    (positive : 0 < value) : (Unit.simple unit).Positive := by
  intro member inside
  rw [List.mem_singleton.1 inside, SimpleUnit.ratio, shape]
  exact positive

open Formula Formula.Context

/-- A mile times a percent, over a percent, is a mile. -/
theorem restores_mile_of_percent :
    let context : Context Exact := lengths []
    let mile : Unit Exact := lengthUnit "mile" (.of (201168 / 125))
    ∃ product restored, mile.multiply context.bases (.simple percent) = .ok product ∧
      product.divide context.bases (.simple percent) = .ok restored ∧
      restored.conversionTo context.bases mile = .of 1 := by
  intro context mile
  have positiveMile : mile.Positive := positive_simple rfl (by norm_num)
  have positivePercent : (Unit.simple percent).Positive := positive_simple rfl (by norm_num)
  obtain ⟨⟨product, restored, multiplied, divided, restores⟩, _⟩ :=
    restores_of_multiply_divide context.system context.bases context.system.layout rfl mile
      (.simple percent) rfl rfl positiveMile positivePercent
  have nothing : mile.droppedIn context.system.layout = ⟨[], []⟩ := rfl
  refine ⟨product, restored, multiplied, divided, restores.neutral.2 ?_⟩
  rw [nothing]
  exact div_one 1

/-- A percent times a metre, over a metre, converts into a percent with factor 100: pure numbers are
left out of the product together with their factor. -/
theorem not_restores_percent :
    let context : Context Exact := lengths []
    let metre : Unit Exact := lengthUnit "metre" (.of 1)
    (Unit.simple percent).Positive ∧ metre.Positive ∧
      (Unit.simple percent).dimensionIn? context.system.layout = some ⟨[0]⟩ ∧
      metre.dimensionIn? context.system.layout = some ⟨[1]⟩ ∧
      ∃ product restored, (Unit.simple percent).multiply context.bases metre = .ok product ∧
        product.divide context.bases metre = .ok restored ∧
        restored.conversionTo context.bases (.simple percent) = .of 100 ∧
        restored.conversionTo context.bases (.simple percent) ≠ .of 1 := by
  intro context metre
  have positiveMetre : metre.Positive := positive_simple rfl one_pos
  have positivePercent : (Unit.simple percent).Positive := positive_simple rfl (by norm_num)
  have frozen : context.bases.base? ⟨0⟩ = some context.system.layout := rfl
  have knownPercent : (Unit.simple percent).dimensionIn? context.system.layout = some ⟨[0]⟩ := rfl
  have knownMetre : metre.dimensionIn? context.system.layout = some ⟨[1]⟩ := rfl
  obtain ⟨multiplied, divided, _⟩ := multiply_divide_eq frozen knownPercent knownMetre
  have restores :=
    restores_quotientIn_productIn frozen knownPercent knownMetre positivePercent positiveMetre
  have dropped : (Unit.simple percent).droppedIn context.system.layout = ⟨[percent], []⟩ := rfl
  have lost : ((Unit.simple percent).droppedIn context.system.layout).ratio = 1 / 100 := by
    rw [dropped, Members.ratio_single]
    rfl
  have hundred := restores.conversion
  rw [lost, one_div_one_div] at hundred
  refine ⟨positivePercent, positiveMetre, knownPercent, knownMetre, _, _, multiplied, divided,
    hundred, ?_⟩
  rw [hundred]
  decide +kernel

end Unit

end Dimensional
