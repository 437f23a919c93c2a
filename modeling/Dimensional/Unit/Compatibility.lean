import Dimensional.Base

/-!
When one unit can be converted into another. The dimension of a unit in a base is known when the
unit and all its members are of the base's generation and measure quantities of the base; two units
are compatible when both dimensions are known and their difference is zero.
-/

set_option autoImplicit false

namespace Dimensional

variable {α : Type}

/-- The vector of the quantity that a simple unit measures, in a base of its own generation. -/
def SimpleUnit.dimensionIn? (unit : SimpleUnit α) (base : Base) : Option Dimension :=
  if unit.generation = base.generation then base.dimension? unit.quantity else none

/-- Combines the members' dimensions into `start`, unless one of them is unknown. -/
def foldDimensions (combine : Dimension → Dimension → Dimension) (base : Base) :
    Dimension → List (SimpleUnit α) → Option Dimension
  | start, [] => some start
  | start, member :: rest =>
    match member.dimensionIn? base with
    | none => none
    | some dimension => foldDimensions combine base (combine start dimension) rest

/-- The members above the line count positively, those below it negatively. -/
def CompositeUnit.dimensionIn? (unit : CompositeUnit α) (base : Base) : Option Dimension :=
  if unit.generation = base.generation then
    (foldDimensions (· + ·) base (Dimension.zeros base.rank) unit.dividend).bind
      fun above => foldDimensions (· - ·) base above unit.divisor
  else none

/-- Whether a simple unit contributes no dimension. -/
def SimpleUnit.isDimensionlessIn (unit : SimpleUnit α) (base : Base) : Bool :=
  unit.quantity.isDimensionless || ((unit.dimensionIn? base).any Dimension.isZero)

namespace Unit

def dimensionIn? (base : Base) : Unit α → Option Dimension
  | simple unit => unit.dimensionIn? base
  | composite unit => unit.dimensionIn? base

def isDimensionlessIn (base : Base) : Unit α → Bool
  | simple unit => unit.isDimensionlessIn base
  | composite unit => (unit.dimensionIn? base).any Dimension.isZero

/-- Whether converting `source` into `target` is dimensionally sound. -/
def compatibleIn (base : Base) (source target : Unit α) : Bool :=
  match source.dimensionIn? base, target.dimensionIn? base with
  | some before, some after => (before - after).isZero
  | _, _ => false

end Unit

/-- The product of the factors above the line over the product of those below. -/
def CompositeUnit.factor [Scalar α] (unit : CompositeUnit α) : α :=
  Scalar.product (unit.dividend.map (·.factor)) / Scalar.product (unit.divisor.map (·.factor))

namespace Unit

variable [Scalar α]

/-- How many reference units make one of this unit. -/
def factor : Unit α → α
  | simple unit => unit.factor
  | composite unit => unit.factor

/-- The quotient of the factors, whatever the units measure. -/
def factorRatio (source target : Unit α) : α := source.factor / target.factor

/-- The number that turns a value in `source` into a value in `target`; undefined when the units are
not compatible in the base. -/
def conversionIn (base : Base) (source target : Unit α) : α :=
  if source.compatibleIn base target then source.factorRatio target else Scalar.undefined

/-- The dimension in the unit's own base, once there is one. -/
def dimension? (bases : Bases) (unit : Unit α) : Option Dimension :=
  (bases.base? unit.generation).bind fun base => unit.dimensionIn? base

/-- Before its base is frozen, only a simple unit of pure numbers is known to be dimensionless. -/
def isDimensionless (bases : Bases) (unit : Unit α) : Bool :=
  match bases.base? unit.generation, unit with
  | some base, unit => unit.isDimensionlessIn base
  | none, simple unit => unit.quantity.isDimensionless
  | none, composite _ => false

/-- The conversion judged in the base of `source`. -/
def conversionTo (bases : Bases) (source target : Unit α) : α :=
  match bases.base? source.generation with
  | some base => source.conversionIn base target
  | none => Scalar.undefined

/-- The conversion judged in the base of `target`. -/
def conversionFrom (bases : Bases) (target source : Unit α) : α :=
  match bases.base? target.generation with
  | some base => source.conversionIn base target
  | none => Scalar.undefined

end Unit

end Dimensional
