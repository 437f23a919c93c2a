import Dimensional.Unit.Compatibility
import Dimensional.Unit.Error

/-!
Products and quotients of units. The members of both operands are listed one after the other, never
cancelled; members without a dimension are left out.
-/

set_option autoImplicit false

namespace Dimensional

variable {α : Type}

/-- The members above and below the line. -/
structure Members (α : Type) where
  dividend : List (SimpleUnit α)
  divisor : List (SimpleUnit α)

namespace Members

def append (a b : Members α) : Members α := ⟨a.dividend ++ b.dividend, a.divisor ++ b.divisor⟩

def inverse (a : Members α) : Members α := ⟨a.divisor, a.dividend⟩

/-- The unit that consists of the members. -/
def toUnit (members : Members α) (generation : Generation) : Unit α :=
  .composite (CompositeUnit.generated members.dividend members.divisor generation)

end Members

namespace Unit

/-- The members that have a dimension. -/
def membersIn (base : Base) : Unit α → Members α
  | simple unit => if unit.isDimensionlessIn base then ⟨[], []⟩ else ⟨[unit], []⟩
  | composite unit =>
    let kept := fun member : SimpleUnit α => !member.isDimensionlessIn base
    ⟨unit.dividend.filter kept, unit.divisor.filter kept⟩

/-- The product belongs to the generation of its left operand. -/
def productIn (base : Base) (a b : Unit α) : Unit α :=
  ((a.membersIn base).append (b.membersIn base)).toUnit a.generation

/-- The right operand's members change sides. -/
def quotientIn (base : Base) (a b : Unit α) : Unit α :=
  ((a.membersIn base).append (b.membersIn base).inverse).toUnit a.generation

/-- The product in the left operand's own base. -/
def multiply (bases : Bases) (a b : Unit α) : Except UnitError (Unit α) :=
  match bases.base? a.generation with
  | some base => .ok (a.productIn base b)
  | none => .error .notInitialized

/-- The quotient in the left operand's own base. -/
def divide (bases : Bases) (a b : Unit α) : Except UnitError (Unit α) :=
  match bases.base? a.generation with
  | some base => .ok (a.quotientIn base b)
  | none => .error .notInitialized

end Unit

end Dimensional
