import Dimensional.Scalar
import Dimensional.Quantity

/-!
Units of measure. A simple unit measures one quantity; a composite unit is a product of simple units
over another. Every unit belongs to the generation of the quantity system that it was made in.
-/

set_option autoImplicit false

namespace Dimensional

/-- One life of a quantity system, from its creation or a reset to the next reset. -/
structure Generation where
  index : Nat
deriving DecidableEq

/-- `factor` reference units of the quantity make one of this unit. The serial number tells units
apart that were made separately: it is given once. -/
structure SimpleUnit (α : Type) where
  name : String
  symbol : String
  synonyms : List String
  quantity : Quantity
  factor : α
  generation : Generation
  serial : Nat

/-- The members are kept as given: `m*s/s` has three. -/
structure CompositeUnit (α : Type) where
  name : String
  symbol : String
  synonyms : List String
  dividend : List (SimpleUnit α)
  divisor : List (SimpleUnit α)
  generation : Generation

inductive Unit (α : Type) where
  | simple (unit : SimpleUnit α)
  | composite (unit : CompositeUnit α)

namespace SimpleUnit

variable {α : Type}

/-- The symbol, or the name of a unit without one. -/
def label (u : SimpleUnit α) : String := if u.symbol.isEmpty then u.name else u.symbol

/-- A unit equals itself, and any unit of its generation that agrees in name, symbol, quantity and
factor; synonyms do not count. -/
def same [Scalar α] (a b : SimpleUnit α) : Bool :=
  a.serial == b.serial ||
    (a.generation == b.generation && a.name == b.name && a.symbol == b.symbol
      && a.quantity == b.quantity && Scalar.sameNumber a.factor b.factor)

end SimpleUnit

/-- Whether two member lists agree one by one. -/
def sameMembers {α : Type} [Scalar α] : List (SimpleUnit α) → List (SimpleUnit α) → Bool
  | [], [] => true
  | a :: as, b :: bs => a.same b && sameMembers as bs
  | _, _ => false

namespace CompositeUnit

variable {α : Type}

/-- The labels of the numerator joined by `*`, over those of the denominator. -/
def ratioLabel (dividend divisor : List String) : String :=
  let numerator := if dividend.isEmpty then "1" else "*".intercalate dividend
  match divisor with
  | [] => numerator
  | [single] => numerator ++ "/" ++ single
  | several => numerator ++ "/(" ++ "*".intercalate several ++ ")"

/-- A unit that unit arithmetic made, named after its members. -/
def generated (dividend divisor : List (SimpleUnit α)) (generation : Generation) :
    CompositeUnit α where
  name := ratioLabel (dividend.map (·.name)) (divisor.map (·.name))
  symbol := ratioLabel (dividend.map (·.label)) (divisor.map (·.label))
  synonyms := []
  dividend := dividend
  divisor := divisor
  generation := generation

/-- Composite units are compared by generation, name and members. -/
def same [Scalar α] (a b : CompositeUnit α) : Bool :=
  a.generation == b.generation && a.name == b.name
    && sameMembers a.dividend b.dividend && sameMembers a.divisor b.divisor

end CompositeUnit

namespace Unit

variable {α : Type}

def name : Unit α → String
  | simple u => u.name
  | composite u => u.name

def symbol : Unit α → String
  | simple u => u.symbol
  | composite u => u.symbol

def synonyms : Unit α → List String
  | simple u => u.synonyms
  | composite u => u.synonyms

def generation : Unit α → Generation
  | simple u => u.generation
  | composite u => u.generation

/-- The symbol, or the name of a unit without one. -/
def label (u : Unit α) : String := if u.symbol.isEmpty then u.name else u.symbol

def same [Scalar α] : Unit α → Unit α → Bool
  | simple a, simple b => a.same b
  | composite a, composite b => a.same b
  | _, _ => false

end Unit

end Dimensional
