import Dimensional.Quantity

/-!
What a catalog declares: quantities, units, composite units and variables, and how to log.
-/

set_option autoImplicit false

namespace Dimensional.Catalog

structure LoggingDeclaration where
  level : String
  json : Bool
deriving DecidableEq

def LoggingDeclaration.standard : LoggingDeclaration := ⟨"warn", false⟩

structure QuantityDeclaration where
  name : String
  defaultUnit : String
deriving DecidableEq

structure UnitDeclaration where
  name : String
  symbol : String
  synonyms : List String
  quantity : String
  factor : Float

structure CompositeDeclaration where
  name : String
  symbol : String
  synonyms : List String
  dividend : List String
  divisor : List String
deriving DecidableEq

/-- A variable without a unit is a pure number. -/
structure VariableDeclaration where
  name : String
  value : Float
  unit : Option String

structure Declaration where
  logging : LoggingDeclaration
  quantities : List QuantityDeclaration
  units : List UnitDeclaration
  composites : List CompositeDeclaration
  namedValues : List VariableDeclaration

namespace Declaration

/-- Simple units come before composite ones. -/
def unitNames (declaration : Declaration) : List String :=
  declaration.units.map (·.name) ++ declaration.composites.map (·.name)

def simpleNames (declaration : Declaration) : List String := declaration.units.map (·.name)

def quantityNames (declaration : Declaration) : List String :=
  declaration.quantities.map (·.name)

end Declaration

end Dimensional.Catalog
