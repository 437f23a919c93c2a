import Dimensional.Catalog.Declaration
import Dimensional.Number.Style

/-!
Defects of a declaration: names declared twice, references that lead nowhere, and factors that are
no factors. `Declaration.defect?` gives the first one: unit names come first, then quantities,
units, composite units and variables.
-/

set_option autoImplicit false

namespace Dimensional.Catalog

inductive Defect where
  | duplicateUnit (name : String)
  | duplicateQuantity (name : String)
  | unknownDefaultUnit (quantity unit : String)
  | undeclaredQuantity (unit quantity : String)
  | invalidFactor (unit : String) (factor : Float)
  | unknownMember (composite member : String)
  | duplicateVariable (name : String)
  | unknownVariableUnit (variableName unit : String)

def Defect.message : Defect → String
  | .duplicateUnit name => "unit '" ++ name ++ "' is declared more than once"
  | .duplicateQuantity name => "quantity '" ++ name ++ "' is declared more than once"
  | .unknownDefaultUnit quantity unit =>
    "quantity '" ++ quantity ++ "' names unknown default unit '" ++ unit ++ "'"
  | .undeclaredQuantity unit quantity =>
    "unit '" ++ unit ++ "' measures undeclared quantity '" ++ quantity ++ "'"
  | .invalidFactor unit factor =>
    "unit '" ++ unit ++ "' has invalid factor " ++ NumberStyle.plain.render factor
  | .unknownMember composite member =>
    "composite unit '" ++ composite ++ "' references unknown simple unit '" ++ member ++ "'"
  | .duplicateVariable name => "variable '" ++ name ++ "' is declared more than once"
  | .unknownVariableUnit variableName unit =>
    "variable '" ++ variableName ++ "' uses unknown unit '" ++ unit ++ "'"

/-- The first name that stands in `seen` or further to the front. -/
def repeated? : List String → List String → Option String
  | _, [] => none
  | seen, name :: rest =>
    if seen.contains name then some name else repeated? (name :: seen) rest

/-- A factor is finite and positive. -/
def validFactor (factor : Float) : Bool := factor.isFinite && !decide (factor ≤ 0)

namespace QuantityDeclaration

def defect? (quantity : QuantityDeclaration) (simpleNames : List String) : Option Defect :=
  if simpleNames.contains quantity.defaultUnit then none
  else some (.unknownDefaultUnit quantity.name quantity.defaultUnit)

/-- The first defect of a list, given the names before it. -/
def firstDefect? (simpleNames : List String) :
    List String → List QuantityDeclaration → Option Defect
  | _, [] => none
  | seen, quantity :: rest =>
    if seen.contains quantity.name then some (.duplicateQuantity quantity.name)
    else (quantity.defect? simpleNames).or (firstDefect? simpleNames (quantity.name :: seen) rest)

end QuantityDeclaration

def UnitDeclaration.defect? (unit : UnitDeclaration) (quantityNames : List String) :
    Option Defect :=
  if !quantityNames.contains unit.quantity then some (.undeclaredQuantity unit.name unit.quantity)
  else if !validFactor unit.factor then some (.invalidFactor unit.name unit.factor)
  else none

def CompositeDeclaration.defect? (composite : CompositeDeclaration) (simpleNames : List String) :
    Option Defect :=
  ((composite.dividend ++ composite.divisor).find? fun member => !simpleNames.contains member).map
    (.unknownMember composite.name)

namespace VariableDeclaration

def defect? (declared : VariableDeclaration) (unitNames : List String) : Option Defect :=
  match declared.unit with
  | none => none
  | some unit =>
    if unit = pureUnitName || unitNames.contains unit then none
    else some (.unknownVariableUnit declared.name unit)

/-- The first defect of a list, given the names before it. -/
def firstDefect? (unitNames : List String) :
    List String → List VariableDeclaration → Option Defect
  | _, [] => none
  | seen, declared :: rest =>
    if seen.contains declared.name then some (.duplicateVariable declared.name)
    else (declared.defect? unitNames).or (firstDefect? unitNames (declared.name :: seen) rest)

end VariableDeclaration

namespace Declaration

/-- The first defect; none if names are unique and all references lead somewhere. -/
def defect? (declaration : Declaration) : Option Defect :=
  ((repeated? [] declaration.unitNames).map .duplicateUnit).or <|
  (QuantityDeclaration.firstDefect? declaration.simpleNames [] declaration.quantities).or <|
  (declaration.units.findSome? fun unit => unit.defect? declaration.quantityNames).or <|
  (declaration.composites.findSome? fun unit => unit.defect? declaration.simpleNames).or <|
  VariableDeclaration.firstDefect? declaration.unitNames [] declaration.namedValues

end Declaration

end Dimensional.Catalog
