import Dimensional.Catalog.Defect
import Dimensional.Formula.Value
import Dimensional.System

/-!
Catalogs: a frozen quantity system with named units and variables, made from a declaration.
-/

set_option autoImplicit false

namespace Dimensional

structure Catalog where
  bases : Bases
  system : QuantitySystem Float
  /-- In the order of declaration, simple units first. -/
  units : List (Unit Float)
  environment : Formula.Environment Float

namespace Catalog

inductive BuildError where
  | invalid (defect : Defect)
  | unknownDefaultUnit (name : String)
  | registration (quantity : String) (error : UnitError)
  | freezing (error : UnitError)
  | unknownSimpleUnit (name : String)
  | unknownUnit (name : String)

/-- Each error stands before its cause. -/
def BuildError.message : BuildError → String
  | .invalid defect => "Invalid catalog: " ++ defect.message
  | .unknownDefaultUnit name => "unknown default unit '" ++ name ++ "'"
  | .registration quantity error =>
    "Failed to register quantity '" ++ quantity ++ "': " ++ error.message
  | .freezing error => "Failed to initialize quantity system: " ++ error.message
  | .unknownSimpleUnit name => "unknown simple unit '" ++ name ++ "'"
  | .unknownUnit name => "unknown unit '" ++ name ++ "'"

/-- Looks a unit up by its exact name. The unit of pure numbers is always known. -/
def unitNamed? (system : QuantitySystem Float) (units : List (Unit Float)) (name : String) :
    Option (Unit Float) :=
  match units.find? fun unit => unit.name == name with
  | some unit => some unit
  | none => if name = pureUnitName then some (.simple system.pureUnit) else none

def unit? (catalog : Catalog) (name : String) : Option (Unit Float) :=
  unitNamed? catalog.system catalog.units name

/-- The simple units of a declaration, with serial numbers from `serial` on. -/
def simpleUnits (generation : Generation) :
    Nat → List UnitDeclaration → List (SimpleUnit Float)
  | _, [] => []
  | serial, unit :: rest =>
    { name := unit.name, symbol := unit.symbol, synonyms := unit.synonyms,
      quantity := ⟨unit.quantity⟩, factor := unit.factor, generation := generation,
      serial := serial } :: simpleUnits generation (serial + 1) rest

/-- Registers the quantities one after the other. -/
def registerAll (bases : Bases) (simple : List (SimpleUnit Float)) :
    QuantitySystem Float → List QuantityDeclaration → Except BuildError (QuantitySystem Float)
  | system, [] => .ok system
  | system, quantity :: rest =>
    match simple.find? fun unit => unit.name == quantity.defaultUnit with
    | none => .error (.unknownDefaultUnit quantity.defaultUnit)
    | some unit =>
      match system.add bases ⟨quantity.name⟩ unit with
      | .error error => .error (.registration quantity.name error)
      | .ok system => registerAll bases simple system rest

/-- The simple units that a list of names refers to. -/
def members (simple : List (SimpleUnit Float)) :
    List String → Except BuildError (List (SimpleUnit Float))
  | [] => .ok []
  | name :: rest =>
    match simple.find? fun unit => unit.name == name with
    | none => .error (.unknownSimpleUnit name)
    | some unit => (members simple rest).map (unit :: ·)

def compositeUnits (generation : Generation) (simple : List (SimpleUnit Float)) :
    List CompositeDeclaration → Except BuildError (List (CompositeUnit Float))
  | [] => .ok []
  | composite :: rest => do
    let dividend ← members simple composite.dividend
    let divisor ← members simple composite.divisor
    let others ← compositeUnits generation simple rest
    .ok ({ name := composite.name, symbol := composite.symbol, synonyms := composite.synonyms,
           dividend := dividend, divisor := divisor, generation := generation } :: others)

/-- Binds the variables one after the other. -/
def bindAll (system : QuantitySystem Float) (units : List (Unit Float)) :
    Formula.Environment Float → List VariableDeclaration →
      Except BuildError (Formula.Environment Float)
  | environment, [] => .ok environment
  | environment, declared :: rest =>
    let name := declared.unit.getD pureUnitName
    let unit? := match declared.unit with
      | some name => unitNamed? system units name
      | none => some (.simple system.pureUnit)
    match unit? with
    | none => .error (.unknownUnit name)
    | some unit =>
      bindAll system units
        (environment.insert declared.name (Formula.Value.of declared.value unit)) rest

/-- The catalog that a declaration without defects describes. -/
def build (declaration : Declaration) : Except BuildError Catalog :=
  match declaration.defect? with
  | some defect => .error (.invalid defect)
  | none => do
    let bases := Bases.empty.issue
    let generation : Generation := ⟨0⟩
    let simple := simpleUnits generation 1 declaration.units
    let system ← registerAll bases simple (QuantitySystem.create generation 0)
      declaration.quantities
    let bases ← (system.freeze bases).mapError BuildError.freezing
    let composites ← compositeUnits generation simple declaration.composites
    let units := simple.map Unit.simple ++ composites.map Unit.composite
    let environment ← bindAll system units Formula.Environment.empty declaration.namedValues
    .ok ⟨bases, system, units, environment⟩

end Catalog

end Dimensional
