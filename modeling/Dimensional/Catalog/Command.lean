import Dimensional.Catalog.Build
import Dimensional.Formula.Engine
import Dimensional.Json

/-!
Commands on a catalog and the text that each one writes.
-/

set_option autoImplicit false

namespace Dimensional.Catalog

inductive Command where
  | eval (expression : String) (target : Option String) (json : Bool)
  | listUnits (json : Bool)
  | convert (source target : String)
  | listVariables

inductive CommandError where
  | engine (error : UnitError)
  | unknownUnit (name : String)
  | evaluation (expression : String) (error : Formula.FormulaError)
  | conversion (expression target : String) (error : Formula.FormulaError)
  | incompatible (source target : String)

/-- Each error stands before its cause. -/
def CommandError.message : CommandError → String
  | .engine error => error.message
  | .unknownUnit name => "unknown unit '" ++ name ++ "'"
  | .evaluation expression error =>
    "Failed to evaluate '" ++ expression ++ "': " ++ error.message
  | .conversion expression target error =>
    "Failed to express '" ++ expression ++ "' in '" ++ target ++ "': " ++ error.message
  | .incompatible source target =>
    "units '" ++ source ++ "' and '" ++ target ++ "' are incompatible"

/-- A dimension as a list of integers, null if it is unknown. -/
def dimensionJson (dimension : Option Dimension) : Json :=
  Json.ofOption (fun d => .array (d.exponents.map .integer)) dimension

/-- The unit of a name, or the error that there is none. -/
def requireUnit (catalog : Catalog) (name : String) : Except CommandError (Unit Float) :=
  match catalog.unit? name with
  | some unit => .ok unit
  | none => .error (.unknownUnit name)

/-- The number and the unit that an expression comes to. -/
def evaluated (catalog : Catalog) (expression : String) (target : Option String) :
    Except CommandError (Float × Unit Float) := do
  let engine ← (Formula.Engine.create catalog.bases catalog.system Formula.Engine.defaultCapacity
    Formula.Options.standard).mapError CommandError.engine
  match target with
  | some name =>
    let unit ← catalog.requireUnit name
    let number ← (engine.evaluateAs catalog.bases expression catalog.environment unit).1.mapError
      (CommandError.conversion expression name)
    .ok (number, unit)
  | none =>
    let value ← (engine.evaluate catalog.bases expression catalog.environment).1.mapError
      (CommandError.evaluation expression)
    .ok (value.number, value.unit)

def evalJson (catalog : Catalog) (expression : String) (number : Float) (unit : Unit Float) :
    Json :=
  .object
    [("expression", .text expression), ("value", .number number), ("unit", .text unit.name),
     ("symbol", .text unit.symbol), ("dimension", dimensionJson (unit.dimension? catalog.bases))]

def evalText (catalog : Catalog) (expression : String) (target : Option String) (json : Bool) :
    Except CommandError String := do
  let (number, unit) ← catalog.evaluated expression target
  if json then .ok ((catalog.evalJson expression number unit).pretty 0 ++ "\n")
  else .ok (NumberStyle.plain.render number ++ " " ++ unit.label ++ "\n")

/-- The quantity of a simple unit. -/
def quantityName? : Unit Float → Option String
  | .simple unit => some unit.quantity.name
  | .composite _ => none

def unitJson (catalog : Catalog) (unit : Unit Float) : Json :=
  .object
    [("name", .text unit.name), ("symbol", .text unit.symbol),
     ("synonyms", .array (unit.synonyms.map .text)),
     ("quantity", Json.ofOption .text (quantityName? unit)), ("factor", .number unit.factor),
     ("dimension", dimensionJson (unit.dimension? catalog.bases))]

/-- Fills a text up to `width` characters with blanks after it. -/
def padRight (width : Nat) (text : String) : String :=
  text ++ String.ofList (List.replicate (width - text.length) ' ')

/-- Fills a text up to `width` characters with blanks before it. -/
def padLeft (width : Nat) (text : String) : String :=
  String.ofList (List.replicate (width - text.length) ' ') ++ text

def unitRow (catalog : Catalog) (width : Nat) (unit : Unit Float) : String :=
  let quantity := (quantityName? unit).getD "composite"
  let dimension := ((unit.dimension? catalog.bases).map (·.text)).getD "?"
  padRight width unit.name ++ "  " ++ padRight 8 unit.symbol ++ "  " ++ padRight 10 quantity
    ++ "  " ++ padLeft 12 (NumberStyle.scientific.render unit.factor) ++ "  " ++ dimension ++ "\n"

/-- The width of the first column is measured in bytes, its filling in characters. -/
def unitsText (catalog : Catalog) (json : Bool) : String :=
  if json then (Json.array (catalog.units.map catalog.unitJson)).pretty 0 ++ "\n"
  else
    let width := (catalog.units.map (·.name.utf8ByteSize)).foldl max 0
    String.join (catalog.units.map (catalog.unitRow width))

def convertText (catalog : Catalog) (source target : String) : Except CommandError String := do
  let sourceUnit ← catalog.requireUnit source
  let targetUnit ← catalog.requireUnit target
  let factor := sourceUnit.conversionTo catalog.bases targetUnit
  if Scalar.isUndefined factor then .error (.incompatible source target)
  else .ok ("1 " ++ sourceUnit.name ++ " = " ++ NumberStyle.plain.render factor ++ " "
    ++ targetUnit.name ++ "\n")

/-- Variables are listed by name, in the order of code points. -/
def variablesText (catalog : Catalog) : String :=
  let sorted := catalog.environment.bindings.mergeSort fun a b => !decide (b.1 < a.1)
  String.join (sorted.map fun entry => entry.1 ++ " = " ++ entry.2.text ++ "\n")

/-- What a command writes. -/
def run (catalog : Catalog) : Command → Except CommandError String
  | .eval expression target json => catalog.evalText expression target json
  | .listUnits json => .ok (catalog.unitsText json)
  | .convert source target => catalog.convertText source target
  | .listVariables => .ok catalog.variablesText

end Dimensional.Catalog
