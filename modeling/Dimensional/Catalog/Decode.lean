import Dimensional.Catalog.Declaration
import Dimensional.Settings.Basic
import Dimensional.Number.Style
import Dimensional.Number.Reading

/-!
Declarations as settings. A record is a table, or a list that gives its fields in their order; keys
that are not its own are ignored. Numbers, booleans and texts are taken for each other where their
texts allow it.
-/

set_option autoImplicit false

namespace Dimensional.Settings.Setting

def asText? : Setting → Option String
  | text value => some value
  | flag value => some (if value then "true" else "false")
  | integer value => some (toString value)
  | number value => some (NumberStyle.plain.render value)
  | _ => none

/-- The words for yes and no, in any case; none for any other text. -/
def truthWord? (text : String) : Option Bool :=
  let word := String.ofList (text.toList.map Char.toLower)
  if word = "true" || word = "on" || word = "yes" then some true
  else if word = "false" || word = "off" || word = "no" then some false
  else none

/-- Yes counts one and no zero. -/
def ofTruth (value : Bool) : Float := if value then 1 else 0

/-- An integer rounded to the nearest double. -/
def ofInteger (value : Int) : Float :=
  let magnitude := Decimal.toFloat ⟨value.natAbs, 0⟩
  if value < 0 then -magnitude else magnitude

def asNumber? : Setting → Option Float
  | number value => some value
  | integer value => some (ofInteger value)
  | flag value => some (ofTruth value)
  | text value =>
    match truthWord? value with
    | some truth => some (ofTruth truth)
    | none => Number.read? value.toList
  | _ => none

def asFlag? : Setting → Option Bool
  | flag value => some value
  | integer value => some (value != 0)
  | number value => some (value != 0)
  | text value =>
    if value = "1" then some true else if value = "0" then some false else truthWord? value
  | _ => none

def asList? {β : Type} (item? : Setting → Option β) : Setting → Option (List β)
  | list items => items.mapM item?
  | _ => none

/-- Nothing stands for a value that is not there. -/
def asOptional? {β : Type} (value? : Setting → Option β) : Setting → Option (Option β)
  | nothing => some none
  | setting => (value? setting).map some

/-- A record with the given field names, as a look-up by name. -/
def asRecord? (names : List String) : Setting → Option (String → Option Setting)
  | table fields => some fun name => fields.lookup name
  | list items => some fun name => (names.idxOf? name).bind (items[·]?)
  | _ => none

/-- A field that must be there. -/
def required? {β : Type} (field? : Option Setting) (value? : Setting → Option β) : Option β :=
  field?.bind value?

/-- A field that has a value of its own when it is not there. -/
def optional? {β : Type} (field? : Option Setting) (fallback : β) (value? : Setting → Option β) :
    Option β :=
  match field? with
  | none => some fallback
  | some setting => value? setting

end Dimensional.Settings.Setting

namespace Dimensional.Catalog

open Settings Settings.Setting

def LoggingDeclaration.decode? (setting : Setting) : Option LoggingDeclaration := do
  let field? ← setting.asRecord? ["level", "json"]
  let level ← optional? (field? "level") LoggingDeclaration.standard.level asText?
  let json ← optional? (field? "json") LoggingDeclaration.standard.json asFlag?
  some ⟨level, json⟩

def QuantityDeclaration.decode? (setting : Setting) : Option QuantityDeclaration := do
  let field? ← setting.asRecord? ["name", "default_unit"]
  let name ← required? (field? "name") asText?
  let defaultUnit ← required? (field? "default_unit") asText?
  some ⟨name, defaultUnit⟩

def UnitDeclaration.decode? (setting : Setting) : Option UnitDeclaration := do
  let field? ← setting.asRecord? ["name", "symbol", "synonyms", "quantity", "factor"]
  let name ← required? (field? "name") asText?
  let symbol ← optional? (field? "symbol") "" asText?
  let synonyms ← optional? (field? "synonyms") [] (asList? asText?)
  let quantity ← required? (field? "quantity") asText?
  let factor ← required? (field? "factor") asNumber?
  some ⟨name, symbol, synonyms, quantity, factor⟩

def CompositeDeclaration.decode? (setting : Setting) : Option CompositeDeclaration := do
  let field? ← setting.asRecord? ["name", "symbol", "synonyms", "dividend", "divisor"]
  let name ← required? (field? "name") asText?
  let symbol ← optional? (field? "symbol") "" asText?
  let synonyms ← optional? (field? "synonyms") [] (asList? asText?)
  let dividend ← optional? (field? "dividend") [] (asList? asText?)
  let divisor ← optional? (field? "divisor") [] (asList? asText?)
  some ⟨name, symbol, synonyms, dividend, divisor⟩

def VariableDeclaration.decode? (setting : Setting) : Option VariableDeclaration := do
  let field? ← setting.asRecord? ["name", "value", "unit"]
  let name ← required? (field? "name") asText?
  let value ← required? (field? "value") asNumber?
  let unit ← optional? (field? "unit") none (asOptional? asText?)
  some ⟨name, value, unit⟩

/-- Everything in a catalog may be left out. -/
def Declaration.decode? (setting : Setting) : Option Declaration := do
  let field? ← setting.asRecord? ["logging", "quantities", "units", "composites", "variables"]
  let logging ← optional? (field? "logging") LoggingDeclaration.standard
    LoggingDeclaration.decode?
  let quantities ← optional? (field? "quantities") [] (asList? QuantityDeclaration.decode?)
  let units ← optional? (field? "units") [] (asList? UnitDeclaration.decode?)
  let composites ← optional? (field? "composites") [] (asList? CompositeDeclaration.decode?)
  let namedValues ← optional? (field? "variables") [] (asList? VariableDeclaration.decode?)
  some ⟨logging, quantities, units, composites, namedValues⟩

/-- A list of texts as a setting. -/
def textList (texts : List String) : Setting := .list (texts.map .text)

def LoggingDeclaration.encode (logging : LoggingDeclaration) : Setting :=
  .table [("level", .text logging.level), ("json", .flag logging.json)]

def QuantityDeclaration.encode (quantity : QuantityDeclaration) : Setting :=
  .table [("name", .text quantity.name), ("default_unit", .text quantity.defaultUnit)]

def UnitDeclaration.encode (unit : UnitDeclaration) : Setting :=
  .table
    [("name", .text unit.name), ("symbol", .text unit.symbol),
     ("synonyms", textList unit.synonyms), ("quantity", .text unit.quantity),
     ("factor", .number unit.factor)]

def CompositeDeclaration.encode (composite : CompositeDeclaration) : Setting :=
  .table
    [("name", .text composite.name), ("symbol", .text composite.symbol),
     ("synonyms", textList composite.synonyms), ("dividend", textList composite.dividend),
     ("divisor", textList composite.divisor)]

/-- A missing unit is written as nothing. -/
def VariableDeclaration.encode (declared : VariableDeclaration) : Setting :=
  .table
    [("name", .text declared.name), ("value", .number declared.value),
     ("unit", (declared.unit.map Setting.text).getD .nothing)]

/-- The fields that `Declaration.decode?` reads back. -/
def Declaration.encode (declaration : Declaration) : Fields :=
  [("logging", declaration.logging.encode),
   ("quantities", .list (declaration.quantities.map (·.encode))),
   ("units", .list (declaration.units.map (·.encode))),
   ("composites", .list (declaration.composites.map (·.encode))),
   ("variables", .list (declaration.namedValues.map (·.encode)))]

end Dimensional.Catalog
