import Dimensional.Catalog.Command
import Dimensional.Catalog.Emissions
import Dimensional.Proofs.Building
import Dimensional.Proofs.DimensionCheck
import Dimensional.Proofs.NetCount
import Dimensional.Proofs.ParseCache

/-!
What a built catalog offers. Its system is frozen, its units and values are those of the
declaration, each under its name, and the base of the system knows all of them. So every unit is
listed with a dimension, and no formula runs into an error about the system of a unit.
-/

set_option autoImplicit false

namespace Dimensional

theorem Unit.dimension?_of_native {α : Type} {bases : Bases} {base : Base} {unit : Unit α}
    (frozen : bases.base? base.generation = some base)
    (native : unit.generation = base.generation) :
    unit.dimension? bases = unit.dimensionIn? base := by
  rw [Unit.dimension?, native, frozen]
  rfl

namespace Formula

/-- The unit error behind an error, if there is one. -/
def EvalError.unitError? : EvalError → Option UnitError
  | .units error => some error
  | _ => none

def FormulaError.unitError? : FormulaError → Option UnitError
  | .eval error => error.unitError?
  | .units error => some error
  | _ => none

theorem Environment.find?_eq_some_iff {α : Type} {environment : Environment α}
    (distinct : (environment.bindings.map (·.1)).Nodup) (name : String) (value : Value α) :
    environment.find? name = some value ↔ (name, value) ∈ environment.bindings := by
  constructor
  · exact Environment.mem_of_find?
  · intro inside
    obtain ⟨before, after, shape⟩ := List.append_of_mem inside
    refine List.lookup_eq_some_iff.2 ⟨before, after, shape, ?_⟩
    intro entry earlier
    rw [shape, List.map_append, List.nodup_append] at distinct
    have apart := distinct.2.2 entry.1 (List.mem_map_of_mem earlier) name List.mem_cons_self
    simpa using Ne.symm apart

namespace Context

variable {α : Type} [Scalar α] {context : Context α} {base : Base}

/-- The value has a known dimension; the error is no unit error. -/
def Known (base : Base) : Except EvalError (Value α) → Prop
  | .ok value => (value.unit.dimensionIn? base).isSome = true
  | .error error => error.unitError? = none

theorem known_apply (frozen : context.system.base? context.bases = some base)
    (operator : Operator) {left right : Value α}
    (knownLeft : (left.unit.dimensionIn? base).isSome = true)
    (knownRight : (right.unit.dimensionIn? base).isSome = true) :
    Known base (context.apply operator left right) := by
  obtain ⟨l, measuredLeft⟩ := Option.isSome_iff_exists.1 knownLeft
  obtain ⟨r, measuredRight⟩ := Option.isSome_iff_exists.1 knownRight
  have home := base?_of_known frozen measuredLeft
  cases operator with
  | add =>
    rw [apply, combine]
    split
    · rfl
    · exact knownRight
  | subtract =>
    rw [apply, combine]
    split
    · rfl
    · exact knownRight
  | multiply =>
    rw [apply, Unit.multiply, home]
    exact Option.isSome_iff_exists.2 ⟨_, Unit.dimensionIn?_productIn measuredLeft measuredRight⟩
  | divide =>
    rw [apply, Unit.divide, home]
    exact Option.isSome_iff_exists.2 ⟨_, Unit.dimensionIn?_quotientIn measuredLeft measuredRight⟩
  | power =>
    rw [apply]
    split
    · exact knownLeft
    · rfl
  | modulo => rfl

/-- Values of known dimension lead to values of known dimension. -/
theorem known_evaluateAt (frozen : context.system.base? context.bases = some base)
    (known : context.environment.KnownIn base) (expr : Expr α) (depth : Nat) :
    Known base (context.evaluateAt depth expr) := by
  induction expr generalizing depth with
  | number value =>
    rw [evaluateAt]
    split
    · rfl
    · exact Option.isSome_iff_exists.2 ⟨_, dimensionIn?_pureUnit frozen⟩
  | identifier name =>
    rw [evaluateAt]
    split
    · rfl
    · cases found : context.environment.find? name with
      | none => rfl
      | some value => exact known name value found
  | negate operand ih =>
    rw [evaluateAt]
    split
    · rfl
    · have inner := ih (depth + 1)
      cases computed : context.evaluateAt (depth + 1) operand with
      | error error =>
        rw [computed] at inner
        exact inner
      | ok value =>
        rw [computed] at inner
        exact inner
  | binary left operator right ihLeft ihRight =>
    rw [evaluateAt]
    split
    · rfl
    · have onLeft := ihLeft (depth + 1)
      have onRight := ihRight (depth + 1)
      cases computedLeft : context.evaluateAt (depth + 1) left with
      | error error =>
        rw [computedLeft] at onLeft
        exact onLeft
      | ok leftValue =>
        cases computedRight : context.evaluateAt (depth + 1) right with
        | error error =>
          rw [computedRight] at onRight
          exact onRight
        | ok rightValue =>
          rw [computedLeft] at onLeft
          rw [computedRight] at onRight
          exact known_apply frozen operator onLeft onRight
  | invalid text =>
    rw [evaluateAt]
    split <;> rfl

end Context

section Known

variable {context : Context Float} {base : Base}

theorem unitError?_of_parse {text : String} {error : FormulaError}
    (failed : parse text = .error error) : error.unitError? = none := by
  unfold parse at failed
  split at failed
  · cases failed
  · cases failed
    rfl

theorem evaluate_cases (frozen : context.system.base? context.bases = some base)
    (known : context.environment.KnownIn base) (formula : Formula) :
    (∃ value, formula.evaluate context = .ok value ∧
      (value.unit.dimensionIn? base).isSome = true) ∨
    ∃ error, formula.evaluate context = .error error ∧ error.unitError? = none := by
  have outcome := Context.known_evaluateAt frozen known formula.expr 1
  rw [Formula.evaluate, evaluateExpr, Context.evaluate_eq frozen]
  cases computed : context.evaluateAt 1 formula.expr with
  | ok value =>
    rw [computed] at outcome
    exact Or.inl ⟨value, rfl, outcome⟩
  | error cause =>
    rw [computed] at outcome
    exact Or.inr ⟨.eval cause, rfl, outcome⟩

theorem known_of_evaluate (frozen : context.system.base? context.bases = some base)
    (known : context.environment.KnownIn base) {text : String} {value : Value Float}
    (computed : ((parse text).bind fun parsed => parsed.evaluate context) = .ok value) :
    (value.unit.dimensionIn? base).isSome = true := by
  obtain ⟨formula, _, returned⟩ := Except.bind_ok computed
  rcases evaluate_cases frozen known formula with ⟨other, found, measured⟩ | ⟨_, stopped, _⟩
  · cases found.symm.trans returned
    exact measured
  · cases stopped.symm.trans returned

/-- Evaluating a text over values of known dimension meets no unit error. -/
theorem unitError?_of_evaluate (frozen : context.system.base? context.bases = some base)
    (known : context.environment.KnownIn base) {text : String} {error : FormulaError}
    (failed : ((parse text).bind fun parsed => parsed.evaluate context) = .error error) :
    error.unitError? = none := by
  rcases Except.bind_error failed with unparsed | ⟨formula, _, stopped⟩
  · exact unitError?_of_parse unparsed
  rcases evaluate_cases frozen known formula with ⟨_, found, _⟩ | ⟨cause, met, harmless⟩
  · cases found.symm.trans stopped
  · cases met.symm.trans stopped
    exact harmless

theorem unitError?_of_evaluateAs (frozen : context.system.base? context.bases = some base)
    (known : context.environment.KnownIn base) {text : String} {target : Unit Float}
    {error : FormulaError}
    (failed : ((parse text).bind fun parsed => parsed.evaluateAs context target) = .error error) :
    error.unitError? = none := by
  rcases Except.bind_error failed with unparsed | ⟨formula, _, stopped⟩
  · exact unitError?_of_parse unparsed
  rw [Formula.evaluateAs] at stopped
  rcases evaluate_cases frozen known formula with ⟨value, found, _⟩ | ⟨cause, met, harmless⟩
  · rw [found] at stopped
    simp only [expressIn] at stopped
    split at stopped
    · cases stopped
      rfl
    · cases stopped
  · rw [met] at stopped
    cases stopped
    exact harmless

end Known

end Formula

namespace Catalog

/-- The unit error behind an error, if there is one. -/
def CommandError.unitError? : CommandError → Option UnitError
  | .engine error => some error
  | .evaluation _ error => error.unitError?
  | .conversion _ _ error => error.unitError?
  | _ => none

/-- What formulas of the catalog are evaluated in. -/
def context (catalog : Catalog) : Formula.Context Float :=
  ⟨catalog.bases, catalog.system, catalog.environment, Formula.Options.standard⟩

/-- The engine of a frozen catalog does not show. -/
theorem evaluated_eq {catalog : Catalog} {base : Base}
    (frozen : catalog.system.base? catalog.bases = some base) (expression : String)
    (target : Option String) :
    catalog.evaluated expression target =
      match target with
      | some name =>
        (catalog.requireUnit name).bind fun unit =>
          (((Formula.parse expression).bind fun parsed =>
            parsed.evaluateAs catalog.context unit).mapError
              (CommandError.conversion expression name)).bind fun number => .ok (number, unit)
      | none =>
        (((Formula.parse expression).bind fun parsed =>
          parsed.evaluate catalog.context).mapError
            (CommandError.evaluation expression)).bind fun value =>
              .ok (value.number, value.unit) := by
  have present : catalog.system.base catalog.bases = .ok base := by
    rw [QuantitySystem.base, frozen]
  cases created : Formula.Engine.create catalog.bases catalog.system
      Formula.Engine.defaultCapacity Formula.Options.standard with
  | error error =>
    rw [Formula.Engine.create, Formula.CachedEngine.create, present] at created
    cases created
  | ok engine =>
    obtain ⟨sound, system, options⟩ := Formula.CachedEngine.sound_of_create created
    have same : engine.context catalog.bases catalog.environment = catalog.context := by
      rw [Formula.CachedEngine.context, system, options]
      rfl
    rw [evaluated, created]
    cases target with
    | some name =>
      change (catalog.requireUnit name).bind (fun unit =>
        ((engine.evaluateAs catalog.bases expression catalog.environment unit).1.mapError
          _).bind _) = _
      simp only [(Formula.CachedEngine.evaluateAs_spec sound _ _ _ _).1, same]
    | none =>
      change ((engine.evaluate catalog.bases expression catalog.environment).1.mapError
        _).bind _ = _
      rw [(Formula.CachedEngine.evaluate_spec sound _ _ _).1, same]

/-- The simple unit of a name. -/
def simpleUnit? (catalog : Catalog) (name : String) : Option (SimpleUnit Float) :=
  match catalog.unit? name with
  | some (.simple unit) => some unit
  | _ => none

/-- The catalog offers what is declared: the units in the order of their declaration and under their
names, the variables with their values, and a frozen base that knows all units. -/
structure Realizes (declaration : Declaration) (catalog : Catalog) (base : Base) : Prop where
  frozen : catalog.system.base catalog.bases = .ok base
  quantities : ∀ quantity, quantity ∈ base.quantities ↔
    quantity = Quantity.dimensionless ∨ quantity.name ∈ declaration.quantityNames
  listed : ∃ simple composites, List.Forall₂ UnitDeclaration.Describes declaration.units simple ∧
    List.Forall₂ (CompositeDeclaration.Describes catalog.simpleUnit?) declaration.composites
      composites ∧
    catalog.units = simple.map Unit.simple ++ composites.map Unit.composite
  distinct : (catalog.units.map (·.name)).Nodup
  simple : ∀ declared ∈ declaration.units, ∃ unit,
    catalog.unit? declared.name = some (.simple unit) ∧ declared.Describes unit
  composite : ∀ declared ∈ declaration.composites, ∃ unit,
    catalog.unit? declared.name = some (.composite unit) ∧
      declared.Describes catalog.simpleUnit? unit
  other : ∀ name, name ∉ declaration.unitNames → catalog.unit? name =
    if name = pureUnitName then some (.simple catalog.system.pureUnit) else none
  bindings : List.Forall₂ (VariableDeclaration.Binds catalog.system.pureUnit catalog.unit?)
    declaration.namedValues catalog.environment.bindings
  values : ∀ name value, catalog.environment.find? name = some value ↔
    ∃ declared ∈ declaration.namedValues,
      declared.Binds catalog.system.pureUnit catalog.unit? (name, value)
  units : ∀ unit ∈ catalog.units, (unit.dimensionIn? base).isSome = true
  valueUnits : catalog.environment.KnownIn base

theorem CompositeDeclaration.Describes.of_named
    {named? others? : String → Option (SimpleUnit Float)}
    {declared : CompositeDeclaration} {unit : CompositeUnit Float}
    (described : declared.Describes named? unit)
    (known : ∀ name member, named? name = some member → others? name = some member) :
    declared.Describes others? unit :=
  { described with
    dividend := described.dividend.imp known
    divisor := described.divisor.imp known }

theorem VariableDeclaration.Binds.name {pureUnit : SimpleUnit Float}
    {named? : String → Option (Unit Float)} {declared : VariableDeclaration}
    {entry : String × Formula.Value Float} (bound : declared.Binds pureUnit named? entry) :
    entry.1 = declared.name := by
  obtain ⟨_, _, rfl⟩ := bound
  rfl

/-- A variable is bound to one value. -/
theorem VariableDeclaration.Binds.unique {pureUnit : SimpleUnit Float}
    {named? : String → Option (Unit Float)} {declared : VariableDeclaration}
    {entry other : String × Formula.Value Float} (bound : declared.Binds pureUnit named? entry)
    (bound' : declared.Binds pureUnit named? other) : entry = other := by
  obtain ⟨unit, found, rfl⟩ := bound
  obtain ⟨unit', found', rfl⟩ := bound'
  rw [found] at found'
  cases found'
  rfl

theorem names_of_binds {pureUnit : SimpleUnit Float} {named? : String → Option (Unit Float)}
    {declared : List VariableDeclaration} {entries : List (String × Formula.Value Float)}
    (bound : List.Forall₂ (VariableDeclaration.Binds pureUnit named?) declared entries) :
    entries.map (·.1) = declared.map (·.name) := by
  induction bound with
  | nil => rfl
  | cons first _ ih => rw [List.map_cons, List.map_cons, first.name, ih]

/-- What holds of the listed units and of the unit of pure numbers holds of every unit that a name
refers to. -/
theorem unit_of_unit? {catalog : Catalog} {holds : Unit Float → Prop}
    (listed : ∀ unit ∈ catalog.units, holds unit) (pure : holds (.simple catalog.system.pureUnit))
    {name : String} {unit : Unit Float}
    (found : catalog.unit? name = some unit) : holds unit := by
  unfold unit? unitNamed? at found
  split at found
  · next present =>
    cases found
    exact listed unit (List.mem_of_find?_eq_some present)
  · split at found
    · cases found
      exact pure
    · cases found

namespace BuiltFrom

variable {declaration : Declaration} {composites : List (CompositeUnit Float)} {catalog : Catalog}

theorem generation (built : BuiltFrom declaration composites catalog) :
    catalog.system.generation = ⟨0⟩ := built.registers.generation

theorem frozen (built : BuiltFrom declaration composites catalog) :
    catalog.system.base? catalog.bases = some catalog.system.layout := by
  have issued : catalog.system.layout.generation.index < Bases.empty.issue.issued.length := by
    change catalog.system.generation.index < 1
    rw [built.generation]
    exact Nat.one_pos
  rw [QuantitySystem.base?, built.bases]
  exact Bases.base?_freeze_self _ catalog.system.layout issued

theorem names (built : BuiltFrom declaration composites catalog) :
    catalog.units.map (·.name) = declaration.unitNames := by
  rw [built.units]
  exact names_of_units built.described

/-- The base lists pure numbers and the declared quantities. -/
theorem mem_quantities (built : BuiltFrom declaration composites catalog) (quantity : Quantity) :
    quantity ∈ catalog.system.layout.quantities ↔
      quantity = Quantity.dimensionless ∨ quantity.name ∈ declaration.quantityNames := by
  have listed := built.registers.quantities quantity
  have first : quantity ∈ (QuantitySystem.create ⟨0⟩ 0 : QuantitySystem Float).registry.quantities ↔
      quantity = Quantity.dimensionless := List.mem_singleton
  rw [first] at listed
  rw [Base.quantities, QuantitySystem.layout, Registry.quantities_map]
  exact listed

theorem unit?_of_mem (built : BuiltFrom declaration composites catalog) (valid : declaration.Valid)
    {unit : Unit Float} (inside : unit ∈ catalog.units) : catalog.unit? unit.name = some unit := by
  have distinct : (catalog.units.map (·.name)).Nodup := built.names ▸ valid.unitNames
  have found := (find?_name_eq_some_iff Unit.name distinct unit.name unit).2 ⟨inside, rfl⟩
  rw [unit?, unitNamed?, found]

theorem unit?_of_simpleNamed? (built : BuiltFrom declaration composites catalog)
    (valid : declaration.Valid) {name : String} {unit : SimpleUnit Float}
    (found : simpleNamed? declaration.simple name = some unit) :
    catalog.unit? name = some (.simple unit) := by
  have inside : Unit.simple unit ∈ catalog.units := by
    rw [built.units]
    exact List.mem_append_left _ (List.mem_map_of_mem (List.mem_of_find?_eq_some found))
  have named : unit.name = name := by simpa using List.find?_some found
  exact named ▸ built.unit?_of_mem valid inside

theorem simpleUnit?_of_simpleNamed? (built : BuiltFrom declaration composites catalog)
    (valid : declaration.Valid) {name : String} {unit : SimpleUnit Float}
    (found : simpleNamed? declaration.simple name = some unit) :
    catalog.simpleUnit? name = some unit := by
  rw [simpleUnit?, built.unit?_of_simpleNamed? valid found]

theorem simpleBelongsTo (built : BuiltFrom declaration composites catalog)
    (valid : declaration.Valid) {unit : SimpleUnit Float} (inside : unit ∈ declaration.simple) :
    unit.BelongsTo catalog.system.layout := by
  obtain ⟨declared, place, described⟩ :=
    exists_of_forall₂ (simpleUnits_describe 1 declaration.units).flip inside
  refine ⟨described.generation.trans built.generation.symm, (built.mem_quantities _).2 ?_⟩
  rw [described.quantity]
  exact Or.inr (valid.measured declared place)

theorem pureBelongsTo (built : BuiltFrom declaration composites catalog) :
    (Unit.simple catalog.system.pureUnit).BelongsTo catalog.system.layout := by
  refine ⟨rfl, ?_⟩
  intro member inside
  rw [List.mem_singleton.1 inside]
  exact ⟨rfl, (built.mem_quantities _).2 (Or.inl rfl)⟩

theorem generation_of_mem (built : BuiltFrom declaration composites catalog) {unit : Unit Float}
    (inside : unit ∈ catalog.units) : unit.generation = ⟨0⟩ := by
  rw [built.units, List.mem_append, List.mem_map, List.mem_map] at inside
  rcases inside with ⟨unit, place, rfl⟩ | ⟨unit, place, rfl⟩
  · obtain ⟨_, _, described⟩ :=
      exists_of_forall₂ (simpleUnits_describe 1 declaration.units).flip place
    exact described.generation
  · obtain ⟨_, _, described⟩ := exists_of_forall₂ built.described.flip place
    exact described.generation

/-- What holds of the declared simple units holds of all members of the listed units. -/
theorem all_members (built : BuiltFrom declaration composites catalog)
    {holds : SimpleUnit Float → Prop} (declared : ∀ unit ∈ declaration.simple, holds unit)
    {unit : Unit Float} (inside : unit ∈ catalog.units) : unit.allMembers.All holds := by
  have named : ∀ {names : List String} {units : List (SimpleUnit Float)},
      List.Forall₂ (fun name unit => simpleNamed? declaration.simple name = some unit) names units →
        ∀ unit ∈ units, holds unit := by
    intro names units found unit inside
    obtain ⟨name, _, named⟩ := exists_of_forall₂ found.flip inside
    exact declared unit (List.mem_of_find?_eq_some named)
  rw [built.units, List.mem_append, List.mem_map, List.mem_map] at inside
  rcases inside with ⟨unit, place, rfl⟩ | ⟨unit, place, rfl⟩
  · intro member single
    rw [List.mem_singleton.1 single]
    exact declared unit place
  · obtain ⟨_, _, described⟩ := exists_of_forall₂ built.described.flip place
    exact List.forall_mem_append.2 ⟨named described.dividend, named described.divisor⟩

/-- The base knows every listed unit. -/
theorem belongsTo (built : BuiltFrom declaration composites catalog) (valid : declaration.Valid)
    {unit : Unit Float} (inside : unit ∈ catalog.units) :
    unit.BelongsTo catalog.system.layout :=
  ⟨(built.generation_of_mem inside).trans built.generation.symm,
    built.all_members (fun _ place => built.simpleBelongsTo valid place) inside⟩

theorem bindings_names (built : BuiltFrom declaration composites catalog)
    (valid : declaration.Valid) : (catalog.environment.bindings.map (·.1)).Nodup := by
  rw [names_of_binds built.bindings]
  exact valid.valueNames

theorem find?_eq_some_iff (built : BuiltFrom declaration composites catalog)
    (valid : declaration.Valid) (name : String) (value : Formula.Value Float) :
    catalog.environment.find? name = some value ↔
      ∃ declared ∈ declaration.namedValues,
        declared.Binds catalog.system.pureUnit catalog.unit? (name, value) := by
  rw [Formula.Environment.find?_eq_some_iff (built.bindings_names valid)]
  constructor
  · intro inside
    exact exists_of_forall₂ built.bindings.flip inside
  · rintro ⟨declared, inside, bound⟩
    obtain ⟨entry, place, bound'⟩ := exists_of_forall₂ built.bindings inside
    rwa [bound.unique bound']

/-- What holds of the listed units and of the pure unit holds of the units of all values. -/
theorem unit_of_find? (built : BuiltFrom declaration composites catalog)
    (valid : declaration.Valid) {holds : Unit Float → Prop}
    (listed : ∀ unit ∈ catalog.units, holds unit) (pure : holds (.simple catalog.system.pureUnit))
    {name : String} {value : Formula.Value Float}
    (found : catalog.environment.find? name = some value) : holds value.unit := by
  obtain ⟨declared, _, unit, meant, same⟩ := (built.find?_eq_some_iff valid name value).1 found
  cases same
  rw [VariableDeclaration.unit?] at meant
  split at meant
  · cases meant
    exact pure
  · exact unit_of_unit? listed pure meant

theorem realizes (built : BuiltFrom declaration composites catalog) (valid : declaration.Valid) :
    catalog.Realizes declaration catalog.system.layout where
  frozen := by rw [QuantitySystem.base, built.frozen]
  quantities := built.mem_quantities
  listed := by
    refine ⟨declaration.simple, composites, simpleUnits_describe 1 declaration.units, ?_,
      built.units⟩
    exact built.described.imp fun _ _ described =>
      described.of_named fun _ _ => built.simpleUnit?_of_simpleNamed? valid
  distinct := by
    rw [built.names]
    exact valid.unitNames
  simple := by
    intro declared inside
    obtain ⟨unit, found, described⟩ := simpleNamed?_of_declared valid inside
    exact ⟨unit, built.unit?_of_simpleNamed? valid found, described⟩
  composite := by
    intro declared inside
    obtain ⟨unit, place, described⟩ := exists_of_forall₂ built.described inside
    have listed : Unit.composite unit ∈ catalog.units := by
      rw [built.units]
      exact List.mem_append_right _ (List.mem_map_of_mem place)
    have found := built.unit?_of_mem valid listed
    exact ⟨unit, described.name ▸ found,
      described.of_named fun _ _ => built.simpleUnit?_of_simpleNamed? valid⟩
  other := by
    intro name undeclared
    have absent : (catalog.units.find? fun unit => unit.name == name) = none := by
      rw [List.find?_eq_none]
      intro unit inside same
      rw [← built.names] at undeclared
      exact undeclared (List.mem_map.2 ⟨unit, inside, by simpa using same⟩)
    rw [unit?, unitNamed?, absent]
  bindings := built.bindings
  values := built.find?_eq_some_iff valid
  units := by
    intro unit inside
    exact (unit.isSome_dimensionIn?_iff _).2 (built.belongsTo valid inside)
  valueUnits := by
    intro name value found
    exact (value.unit.isSome_dimensionIn?_iff _).2
      (built.unit_of_find? valid (fun _ => built.belongsTo valid) built.pureBelongsTo found)

end BuiltFrom

theorem exists_builtFrom {declaration : Declaration} {catalog : Catalog}
    (built : build declaration = .ok catalog) :
    ∃ composites, declaration.Valid ∧ BuiltFrom declaration composites catalog := by
  rcases build_cases declaration with ⟨_, _, failed⟩ | ⟨formed, _, composites, done, made⟩ |
    ⟨_, _, _, _, _, _, _, failed⟩
  · rw [built] at failed
    cases failed
  · rw [built] at done
    cases done
    exact ⟨composites, formed.toValid, made⟩
  · rw [built] at failed
    cases failed

namespace Realizes

variable {declaration : Declaration} {catalog : Catalog} {base : Base}

theorem base? (realized : catalog.Realizes declaration base) :
    catalog.system.base? catalog.bases = some base := by
  have frozen := realized.frozen
  unfold QuantitySystem.base at frozen
  split at frozen
  · next present =>
    cases frozen
    exact present
  · cases frozen

theorem dimension?_eq (realized : catalog.Realizes declaration base) {unit : Unit Float}
    (known : (unit.dimensionIn? base).isSome = true) :
    unit.dimension? catalog.bases = unit.dimensionIn? base := by
  have native := ((unit.isSome_dimensionIn?_iff base).1 known).native
  have own := Bases.generation_of_base? _ _ _ realized.base?
  exact Unit.dimension?_of_native (own ▸ realized.base?) native

/-- Formulas over the values of the catalog meet no unit error. -/
theorem unitError?_of_evalText (realized : catalog.Realizes declaration base) {expression : String}
    {target : Option String} {json : Bool} {error : CommandError}
    (failed : catalog.evalText expression target json = .error error) :
    error.unitError? = none := by
  have known : catalog.context.environment.KnownIn base := realized.valueUnits
  have frozen : catalog.context.system.base? catalog.context.bases = some base := realized.base?
  have stopped : catalog.evaluated expression target = .error error := by
    rcases Except.bind_error failed with stopped | ⟨result, _, printed⟩
    · exact stopped
    · cases json <;> cases printed
  rw [evaluated_eq realized.base?] at stopped
  cases target with
  | none =>
    rcases Except.bind_error stopped with failed | ⟨value, _, returned⟩
    · obtain ⟨cause, unevaluated, rfl⟩ := Except.mapError_error failed
      exact Formula.unitError?_of_evaluate frozen known unevaluated
    · cases returned
  | some name =>
    rcases Except.bind_error stopped with missing | ⟨unit, _, stopped⟩
    · unfold requireUnit at missing
      split at missing
      · cases missing
      · cases missing
        rfl
    rcases Except.bind_error stopped with failed | ⟨number, _, returned⟩
    · obtain ⟨cause, unevaluated, rfl⟩ := Except.mapError_error failed
      exact Formula.unitError?_of_evaluateAs frozen known unevaluated
    · cases returned

end Realizes

/-- The row of a unit ends in its dimension. -/
def EndsInDimension (catalog : Catalog) (unit : Unit Float) (row : String) : Prop :=
  ∃ columns dimension, unit.dimension? catalog.bases = some dimension ∧
    row = columns ++ "  " ++ dimension.text ++ "\n"

/-- The object of a unit ends in its dimension. -/
def HoldsDimension (catalog : Catalog) (unit : Unit Float) (object : Json) : Prop :=
  ∃ fields dimension, unit.dimension? catalog.bases = some dimension ∧
    object = .object (fields ++ [("dimension", .array (dimension.exponents.map .integer))])

theorem endsInDimension_unitRow {catalog : Catalog} {unit : Unit Float} {dimension : Dimension}
    (found : unit.dimension? catalog.bases = some dimension) (width : Nat) :
    catalog.EndsInDimension unit (catalog.unitRow width unit) := by
  refine ⟨padRight width unit.name ++ "  " ++ padRight 8 unit.symbol ++ "  "
    ++ padRight 10 ((quantityName? unit).getD "composite") ++ "  "
    ++ padLeft 12 (NumberStyle.scientific.render unit.factor), dimension, found, ?_⟩
  rw [unitRow, found]
  rfl

theorem holdsDimension_unitJson {catalog : Catalog} {unit : Unit Float} {dimension : Dimension}
    (found : unit.dimension? catalog.bases = some dimension) :
    catalog.HoldsDimension unit (catalog.unitJson unit) := by
  refine ⟨[("name", .text unit.name), ("symbol", .text unit.symbol),
    ("synonyms", .array (unit.synonyms.map .text)),
    ("quantity", Json.ofOption .text (quantityName? unit)), ("factor", .number unit.factor)],
    dimension, found, ?_⟩
  rw [unitJson, found]
  rfl

/-- A catalog that is built has all that evaluation relies on: the system is frozen, the units and
the values are those declared, and the dimensions of all units are known. So the list of units has a
dimension in every row, and no formula fails for the system of a unit. -/
theorem catalog_of_build {declaration : Declaration} {catalog : Catalog}
    (built : build declaration = .ok catalog) :
    (∃ base, catalog.Realizes declaration base) ∧
    (∃ rows, catalog.run (.listUnits false) = .ok (String.join rows) ∧
      List.Forall₂ catalog.EndsInDimension catalog.units rows) ∧
    (∃ objects, catalog.run (.listUnits true) = .ok ((Json.array objects).pretty 0 ++ "\n") ∧
      List.Forall₂ catalog.HoldsDimension catalog.units objects) ∧
    ∀ expression target json error,
      catalog.run (.eval expression target json) = .error error → error.unitError? = none := by
  obtain ⟨composites, valid, made⟩ := exists_builtFrom built
  have realized := made.realizes valid
  have known : ∀ unit ∈ catalog.units, ∃ dimension,
      unit.dimension? catalog.bases = some dimension := by
    intro unit inside
    have present := realized.units unit inside
    rw [← realized.dimension?_eq present] at present
    exact Option.isSome_iff_exists.1 present
  refine ⟨⟨_, realized⟩, ⟨_, rfl, ?_⟩, ⟨_, rfl, ?_⟩, ?_⟩
  · refine List.forall₂_map_right_iff.2 (List.forall₂_same.2 ?_)
    intro unit inside
    obtain ⟨dimension, found⟩ := known unit inside
    exact endsInDimension_unitRow found _
  · refine List.forall₂_map_right_iff.2 (List.forall₂_same.2 ?_)
    intro unit inside
    obtain ⟨dimension, found⟩ := known unit inside
    exact holdsDimension_unitJson found
  · intro expression target json error failed
    exact realized.unitError?_of_evalText failed

/-- The built-in catalog: a composite unit by its name, and a variable without a unit. -/
theorem catalog_of_emissions :
    ∃ catalog, build emissions = .ok catalog ∧
      (∃ unit, catalog.unit? "kilogram per stere" = some (.composite unit) ∧
        unit.symbol = "kg/st") ∧
      catalog.environment.find? "FracBio" = some (.of 0.12 (.simple catalog.system.pureUnit)) ∧
      (∃ rows, catalog.run (.listUnits false) = .ok (String.join rows) ∧
        List.Forall₂ catalog.EndsInDimension catalog.units rows) ∧
      ∀ error, catalog.run (.eval "Density * NCV" (some "joule") true) = .error error →
        error.unitError? = none := by
  have succeeds : (build emissions).toOption.isSome = true := by decide +kernel
  cases outcome : build emissions with
  | error error =>
    rw [outcome] at succeeds
    cases succeeds
  | ok catalog =>
    obtain ⟨⟨base, realized⟩, rows, _, harmless⟩ := catalog_of_build outcome
    refine ⟨catalog, rfl, ?_, ?_, rows, harmless _ _ _⟩
    · have declared : (⟨"kilogram per stere", "kg/st", [], ["kilogram"], ["stere"]⟩ :
          CompositeDeclaration) ∈ emissions.composites := by decide
      obtain ⟨unit, found, described⟩ := realized.composite _ declared
      exact ⟨unit, found, described.symbol⟩
    · have declared : (⟨"FracBio", 0.12, none⟩ : VariableDeclaration) ∈ emissions.namedValues := by
        simp [emissions]
      exact (realized.values _ _).2 ⟨_, declared, _, rfl, rfl⟩

end Catalog

end Dimensional
