import Mathlib.Data.List.Forall2
import Dimensional.Catalog.Build
import Dimensional.Proofs.Outcome
import Dimensional.Proofs.WellFormed

/-!
How a catalog is built. Each pass over the declaration has one lemma that says what it makes, entry
by entry, and one that says when it cannot fail. A valid declaration leaves one way to fail: the
default unit of a quantity measures another one.
-/

set_option autoImplicit false

namespace Dimensional

theorem exists_of_forall₂ {β γ : Type} {relates : β → γ → Prop} {xs : List β} {ys : List γ}
    (related : List.Forall₂ relates xs ys) {x : β} (inside : x ∈ xs) :
    ∃ y ∈ ys, relates x y := by
  induction related with
  | nil => cases inside
  | @cons first other rest others same _ ih =>
    rcases List.mem_cons.1 inside with rfl | later
    · exact ⟨other, List.mem_cons_self, same⟩
    · obtain ⟨y, place, found⟩ := ih later
      exact ⟨y, List.mem_cons_of_mem _ place, found⟩

theorem exists_forall₂ {β γ : Type} {relates : β → γ → Prop} {xs : List β}
    (each : ∀ x ∈ xs, ∃ y, relates x y) : ∃ ys, List.Forall₂ relates xs ys := by
  induction xs with
  | nil => exact ⟨[], .nil⟩
  | cons x rest ih =>
    obtain ⟨y, same⟩ := each x List.mem_cons_self
    obtain ⟨ys, others⟩ := ih fun other later => each other (List.mem_cons_of_mem _ later)
    exact ⟨y :: ys, .cons same others⟩

/-- Where names are unique, what is found under a name is what has it. -/
theorem find?_name_eq_some_iff {β : Type} (name : β → String) {xs : List β}
    (distinct : (xs.map name).Nodup) (wanted : String) (x : β) :
    (xs.find? fun item => name item == wanted) = some x ↔ x ∈ xs ∧ name x = wanted := by
  induction xs with
  | nil => simp
  | cons first rest ih =>
    rw [List.map_cons, List.nodup_cons] at distinct
    by_cases same : name first = wanted
    · have only : ∀ other ∈ rest, name other ≠ wanted := by
        intro other later equal
        exact distinct.1 (List.mem_map.2 ⟨other, later, equal.trans same.symm⟩)
      rw [List.find?_cons_of_pos (by simpa using same), List.mem_cons]
      constructor
      · rintro ⟨⟩
        exact ⟨Or.inl rfl, same⟩
      · rintro ⟨rfl | later, equal⟩
        · rfl
        · exact absurd equal (only x later)
    · rw [List.find?_cons_of_neg (by simpa using same), ih distinct.2, List.mem_cons]
      constructor
      · rintro ⟨later, equal⟩
        exact ⟨Or.inr later, equal⟩
      · rintro ⟨rfl | later, equal⟩
        · exact absurd equal same
        · exact ⟨later, equal⟩

theorem Registry.mem_quantities_put {β : Type} (registry : Registry β) (quantity other : Quantity)
    (content : β) :
    other ∈ (registry.put quantity content).quantities ↔
      other = quantity ∨ other ∈ registry.quantities := by
  rw [quantities_put]
  split
  · next known =>
    constructor
    · exact Or.inr
    · rintro (rfl | listed)
      · exact known
      · exact listed
  · rw [List.mem_append, List.mem_singleton, or_comm]

/-- An open system refuses its own units only for what they measure. -/
theorem QuantitySystem.add_of_native {α : Type} {system : QuantitySystem α} {bases : Bases}
    (unfrozen : system.isFrozen bases = false) (quantity : Quantity) {unit : SimpleUnit α}
    (native : unit.generation = system.generation) :
    system.add bases quantity unit =
      if unit.quantity ≠ quantity then
        .error (.quantityMismatch quantity.name unit.name unit.quantity.name)
      else .ok { system with registry := system.registry.put quantity unit } := by
  simp only [add, unfrozen, Bool.false_eq_true, ↓reduceIte, native, ne_eq, not_true_eq_false]

namespace Catalog

/-- The unit is as declared. -/
structure UnitDeclaration.Describes (declared : UnitDeclaration) (unit : SimpleUnit Float) :
    Prop where
  name : unit.name = declared.name
  symbol : unit.symbol = declared.symbol
  synonyms : unit.synonyms = declared.synonyms
  quantity : unit.quantity = ⟨declared.quantity⟩
  factor : unit.factor = declared.factor
  generation : unit.generation = ⟨0⟩

/-- The unit is as declared; its members are the units that the names refer to, in this order. -/
structure CompositeDeclaration.Describes (named? : String → Option (SimpleUnit Float))
    (declared : CompositeDeclaration) (unit : CompositeUnit Float) : Prop where
  name : unit.name = declared.name
  symbol : unit.symbol = declared.symbol
  synonyms : unit.synonyms = declared.synonyms
  dividend : List.Forall₂ (fun name member => named? name = some member) declared.dividend
    unit.dividend
  divisor : List.Forall₂ (fun name member => named? name = some member) declared.divisor
    unit.divisor
  generation : unit.generation = ⟨0⟩

/-- The unit that a declared variable is given in. -/
def VariableDeclaration.unit? (pureUnit : SimpleUnit Float) (named? : String → Option (Unit Float))
    (declared : VariableDeclaration) : Option (Unit Float) :=
  match declared.unit with
  | none => some (.simple pureUnit)
  | some name => named? name

/-- The name is bound to the declared number in the unit that is meant. -/
def VariableDeclaration.Binds (pureUnit : SimpleUnit Float) (named? : String → Option (Unit Float))
    (declared : VariableDeclaration) (entry : String × Formula.Value Float) : Prop :=
  ∃ unit, declared.unit? pureUnit named? = some unit ∧
    entry = (declared.name, Formula.Value.of declared.value unit)

/-- The simple unit of a name. -/
def simpleNamed? (simple : List (SimpleUnit Float)) (name : String) : Option (SimpleUnit Float) :=
  simple.find? fun unit => unit.name == name

theorem simpleUnits_describe (serial : Nat) (units : List UnitDeclaration) :
    List.Forall₂ UnitDeclaration.Describes units (simpleUnits ⟨0⟩ serial units) := by
  induction units generalizing serial with
  | nil => exact .nil
  | cons unit rest ih => exact .cons ⟨rfl, rfl, rfl, rfl, rfl, rfl⟩ (ih (serial + 1))

theorem simpleUnits_names (generation : Generation) (serial : Nat) (units : List UnitDeclaration) :
    (simpleUnits generation serial units).map (·.name) = units.map (·.name) := by
  induction units generalizing serial with
  | nil => rfl
  | cons unit rest ih => exact congrArg (unit.name :: ·) (ih (serial + 1))

theorem members_ok_iff (simple : List (SimpleUnit Float)) (names : List String)
    (units : List (SimpleUnit Float)) :
    members simple names = .ok units ↔
      List.Forall₂ (fun name unit => simpleNamed? simple name = some unit) names units := by
  induction names generalizing units with
  | nil =>
    rw [members, List.forall₂_nil_left_iff]
    constructor
    · rintro ⟨⟩
      rfl
    · rintro rfl
      rfl
  | cons name rest ih =>
    have named : (simple.find? fun unit => unit.name == name) = simpleNamed? simple name := rfl
    rw [members, named, List.forall₂_cons_left_iff]
    cases simpleNamed? simple name with
    | none => simp
    | some unit =>
      constructor
      · intro made
        cases later : members simple rest with
        | error error =>
          rw [later] at made
          cases made
        | ok others =>
          rw [later] at made
          cases made
          exact ⟨unit, others, rfl, (ih others).1 later, rfl⟩
      · rintro ⟨_, others, ⟨⟩, later, rfl⟩
        rw [(ih others).2 later]
        rfl

theorem compositeUnits_ok_iff (simple : List (SimpleUnit Float))
    (composites : List CompositeDeclaration) (units : List (CompositeUnit Float)) :
    compositeUnits ⟨0⟩ simple composites = .ok units ↔
      List.Forall₂ (CompositeDeclaration.Describes (simpleNamed? simple)) composites units := by
  induction composites generalizing units with
  | nil =>
    rw [compositeUnits, List.forall₂_nil_left_iff]
    constructor
    · rintro ⟨⟩
      rfl
    · rintro rfl
      rfl
  | cons composite rest ih =>
    rw [compositeUnits, List.forall₂_cons_left_iff]
    constructor
    · intro made
      obtain ⟨dividend, above, made⟩ := Except.bind_ok made
      obtain ⟨divisor, below, made⟩ := Except.bind_ok made
      obtain ⟨others, later, made⟩ := Except.bind_ok made
      cases made
      exact ⟨_, others, ⟨rfl, rfl, rfl, (members_ok_iff _ _ _).1 above,
        (members_ok_iff _ _ _).1 below, rfl⟩, (ih others).1 later, rfl⟩
    · rintro ⟨unit, others, described, later, rfl⟩
      have above := (members_ok_iff simple _ _).2 described.dividend
      have below := (members_ok_iff simple _ _).2 described.divisor
      have whole : unit = ⟨composite.name, composite.symbol, composite.synonyms, unit.dividend,
          unit.divisor, ⟨0⟩⟩ := by
        rw [← described.name, ← described.symbol, ← described.synonyms, ← described.generation]
      rw [above, below, (ih others).2 later, whole]
      rfl

/-- What registration has done to a system. -/
structure Registers (system : QuantitySystem Float) (quantities : List QuantityDeclaration)
    (after : QuantitySystem Float) : Prop where
  generation : after.generation = system.generation
  serial : after.serial = system.serial
  quantities : ∀ quantity, quantity ∈ after.registry.quantities ↔
    quantity ∈ system.registry.quantities ∨ quantity.name ∈ quantities.map (·.name)

/-- The default unit of the quantity measures it. -/
def QuantityDeclaration.Matches (simple : List (SimpleUnit Float))
    (quantity : QuantityDeclaration) : Prop :=
  ∃ unit, simpleNamed? simple quantity.defaultUnit = some unit ∧ unit.quantity = ⟨quantity.name⟩

/-- The default unit of the quantity measures another one, which is what the error says. -/
def QuantityDeclaration.Mismatches (simple : List (SimpleUnit Float))
    (quantity : QuantityDeclaration) (error : BuildError) : Prop :=
  ∃ unit, simpleNamed? simple quantity.defaultUnit = some unit ∧ unit.quantity ≠ ⟨quantity.name⟩ ∧
    error = .registration quantity.name
      (.quantityMismatch quantity.name unit.name unit.quantity.name)

theorem registers_of_registerAll {bases : Bases} {simple : List (SimpleUnit Float)}
    {system after : QuantitySystem Float} {quantities : List QuantityDeclaration}
    (done : registerAll bases simple system quantities = .ok after) :
    Registers system quantities after := by
  induction quantities generalizing system with
  | nil =>
    cases done
    exact ⟨rfl, rfl, by simp⟩
  | cons quantity rest ih =>
    rw [registerAll] at done
    split at done
    · cases done
    · next unit found =>
      split at done
      · cases done
      · next next added =>
        obtain ⟨generation, serial, quantities⟩ := ih done
        unfold QuantitySystem.add at added
        split at added
        · cases added
        split at added
        · cases added
        split at added
        · cases added
        cases added
        refine ⟨generation, serial, ?_⟩
        intro other
        have named : other.name = quantity.name ↔ other = ⟨quantity.name⟩ :=
          ⟨fun same => congrArg Quantity.mk same, fun same => congrArg Quantity.name same⟩
        rw [quantities, Registry.mem_quantities_put, List.map_cons, List.mem_cons, named,
          or_comm (a := other = _), or_assoc]

/-- With its own units only, an open system registers quantities up to the first mismatch. -/
theorem registerAll_cases {simple : List (SimpleUnit Float)}
    {quantities : List QuantityDeclaration} (bases : Bases) (system : QuantitySystem Float)
    (unfrozen : system.isFrozen bases = false)
    (native : ∀ unit ∈ simple, unit.generation = system.generation)
    (known : ∀ quantity ∈ quantities, ∃ unit,
      simpleNamed? simple quantity.defaultUnit = some unit) :
    (∀ quantity ∈ quantities, quantity.Matches simple) ∧
        (∃ after, registerAll bases simple system quantities = .ok after) ∨
      ∃ quantity ∈ quantities, ∃ error, quantity.Mismatches simple error ∧
        registerAll bases simple system quantities = .error error := by
  induction quantities generalizing system with
  | nil => exact Or.inl ⟨List.forall_mem_nil _, system, rfl⟩
  | cons quantity rest ih =>
    obtain ⟨unit, found⟩ := known quantity List.mem_cons_self
    have own := native unit (List.mem_of_find?_eq_some found)
    have listed : (simple.find? fun unit => unit.name == quantity.defaultUnit) = some unit := found
    have judged := QuantitySystem.add_of_native unfrozen ⟨quantity.name⟩ own
    by_cases measured : unit.quantity = ⟨quantity.name⟩
    · rw [if_neg (not_not_intro measured)] at judged
      -- The system that has registered the first quantity is open as well.
      have later := ih { system with registry := system.registry.put ⟨quantity.name⟩ unit }
        unfrozen native fun other inside => known other (List.mem_cons_of_mem _ inside)
      simp only [registerAll, listed, judged]
      rcases later with ⟨others, done⟩ | ⟨other, inside, error, mismatch, failed⟩
      · exact Or.inl ⟨List.forall_mem_cons.2 ⟨⟨unit, found, measured⟩, others⟩, done⟩
      · exact Or.inr ⟨other, List.mem_cons_of_mem _ inside, error, mismatch, failed⟩
    · rw [if_pos measured] at judged
      simp only [registerAll, listed, judged]
      exact Or.inr ⟨quantity, List.mem_cons_self, _, ⟨unit, found, measured, rfl⟩, rfl⟩

theorem bindIn_of_fresh {β : Type} {name : String} {value : Formula.Value β}
    {bindings : List (String × Formula.Value β)} (fresh : name ∉ bindings.map (·.1)) :
    Formula.Environment.bindIn name value bindings = bindings ++ [(name, value)] := by
  induction bindings with
  | nil => rfl
  | cons entry rest ih =>
    rw [List.map_cons, List.mem_cons, not_or] at fresh
    rw [Formula.Environment.bindIn, if_neg (Ne.symm fresh.1), ih fresh.2]
    rfl

theorem bindAll_cons (system : QuantitySystem Float) (units : List (Unit Float))
    (environment : Formula.Environment Float) (first : VariableDeclaration)
    (rest : List VariableDeclaration) :
    bindAll system units environment (first :: rest) =
      match first.unit? system.pureUnit (unitNamed? system units) with
      | none => .error (.unknownUnit (first.unit.getD pureUnitName))
      | some unit =>
        bindAll system units (environment.insert first.name (.of first.value unit)) rest := by
  rw [bindAll, VariableDeclaration.unit?]
  cases first.unit <;> rfl

/-- Variables with names of their own are bound one after the other. -/
theorem bindAll_ok_iff (system : QuantitySystem Float) (units : List (Unit Float))
    (environment after : Formula.Environment Float) {declared : List VariableDeclaration}
    (distinct : (environment.bindings.map (·.1) ++ declared.map (·.name)).Nodup) :
    bindAll system units environment declared = .ok after ↔
      ∃ entries, after.bindings = environment.bindings ++ entries ∧
        List.Forall₂ (VariableDeclaration.Binds system.pureUnit (unitNamed? system units)) declared
          entries := by
  induction declared generalizing environment with
  | nil =>
    simp only [bindAll, List.forall₂_nil_left_iff, exists_eq_right, List.append_nil]
    constructor
    · rintro ⟨⟩
      rfl
    · intro same
      cases after
      cases same
      rfl
  | cons first rest ih =>
    have fresh : first.name ∉ environment.bindings.map (·.1) := by
      intro inside
      exact (List.nodup_append.1 distinct).2.2 _ inside _ List.mem_cons_self rfl
    simp only [bindAll_cons, List.forall₂_cons_left_iff, VariableDeclaration.Binds]
    cases found : first.unit? system.pureUnit (unitNamed? system units) with
    | none => simp
    | some unit =>
      have longer : (environment.insert first.name (.of first.value unit)).bindings =
          environment.bindings ++ [(first.name, .of first.value unit)] := bindIn_of_fresh fresh
      have apart : ((environment.insert first.name (.of first.value unit)).bindings.map (·.1) ++
          rest.map (·.name)).Nodup := by
        rw [longer]
        simpa using distinct
      simp only [ih _ apart, longer, List.append_assoc, List.singleton_append]
      constructor
      · rintro ⟨entries, shape, bound⟩
        exact ⟨_, shape, _, entries, ⟨unit, rfl, rfl⟩, bound, rfl⟩
      · rintro ⟨_, shape, _, entries, ⟨_, ⟨⟩, rfl⟩, bound, rfl⟩
        exact ⟨entries, shape, bound⟩

theorem exists_simpleNamed? {simple : List (SimpleUnit Float)} {name : String}
    (listed : name ∈ simple.map (·.name)) : ∃ unit, simpleNamed? simple name = some unit := by
  obtain ⟨unit, inside, named⟩ := List.mem_map.1 listed
  exact Option.isSome_iff_exists.1 (List.find?_isSome.2 ⟨unit, inside, by simpa using named⟩)

theorem exists_unitNamed? (system : QuantitySystem Float) {units : List (Unit Float)}
    {name : String} (listed : name = pureUnitName ∨ name ∈ units.map (·.name)) :
    ∃ unit, unitNamed? system units name = some unit := by
  rw [unitNamed?]
  cases found : units.find? fun unit => unit.name == name with
  | some unit => exact ⟨unit, rfl⟩
  | none =>
    rcases listed with pure | inside
    · exact ⟨_, if_pos pure⟩
    · obtain ⟨unit, place, named⟩ := List.mem_map.1 inside
      exact absurd named (by simpa using List.find?_eq_none.1 found unit place)

/-- The simple units that a declaration leads to. -/
def Declaration.simple (declaration : Declaration) : List (SimpleUnit Float) :=
  simpleUnits ⟨0⟩ 1 declaration.units

theorem Declaration.simple_names (declaration : Declaration) :
    declaration.simple.map (·.name) = declaration.simpleNames :=
  simpleUnits_names ⟨0⟩ 1 declaration.units

theorem Declaration.simple_native (declaration : Declaration) :
    ∀ unit ∈ declaration.simple, unit.generation = ⟨0⟩ := by
  intro unit inside
  obtain ⟨declared, _, described⟩ :=
    exists_of_forall₂ (simpleUnits_describe 1 declaration.units).flip inside
  exact described.generation

/-- The catalog is what the declaration says, entry by entry. -/
structure BuiltFrom (declaration : Declaration) (composites : List (CompositeUnit Float))
    (catalog : Catalog) : Prop where
  registers : Registers (QuantitySystem.create ⟨0⟩ 0) declaration.quantities catalog.system
  bases : catalog.bases = Bases.empty.issue.freeze catalog.system.layout
  described : List.Forall₂ (CompositeDeclaration.Describes (simpleNamed? declaration.simple))
    declaration.composites composites
  units : catalog.units =
    declaration.simple.map Unit.simple ++ composites.map Unit.composite
  bindings : List.Forall₂
    (VariableDeclaration.Binds catalog.system.pureUnit (unitNamed? catalog.system catalog.units))
    declaration.namedValues catalog.environment.bindings

theorem names_of_describes {named? : String → Option (SimpleUnit Float)}
    {declared : List CompositeDeclaration} {composites : List (CompositeUnit Float)}
    (described : List.Forall₂ (CompositeDeclaration.Describes named?) declared composites) :
    composites.map (·.name) = declared.map (·.name) := by
  induction described with
  | nil => rfl
  | cons first _ ih => rw [List.map_cons, List.map_cons, first.name, ih]

theorem names_of_units {declaration : Declaration} {composites : List (CompositeUnit Float)}
    (described : List.Forall₂ (CompositeDeclaration.Describes (simpleNamed? declaration.simple))
      declaration.composites composites) :
    (declaration.simple.map Unit.simple ++ composites.map Unit.composite).map (·.name) =
      declaration.unitNames := by
  rw [List.map_append, List.map_map, List.map_map, Declaration.unitNames,
    ← names_of_describes described, ← Declaration.simpleNames, ← declaration.simple_names]
  rfl

/-- Without defects, the catalog is made in four passes. -/
theorem build_of_valid {declaration : Declaration} (valid : declaration.Valid) :
    build declaration =
      (registerAll Bases.empty.issue declaration.simple (QuantitySystem.create ⟨0⟩ 0)
        declaration.quantities).bind fun system =>
      ((system.freeze Bases.empty.issue).mapError BuildError.freezing).bind fun bases =>
      (compositeUnits ⟨0⟩ declaration.simple declaration.composites).bind fun composites =>
      let units := declaration.simple.map Unit.simple ++ composites.map Unit.composite
      (bindAll system units Formula.Environment.empty declaration.namedValues).bind
        fun environment => .ok ⟨bases, system, units, environment⟩ := by
  rw [build, declaration.defect?_eq_none_iff.2 valid]
  rfl

theorem freeze_of_registers {quantities : List QuantityDeclaration}
    {system : QuantitySystem Float}
    (registers : Registers (QuantitySystem.create ⟨0⟩ 0) quantities system) :
    system.freeze Bases.empty.issue = .ok (Bases.empty.issue.freeze system.layout) := by
  have unfrozen : system.isFrozen Bases.empty.issue = false := by
    rw [QuantitySystem.isFrozen, QuantitySystem.base?, registers.generation]
    rfl
  rw [QuantitySystem.freeze, unfrozen]
  rfl

/-- All members of composite units are found. -/
theorem exists_composites {declaration : Declaration} (valid : declaration.Valid) :
    ∃ composites, List.Forall₂ (CompositeDeclaration.Describes (simpleNamed? declaration.simple))
      declaration.composites composites := by
  apply exists_forall₂
  intro composite inside
  have member : ∀ name ∈ composite.dividend ++ composite.divisor,
      ∃ unit, simpleNamed? declaration.simple name = some unit := by
    intro name listed
    apply exists_simpleNamed?
    rw [declaration.simple_names]
    exact valid.members composite inside name listed
  obtain ⟨dividend, above⟩ := exists_forall₂ fun name listed =>
    member name (List.mem_append_left _ listed)
  obtain ⟨divisor, below⟩ := exists_forall₂ fun name listed =>
    member name (List.mem_append_right _ listed)
  exact ⟨⟨composite.name, composite.symbol, composite.synonyms, dividend, divisor, ⟨0⟩⟩,
    rfl, rfl, rfl, above, below, rfl⟩

/-- All units of variables are found. -/
theorem exists_entries {declaration : Declaration} (valid : declaration.Valid)
    (system : QuantitySystem Float) {units : List (Unit Float)}
    (names : units.map (·.name) = declaration.unitNames) :
    ∃ entries, List.Forall₂
      (VariableDeclaration.Binds system.pureUnit (unitNamed? system units))
      declaration.namedValues entries := by
  apply exists_forall₂
  intro declared inside
  cases given : declared.unit with
  | none => exact ⟨_, .simple system.pureUnit, by rw [VariableDeclaration.unit?, given], rfl⟩
  | some name =>
    have listed := valid.valueUnits declared inside name given
    rw [← names] at listed
    obtain ⟨unit, found⟩ := exists_unitNamed? system listed
    exact ⟨_, unit, by rw [VariableDeclaration.unit?, given]; exact found, rfl⟩

/-- After validation only registration can fail. -/
theorem build_of_registerAll {declaration : Declaration} (valid : declaration.Valid)
    {system : QuantitySystem Float}
    (done : registerAll Bases.empty.issue declaration.simple (QuantitySystem.create ⟨0⟩ 0)
      declaration.quantities = .ok system) :
    ∃ catalog composites, build declaration = .ok catalog ∧
      BuiltFrom declaration composites catalog := by
  have registers := registers_of_registerAll done
  have frozen := freeze_of_registers registers
  obtain ⟨composites, described⟩ := exists_composites valid
  have made := (compositeUnits_ok_iff declaration.simple _ _).2 described
  let units := declaration.simple.map Unit.simple ++ composites.map Unit.composite
  obtain ⟨entries, bound⟩ := exists_entries valid system (names_of_units described)
  have environment : bindAll system units Formula.Environment.empty declaration.namedValues =
      .ok ⟨entries⟩ :=
    (bindAll_ok_iff system units .empty ⟨entries⟩ valid.valueNames).2 ⟨entries, rfl, bound⟩
  refine ⟨⟨Bases.empty.issue.freeze system.layout, system, units, ⟨entries⟩⟩, composites, ?_,
    ⟨registers, rfl, described, rfl, bound⟩⟩
  rw [build_of_valid valid, done]
  change ((system.freeze Bases.empty.issue).mapError BuildError.freezing).bind _ = _
  rw [frozen]
  change (compositeUnits ⟨0⟩ declaration.simple declaration.composites).bind _ = _
  rw [made]
  change (bindAll system units Formula.Environment.empty declaration.namedValues).bind _ = _
  rw [environment]
  rfl

/-- A simple unit that is found under a name was declared under it. -/
theorem declared_of_simpleNamed? {declaration : Declaration} {name : String}
    {unit : SimpleUnit Float} (found : simpleNamed? declaration.simple name = some unit) :
    ∃ declared ∈ declaration.units, declared.name = name ∧ declared.Describes unit := by
  obtain ⟨declared, inside, described⟩ := exists_of_forall₂
    (simpleUnits_describe 1 declaration.units).flip (List.mem_of_find?_eq_some found)
  have named : unit.name = name := by simpa using List.find?_some found
  exact ⟨declared, inside, described.name.symm.trans named, described⟩

theorem Declaration.Valid.simpleNames {declaration : Declaration} (valid : declaration.Valid) :
    (declaration.simple.map (·.name)).Nodup := by
  rw [declaration.simple_names]
  exact (List.nodup_append.1 valid.unitNames).1

/-- Each declared simple unit is found under its name. -/
theorem simpleNamed?_of_declared {declaration : Declaration} (valid : declaration.Valid)
    {declared : UnitDeclaration} (inside : declared ∈ declaration.units) :
    ∃ unit, simpleNamed? declaration.simple declared.name = some unit ∧
      declared.Describes unit := by
  obtain ⟨unit, place, described⟩ :=
    exists_of_forall₂ (simpleUnits_describe 1 declaration.units) inside
  exact ⟨unit, (find?_name_eq_some_iff _ valid.simpleNames _ _).2 ⟨place, described.name⟩,
    described⟩

/-- A build comes to a defect, to the catalog that is declared, or to the error that the default
unit of a quantity measures another one. -/
theorem build_cases (declaration : Declaration) :
    (∃ defect, declaration.defect? = some defect ∧
      build declaration = .error (.invalid defect)) ∨
    (declaration.WellFormed ∧ ∃ catalog composites, build declaration = .ok catalog ∧
      BuiltFrom declaration composites catalog) ∨
    declaration.Valid ∧ ∃ quantity ∈ declaration.quantities, ∃ unit ∈ declaration.units,
      unit.name = quantity.defaultUnit ∧ unit.quantity ≠ quantity.name ∧
        build declaration = .error (.registration quantity.name
          (.quantityMismatch quantity.name unit.name unit.quantity)) := by
  cases judged : declaration.defect? with
  | some defect =>
    refine Or.inl ⟨defect, rfl, ?_⟩
    rw [build, judged]
  | none =>
    have valid := declaration.defect?_eq_none_iff.1 judged
    have known : ∀ quantity ∈ declaration.quantities, ∃ unit,
        simpleNamed? declaration.simple quantity.defaultUnit = some unit := by
      intro quantity inside
      apply exists_simpleNamed?
      rw [declaration.simple_names]
      exact valid.defaultUnits quantity inside
    have registered := registerAll_cases Bases.empty.issue (QuantitySystem.create ⟨0⟩ 0) rfl
      declaration.simple_native known
    rcases registered with ⟨matching, system, done⟩ | ⟨quantity, inside, error, mismatch, failed⟩
    · refine Or.inr (Or.inl ⟨⟨valid, ?_⟩, build_of_registerAll valid done⟩)
      intro quantity inside declared place named
      obtain ⟨unit, found, measured⟩ := matching quantity inside
      obtain ⟨unit', found', described⟩ := simpleNamed?_of_declared valid place
      rw [named, found] at found'
      cases found'
      exact congrArg Quantity.name (described.quantity.symm.trans measured)
    · obtain ⟨unit, found, apart, rfl⟩ := mismatch
      obtain ⟨declared, place, named, described⟩ := declared_of_simpleNamed? found
      refine Or.inr (Or.inr ⟨valid, quantity, inside, declared, place, named, ?_, ?_⟩)
      · intro same
        exact apart (described.quantity.trans (congrArg Quantity.mk same))
      · rw [build_of_valid valid, failed, described.name, described.quantity]
        rfl

theorem exists_build_iff (declaration : Declaration) :
    (∃ catalog, build declaration = .ok catalog) ↔ declaration.WellFormed := by
  constructor
  · rintro ⟨catalog, built⟩
    rcases build_cases declaration with ⟨_, _, failed⟩ | ⟨formed, _⟩ | ⟨_, _, _, _, _, _, _, failed⟩
    · rw [built] at failed
      cases failed
    · exact formed
    · rw [built] at failed
      cases failed
  · intro formed
    rcases build_cases declaration with ⟨_, judged, _⟩ | ⟨_, catalog, _, built, _⟩ |
      ⟨_, quantity, inside, unit, place, named, apart, _⟩
    · rw [declaration.defect?_eq_none_iff.2 formed.toValid] at judged
      cases judged
    · exact ⟨catalog, built⟩
    · exact absurd (formed.measures quantity inside unit place named) apart

/-- A declaration can be built exactly if it is well formed. Without defects, the one thing left to
go wrong is that the default unit of a quantity measures another one. -/
theorem build_ok_iff_wellFormed (declaration : Declaration) :
    ((∃ catalog, build declaration = .ok catalog) ↔ declaration.WellFormed) ∧
    (declaration.defect? = none ↔ declaration.Valid) ∧
    (∀ defect, declaration.defect? = some defect →
      build declaration = .error (.invalid defect)) ∧
    ∀ error, declaration.defect? = none → build declaration = .error error →
      ∃ quantity ∈ declaration.quantities, ∃ unit ∈ declaration.units,
        unit.name = quantity.defaultUnit ∧ unit.quantity ≠ quantity.name ∧
          error = .registration quantity.name
            (.quantityMismatch quantity.name unit.name unit.quantity) := by
  refine ⟨exists_build_iff declaration, declaration.defect?_eq_none_iff, ?_, ?_⟩
  · intro defect judged
    rw [build, judged]
  · intro error judged failed
    rcases build_cases declaration with ⟨_, found, _⟩ | ⟨_, catalog, _, built, _⟩ |
      ⟨_, quantity, inside, unit, place, named, apart, stopped⟩
    · rw [judged] at found
      cases found
    · rw [built] at failed
      cases failed
    · rw [stopped] at failed
      cases failed
      exact ⟨quantity, inside, unit, place, named, apart, rfl⟩

/-- Nothing is wrong with the names, but a length cannot be counted in grams. -/
theorem build_of_mismatched_default :
    let declaration : Declaration :=
      { logging := .standard,
        quantities := [⟨"Mass", "gram"⟩, ⟨"Length", "gram"⟩],
        units := [⟨"metre", "m", [], "Length", 1.0⟩, ⟨"gram", "g", [], "Mass", 1.0⟩],
        composites := [⟨"load", "", [], ["gram"], ["metre"]⟩],
        namedValues := [⟨"x", 2.0, some "load"⟩] }
    declaration.defect? = none ∧ ¬declaration.WellFormed ∧
      build declaration = .error (.registration "Length"
        (.quantityMismatch "Length" "gram" "Mass")) := by
  intro declaration
  obtain ⟨formed, _, _, left⟩ := build_ok_iff_wellFormed declaration
  have sound : declaration.defect? = none := Option.isNone_iff_eq_none.1 (by decide +kernel)
  have failure : (build declaration).toOption.isNone = true := by decide +kernel
  cases outcome : build declaration with
  | ok catalog =>
    rw [outcome] at failure
    cases failure
  | error error =>
    have unformed : ¬declaration.WellFormed := by
      intro whole
      obtain ⟨catalog, built⟩ := formed.2 whole
      rw [outcome] at built
      cases built
    obtain ⟨quantity, inside, unit, place, named, apart, rfl⟩ := left error sound outcome
    refine ⟨sound, unformed, ?_⟩
    simp only [declaration, List.mem_cons, List.not_mem_nil, or_false] at inside place
    rcases inside with rfl | rfl <;> rcases place with rfl | rfl
    · exact absurd named (by decide)
    · exact absurd rfl apart
    · exact absurd named (by decide)
    · rfl

end Catalog

end Dimensional
