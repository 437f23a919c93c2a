import Dimensional.Proofs.BuiltCatalog

/-!
The name of the unit of pure numbers. A declaration may give that name to a unit of its own, and the
name then means the declared unit. It keeps the meaning of pure numbers exactly when the declared
unit has the net counts and the factor of one; so do the variables that are given in it.
-/

set_option autoImplicit false

namespace Dimensional

/-- A unit of the base has no dimension when the net counts of all its quantities vanish. -/
theorem Unit.BelongsTo.dimensionIn?_eq_zeros_iff {α : Type} [Scalar α] {base : Base}
    {unit : Unit α} (known : unit.BelongsTo base) :
    unit.dimensionIn? base = some (Dimension.zeros base.rank) ↔
      ∀ quantity, quantity ≠ Quantity.dimensionless → unit.netCount quantity = 0 := by
  let pure : Unit α := .simple (SimpleUnit.pure base.generation 0)
  have knownPure : pure.dimensionIn? base = some (Dimension.zeros base.rank) :=
    (SimpleUnit.dimensionIn?_eq_some_iff base _ _).2 ⟨rfl, base.dimension?_dimensionless⟩
  have nothing : ∀ quantity, quantity ≠ Quantity.dimensionless → pure.netCount quantity = 0 := by
    intro quantity impure
    have absent : quantity ∉ [Quantity.dimensionless] := by simpa using impure
    simp only [netCount, measuring, pure, allMembers, List.map_cons, List.map_nil]
    exact congrArg Int.ofNat (List.count_eq_zero_of_not_mem absent)
  obtain ⟨dimension, measured⟩ :=
    Option.isSome_iff_exists.1 ((unit.isSome_dimensionIn?_iff base).2 known)
  rw [measured, Option.some.injEq, dimensions_eq_iff measured knownPure, SameCounts]
  constructor
  · intro same quantity impure
    rw [same quantity impure, nothing quantity impure]
  · intro zero quantity impure
    rw [zero quantity impure, nothing quantity impure]

namespace Catalog

namespace Declaration

/-- The declared simple units that a list of names refers to. -/
def referred (declaration : Declaration) (names : List String) : List UnitDeclaration :=
  names.filterMap fun name => declaration.units.find? fun unit => unit.name == name

/-- How many of the names refer to a unit that measures the quantity. -/
def measuring (declaration : Declaration) (quantity : Quantity) (names : List String) : Nat :=
  ((declaration.referred names).map fun unit => Quantity.mk unit.quantity).count quantity

/-- The product of the factors of the units that the names refer to. -/
def product (declaration : Declaration) (names : List String) : Float :=
  Scalar.product ((declaration.referred names).map (·.factor))

/-- What is declared under the name of the unit of pure numbers is a pure number with factor 1. -/
structure KeepsPureName (declaration : Declaration) : Prop where
  simple : ∀ unit ∈ declaration.units, unit.name = pureUnitName →
    Quantity.mk unit.quantity = Quantity.dimensionless ∧ unit.factor = 1.0
  composite : ∀ composite ∈ declaration.composites, composite.name = pureUnitName →
    (∀ quantity, quantity ≠ Quantity.dimensionless →
      declaration.measuring quantity composite.dividend =
        declaration.measuring quantity composite.divisor) ∧
    declaration.product composite.dividend / declaration.product composite.divisor = 1.0

/-- The same declaration, with other variables. -/
def withValues (declaration : Declaration) (namedValues : List VariableDeclaration) : Declaration :=
  { declaration with namedValues := namedValues }

/-- The same declaration, with the unit of a variable left out. -/
def omitting (declaration : Declaration) (name : String) : Declaration :=
  declaration.withValues (declaration.namedValues.map fun declared =>
    if declared.name = name then { declared with unit := none } else declared)

variable {declaration : Declaration}

theorem Valid.withValues (valid : declaration.Valid) {namedValues : List VariableDeclaration}
    (names : (namedValues.map (·.name)).Nodup)
    (units : ∀ declared ∈ namedValues, ∀ unit ∈ declared.unit,
      unit = pureUnitName ∨ unit ∈ declaration.unitNames) :
    (declaration.withValues namedValues).Valid :=
  { valid with valueNames := names, valueUnits := units }

theorem Valid.omitting (valid : declaration.Valid) (name : String) :
    (declaration.omitting name).Valid := by
  apply valid.withValues
  · rw [List.map_map]
    have same : (fun declared : VariableDeclaration => declared.name) ∘ (fun declared =>
        if declared.name = name then { declared with unit := none } else declared) = (·.name) := by
      funext declared
      simp only [Function.comp]
      split <;> rfl
    rw [same]
    exact valid.valueNames
  · intro declared inside unit given
    obtain ⟨original, place, rfl⟩ := List.mem_map.1 inside
    split at given
    · cases given
    · exact valid.valueUnits original place unit given

/-- A simple unit that is found under a name is the one declared under it. -/
theorem Valid.find?_of_simpleNamed? (valid : declaration.Valid) {name : String}
    {unit : SimpleUnit Float} (found : simpleNamed? declaration.simple name = some unit) :
    ∃ declared, (declaration.units.find? fun unit => unit.name == name) = some declared ∧
      declared.Describes unit := by
  obtain ⟨declared, inside, named, described⟩ := declared_of_simpleNamed? found
  have distinct : (declaration.units.map (·.name)).Nodup :=
    (List.nodup_append.1 valid.unitNames).1
  exact ⟨declared, (find?_name_eq_some_iff _ distinct name declared).2 ⟨inside, named⟩, described⟩

/-- The members of a composite unit are as declared. -/
theorem Valid.describes_referred (valid : declaration.Valid) {names : List String}
    {members : List (SimpleUnit Float)}
    (found : List.Forall₂ (fun name member => simpleNamed? declaration.simple name = some member)
      names members) :
    List.Forall₂ UnitDeclaration.Describes (declaration.referred names) members := by
  induction found with
  | nil => exact .nil
  | cons first _ ih =>
    obtain ⟨declared, listed, described⟩ := valid.find?_of_simpleNamed? first
    simp only [referred, List.filterMap_cons, listed]
    exact .cons described ih

end Declaration

theorem measuring_of_describes {declared : List UnitDeclaration}
    {members : List (SimpleUnit Float)}
    (described : List.Forall₂ UnitDeclaration.Describes declared members) (quantity : Quantity) :
    measuring quantity members =
      (declared.map fun unit => Quantity.mk unit.quantity).count quantity := by
  rw [measuring]
  congr 1
  induction described with
  | nil => rfl
  | cons first _ ih => rw [List.map_cons, List.map_cons, first.quantity, ih]

theorem factors_of_describes {declared : List UnitDeclaration}
    {members : List (SimpleUnit Float)}
    (described : List.Forall₂ UnitDeclaration.Describes declared members) :
    members.map (·.factor) = declared.map (·.factor) := by
  induction described with
  | nil => rfl
  | cons first _ ih => rw [List.map_cons, List.map_cons, first.factor, ih]

/-- The unit has no dimension in the base and the factor 1. -/
def IsPure (base : Base) (unit : Unit Float) : Prop :=
  unit.dimensionIn? base = some (Dimension.zeros base.rank) ∧ unit.factor = 1.0

theorem isPure_simple_iff {base : Base} {declared : UnitDeclaration} {unit : SimpleUnit Float}
    (described : declared.Describes unit) (known : (Unit.simple unit).BelongsTo base) :
    IsPure base (.simple unit) ↔
      Quantity.mk declared.quantity = Quantity.dimensionless ∧ declared.factor = 1.0 := by
  have factor : (Unit.simple unit).factor = declared.factor := described.factor
  obtain ⟨dimension, measured⟩ :=
    Option.isSome_iff_exists.1 (((Unit.simple unit).isSome_dimensionIn?_iff base).2 known)
  have own := ((unit.dimensionIn?_eq_some_iff base dimension).1 measured).2
  have size := Unit.size_of_dimensionIn? measured
  have zero : dimension = Dimension.zeros base.rank ↔
      Quantity.mk declared.quantity = Quantity.dimensionless := by
    rw [← size, ← Dimension.isZero_iff_eq_zeros, Base.isZero_of_dimension? own,
      Quantity.isDimensionless_iff, described.quantity]
  rw [IsPure, factor, measured, Option.some.injEq, zero]

theorem isPure_composite_iff {declaration : Declaration} (valid : declaration.Valid) {base : Base}
    {declared : CompositeDeclaration} {unit : CompositeUnit Float}
    (described : declared.Describes (simpleNamed? declaration.simple) unit)
    (known : (Unit.composite unit).BelongsTo base) :
    IsPure base (.composite unit) ↔
      (∀ quantity, quantity ≠ Quantity.dimensionless →
        declaration.measuring quantity declared.dividend =
          declaration.measuring quantity declared.divisor) ∧
      declaration.product declared.dividend / declaration.product declared.divisor = 1.0 := by
  have above := valid.describes_referred described.dividend
  have below := valid.describes_referred described.divisor
  have counts : ∀ quantity, (Unit.composite unit).netCount quantity = 0 ↔
      declaration.measuring quantity declared.dividend =
        declaration.measuring quantity declared.divisor := by
    intro quantity
    rw [Unit.netCount, Int.sub_eq_zero, Int.ofNat_inj]
    exact iff_of_eq (congrArg₂ Eq (measuring_of_describes above quantity)
      (measuring_of_describes below quantity))
  have factor : (Unit.composite unit).factor =
      declaration.product declared.dividend / declaration.product declared.divisor := by
    rw [Unit.factor, CompositeUnit.factor, factors_of_describes above, factors_of_describes below]
    rfl
  rw [IsPure, factor, known.dimensionIn?_eq_zeros_iff]
  simp only [counts]

theorem isPure_pureUnit (system : QuantitySystem Float) :
    IsPure system.layout (.simple system.pureUnit) :=
  ⟨(SimpleUnit.dimensionIn?_eq_some_iff _ _ _).2 ⟨rfl, system.layout.dimension?_dimensionless⟩, rfl⟩

namespace BuiltFrom

variable {declaration : Declaration} {composites : List (CompositeUnit Float)} {catalog : Catalog}

/-- Each declared composite unit is found under its name. -/
theorem exists_composite (built : BuiltFrom declaration composites catalog)
    (valid : declaration.Valid) {declared : CompositeDeclaration}
    (inside : declared ∈ declaration.composites) :
    ∃ unit, catalog.unit? declared.name = some (.composite unit) ∧
      declared.Describes (simpleNamed? declaration.simple) unit := by
  obtain ⟨unit, place, described⟩ := exists_of_forall₂ built.described inside
  have listed : Unit.composite unit ∈ catalog.units := by
    rw [built.units]
    exact List.mem_append_right _ (List.mem_map_of_mem place)
  exact ⟨unit, described.name ▸ built.unit?_of_mem valid listed, described⟩

/-- The base knows every unit that a name refers to. -/
theorem belongsTo_of_unit? (built : BuiltFrom declaration composites catalog)
    (valid : declaration.Valid) {name : String} {unit : Unit Float}
    (found : catalog.unit? name = some unit) : unit.BelongsTo catalog.system.layout :=
  unit_of_unit? (fun _ => built.belongsTo valid) built.pureBelongsTo found

theorem isPure_iff_of_simple (built : BuiltFrom declaration composites catalog)
    (valid : declaration.Valid) {declared : UnitDeclaration} (inside : declared ∈ declaration.units)
    {unit : Unit Float} (found : catalog.unit? declared.name = some unit) :
    IsPure catalog.system.layout unit ↔
      Quantity.mk declared.quantity = Quantity.dimensionless ∧ declared.factor = 1.0 := by
  obtain ⟨own, listed, described⟩ := (built.realizes valid).simple declared inside
  rw [found] at listed
  cases listed
  exact isPure_simple_iff described (built.belongsTo_of_unit? valid found)

theorem isPure_iff_of_composite (built : BuiltFrom declaration composites catalog)
    (valid : declaration.Valid) {declared : CompositeDeclaration}
    (inside : declared ∈ declaration.composites) {unit : Unit Float}
    (found : catalog.unit? declared.name = some unit) :
    IsPure catalog.system.layout unit ↔
      (∀ quantity, quantity ≠ Quantity.dimensionless →
        declaration.measuring quantity declared.dividend =
          declaration.measuring quantity declared.divisor) ∧
      declaration.product declared.dividend / declaration.product declared.divisor = 1.0 := by
  obtain ⟨own, listed, described⟩ := built.exists_composite valid inside
  rw [found] at listed
  cases listed
  exact isPure_composite_iff valid described (built.belongsTo_of_unit? valid found)

/-- The name of the unit of pure numbers keeps its meaning if the declaration lets it. -/
theorem isPure_iff (built : BuiltFrom declaration composites catalog) (valid : declaration.Valid)
    {unit : Unit Float} (found : catalog.unit? pureUnitName = some unit) :
    IsPure catalog.system.layout unit ↔ declaration.KeepsPureName := by
  constructor
  · intro pure
    constructor
    · intro declared inside named
      exact (built.isPure_iff_of_simple valid inside (named ▸ found)).1 pure
    · intro declared inside named
      exact (built.isPure_iff_of_composite valid inside (named ▸ found)).1 pure
  · intro keeps
    by_cases listed : pureUnitName ∈ declaration.unitNames
    · rcases List.mem_append.1 listed with simple | composite
      · obtain ⟨declared, inside, named⟩ := List.mem_map.1 simple
        exact (built.isPure_iff_of_simple valid inside (named ▸ found)).2
          (keeps.simple declared inside named)
      · obtain ⟨declared, inside, named⟩ := List.mem_map.1 composite
        exact (built.isPure_iff_of_composite valid inside (named ▸ found)).2
          (keeps.composite declared inside named)
    · rw [(built.realizes valid).other _ listed, if_pos rfl] at found
      cases found
      exact isPure_pureUnit catalog.system

end BuiltFrom

/-- Other variables change nothing in a catalog but its values. -/
theorem build_withValues {declaration : Declaration} {catalog : Catalog}
    (built : build declaration = .ok catalog) {namedValues : List VariableDeclaration}
    (valid : (declaration.withValues namedValues).Valid) :
    ∃ environment, build (declaration.withValues namedValues) =
      .ok { catalog with environment := environment } := by
  obtain ⟨_, valid', _⟩ := exists_builtFrom built
  rw [build_of_valid valid'] at built
  obtain ⟨system, registered, built⟩ := Except.bind_ok built
  obtain ⟨bases, frozen, built⟩ := Except.bind_ok built
  obtain ⟨composites, made, built⟩ := Except.bind_ok built
  obtain ⟨environment, _, built⟩ := Except.bind_ok built
  cases built
  let units := declaration.simple.map Unit.simple ++ composites.map Unit.composite
  have names := names_of_units ((compositeUnits_ok_iff declaration.simple _ _).1 made)
  obtain ⟨entries, bound⟩ := exists_entries valid system names
  have values : bindAll system units .empty namedValues = .ok ⟨entries⟩ :=
    (bindAll_ok_iff system units .empty ⟨entries⟩ valid.valueNames).2 ⟨entries, rfl, bound⟩
  refine ⟨⟨entries⟩, ?_⟩
  -- Nothing that is made before the values are bound looks at the variables.
  rw [build_of_valid valid]
  change (registerAll _ declaration.simple _ declaration.quantities).bind _ = _
  rw [registered]
  change ((system.freeze Bases.empty.issue).mapError BuildError.freezing).bind _ = _
  rw [frozen]
  change (compositeUnits ⟨0⟩ declaration.simple declaration.composites).bind _ = _
  rw [made]
  change (bindAll system units .empty namedValues).bind _ = _
  rw [values]
  rfl

/-- A variable is bound to its number in the unit that is meant. -/
theorem BuiltFrom.find?_of_meant {declaration : Declaration}
    {composites : List (CompositeUnit Float)} {catalog : Catalog}
    (built : BuiltFrom declaration composites catalog) (valid : declaration.Valid)
    {declared : VariableDeclaration} (inside : declared ∈ declaration.namedValues)
    {unit : Unit Float}
    (meant : declared.unit? catalog.system.pureUnit catalog.unit? = some unit) :
    catalog.environment.find? declared.name = some (.of declared.value unit) :=
  (built.find?_eq_some_iff valid _ _).2 ⟨declared, inside, unit, meant, rfl⟩

/-- With its unit left out, a variable is a pure number in the same system. -/
theorem exists_omitted {declaration : Declaration} {catalog : Catalog}
    (built : build declaration = .ok catalog) {declared : VariableDeclaration}
    (inside : declared ∈ declaration.namedValues) :
    ∃ environment, build (declaration.omitting declared.name) =
        .ok { catalog with environment := environment } ∧
      environment.find? declared.name =
        some (.of declared.value (.simple catalog.system.pureUnit)) := by
  obtain ⟨_, valid, _⟩ := exists_builtFrom built
  have valid' := valid.omitting declared.name
  obtain ⟨environment, built'⟩ := build_withValues built valid'
  obtain ⟨_, _, made'⟩ := exists_builtFrom built'
  have listed : ({ declared with unit := none } : VariableDeclaration) ∈
      (declaration.omitting declared.name).namedValues :=
    List.mem_map.2 ⟨declared, inside, if_pos rfl⟩
  exact ⟨environment, built', made'.find?_of_meant valid' listed rfl⟩

/-- The name of the unit of pure numbers always refers to a unit, and to that of pure numbers unless
it is declared. It has no dimension and factor 1 exactly if what is declared under it has, and then
a variable that is given in it is bound as if its unit were left out. -/
theorem pure_name_of_build (declaration : Declaration) (catalog : Catalog)
    (built : build declaration = .ok catalog) :
    ∃ base unit, catalog.system.base catalog.bases = .ok base ∧
      catalog.unit? pureUnitName = some unit ∧
      (pureUnitName ∉ declaration.unitNames → unit = .simple catalog.system.pureUnit) ∧
      (IsPure base unit ↔ declaration.KeepsPureName) ∧
      ∀ declared ∈ declaration.namedValues, declared.unit = some pureUnitName →
        ∃ environment value omitted,
          build (declaration.omitting declared.name) =
            .ok { catalog with environment := environment } ∧
          catalog.environment.find? declared.name = some value ∧
          environment.find? declared.name = some omitted ∧
          value.number = declared.value ∧ omitted.number = declared.value ∧
          IsPure base omitted.unit ∧
          (value.unit.dimension? catalog.bases = omitted.unit.dimension? catalog.bases ∧
            value.unit.factor = omitted.unit.factor ↔ declaration.KeepsPureName) := by
  obtain ⟨composites, valid, made⟩ := exists_builtFrom built
  have realized := made.realizes valid
  obtain ⟨unit, found⟩ : ∃ unit, catalog.unit? pureUnitName = some unit :=
    exists_unitNamed? catalog.system (Or.inl rfl)
  have decided := made.isPure_iff valid found
  refine ⟨catalog.system.layout, unit, realized.frozen, found, ?_, decided, ?_⟩
  · intro undeclared
    have other := realized.other _ undeclared
    rw [if_pos rfl] at other
    exact Option.some.inj (found.symm.trans other)
  · intro declared inside given
    obtain ⟨environment, built', omitted⟩ := exists_omitted built inside
    let pure : Unit Float := .simple catalog.system.pureUnit
    have meant : declared.unit? catalog.system.pureUnit catalog.unit? = some unit := by
      rw [VariableDeclaration.unit?, given]
      exact found
    have bound := made.find?_of_meant valid inside meant
    have known := made.belongsTo_of_unit? valid found
    have measured := realized.dimension?_eq ((unit.isSome_dimensionIn?_iff _).2 known)
    have nothing := realized.dimension?_eq ((pure.isSome_dimensionIn?_iff _).2 made.pureBelongsTo)
    have whole := isPure_pureUnit catalog.system
    refine ⟨environment, _, _, built', bound, omitted, rfl, rfl, whole, ?_⟩
    rw [← decided, IsPure, ← whole.1, ← measured, ← nothing]
    exact Iff.rfl

/-- A metre over a metre, under the name of the unit of pure numbers. -/
def ratioAsPure : Declaration :=
  { logging := .standard,
    quantities := [⟨"Length", "metre"⟩],
    units := [⟨"metre", "m", [], "Length", 1.0⟩],
    composites := [⟨pureUnitName, "", [], ["metre"], ["metre"]⟩],
    namedValues := [⟨"x", 2.0, some pureUnitName⟩] }

theorem keepsPureName_ratioAsPure : ratioAsPure.KeepsPureName := by
  constructor
  · intro unit inside named
    rw [List.mem_singleton.1 inside] at named
    exact absurd named (by decide)
  · intro composite inside _
    rw [List.mem_singleton.1 inside]
    exact ⟨fun _ _ => rfl, by decide +kernel⟩

/-- There the name refers to the ratio, which is as good as a pure number. -/
theorem pure_name_of_ratio :
    ∃ catalog base unit value, build ratioAsPure = .ok catalog ∧
      catalog.system.base catalog.bases = .ok base ∧ catalog.unit? pureUnitName = some unit ∧
      IsPure base unit ∧ catalog.environment.find? "x" = some value ∧ value.number = 2.0 ∧
      value.unit.factor = 1.0 := by
  have succeeds : (build ratioAsPure).toOption.isSome = true := by decide +kernel
  cases outcome : build ratioAsPure with
  | error error =>
    rw [outcome] at succeeds
    cases succeeds
  | ok catalog =>
    obtain ⟨base, unit, frozen, found, _, decided, values⟩ :=
      pure_name_of_build ratioAsPure catalog outcome
    obtain ⟨_, value, omitted, _, bound, _, number, _, pure, same⟩ :=
      values _ (List.mem_singleton_self _) rfl
    exact ⟨catalog, base, unit, value, rfl, frozen, found, decided.2 keepsPureName_ratioAsPure,
      bound, number, (same.2 keepsPureName_ratioAsPure).2.trans pure.2⟩

/-- A thousand metres, under the name of the unit of pure numbers. -/
def lengthAsPure : Declaration :=
  { logging := .standard,
    quantities := [⟨"Length", "metre"⟩],
    units := [⟨"metre", "m", [], "Length", 1.0⟩, ⟨pureUnitName, "", [], "Length", 1000.0⟩],
    composites := [],
    namedValues := [⟨"x", 2.0, some pureUnitName⟩] }

/-- There the name refers to a unit of length, and the variable would be bound to another unit if
its own were left out. -/
theorem pure_name_of_length_differs :
    ∃ catalog environment base unit value omitted, build lengthAsPure = .ok catalog ∧
      build (lengthAsPure.omitting "x") = .ok { catalog with environment := environment } ∧
      catalog.system.base catalog.bases = .ok base ∧ catalog.unit? pureUnitName = some unit ∧
      unit.dimensionIn? base ≠ some (Dimension.zeros base.rank) ∧ unit.factor ≠ 1.0 ∧
      catalog.environment.find? "x" = some value ∧ environment.find? "x" = some omitted ∧
      value.unit.dimension? catalog.bases ≠ omitted.unit.dimension? catalog.bases ∧
      value.unit.factor ≠ omitted.unit.factor := by
  have succeeds : (build lengthAsPure).toOption.isSome = true := by decide +kernel
  cases outcome : build lengthAsPure with
  | error error =>
    rw [outcome] at succeeds
    cases succeeds
  | ok catalog =>
    obtain ⟨composites, valid, made⟩ := exists_builtFrom outcome
    have realized := made.realizes valid
    have declared : (⟨pureUnitName, "", [], "Length", 1000.0⟩ : UnitDeclaration) ∈
        lengthAsPure.units := List.mem_cons_of_mem _ (List.mem_singleton_self _)
    have variableDeclared : (⟨"x", 2.0, some pureUnitName⟩ : VariableDeclaration) ∈
        lengthAsPure.namedValues := List.mem_singleton_self _
    obtain ⟨own, found, described⟩ := realized.simple _ declared
    obtain ⟨environment, built', omitted⟩ := exists_omitted outcome variableDeclared
    have bound := made.find?_of_meant valid variableDeclared found
    have known := made.belongsTo_of_unit? valid found
    have factor : (Unit.simple own).factor ≠ 1.0 := by
      rw [Unit.factor, described.factor]
      decide +kernel
    have whole := isPure_pureUnit catalog.system
    have dimension : (Unit.simple own).dimensionIn? catalog.system.layout ≠
        some (Dimension.zeros catalog.system.layout.rank) := by
      rw [Ne, known.dimensionIn?_eq_zeros_iff]
      intro zero
      have one := zero ⟨"Length"⟩ (by decide)
      simp [Unit.netCount, Unit.allMembers, measuring, described.quantity] at one
    have measured :=
      realized.dimension?_eq (((Unit.simple own).isSome_dimensionIn?_iff _).2 known)
    have nothing := realized.dimension?_eq ((Unit.isSome_dimensionIn?_iff _ _).2 made.pureBelongsTo)
    refine ⟨catalog, environment, _, _, _, _, rfl, built', realized.frozen, found, dimension,
      factor, bound, omitted, ?_, factor⟩
    intro same
    exact dimension (measured.symm.trans (same.trans (nothing.trans whole.1)))

end Catalog

end Dimensional
