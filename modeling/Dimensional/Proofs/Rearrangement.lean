import Mathlib.Data.List.NodupEquivFin
import Dimensional.Proofs.Alike
import Dimensional.Proofs.BuiltCatalog

/-!
The order of a declaration. Entries of a declaration may change places: what is built is alike, with
other serial numbers and another order of quantities, and so it gives the same answers. Only the
slots of a dimension move, and they move in the same way in all answers.
-/

set_option autoImplicit false

namespace Dimensional

/-- The dimension after its slots have moved. -/
structure Dimension.MovesTo {rank : Nat} (slots : Equiv.Perm (Fin rank))
    (before after : Dimension) : Prop where
  size : before.size = rank
  moved_size : after.size = rank
  moved : ∀ slot, after.component (slots slot) = before.component slot

/-- Items that are listed in another order are found again at other places. -/
theorem exists_slots_of_perm {β : Type} [DecidableEq β] {items shuffled : List β}
    (distinct : items.Nodup) (moved : items.Perm shuffled) :
    ∃ slots : Equiv.Perm (Fin items.length), ∀ slot : Fin items.length,
      shuffled[(slots slot).val]? = items[slot.val]? := by
  let place := List.Nodup.getEquiv items distinct
  let place' := List.Nodup.getEquiv shuffled (moved.nodup_iff.1 distinct)
  refine ⟨place.trans ((Equiv.subtypeEquivRight fun _ => moved.mem_iff).trans
    (place'.symm.trans (finCongr moved.length_eq.symm))), ?_⟩
  intro slot
  have back := place'.apply_symm_apply ⟨(place slot).1, moved.mem_iff.1 (place slot).2⟩
  rw [List.getElem?_eq_getElem slot.2]
  exact (List.getElem?_eq_getElem (place'.symm _).2).trans
    (congrArg some (congrArg Subtype.val back))

/-- Where the slots of a base lie in a base with the same quantities. -/
def Base.Places (base shuffled : Base) (slots : Equiv.Perm (Fin base.rank)) : Prop :=
  ∀ slot : Fin base.rank,
    (axes shuffled.quantities)[(slots slot).val]? = (axes base.quantities)[slot.val]?

theorem Base.Shuffles.axes_perm {base shuffled : Base} (shuffles : base.Shuffles shuffled) :
    (axes base.quantities).Perm (axes shuffled.quantities) :=
  shuffles.quantities.filter _

theorem Base.Shuffles.exists_slots {base shuffled : Base} (shuffles : base.Shuffles shuffled) :
    ∃ slots, base.Places shuffled slots :=
  exists_slots_of_perm (base.registry.distinct.filter _) shuffles.axes_perm

/-- Alike units have the same exponents, each in the slots of its own base. -/
theorem Unit.movesTo_of_places {α : Type} {base shuffled : Base} {a b : Unit α}
    {before after : Dimension} (shuffles : base.Shuffles shuffled)
    {slots : Equiv.Perm (Fin base.rank)} (places : base.Places shuffled slots)
    (alike : a.unmarked = b.unmarked) (known : a.dimensionIn? base = some before)
    (known' : b.dimensionIn? shuffled = some after) : before.MovesTo slots after := by
  have ranks : shuffled.rank = base.rank := shuffles.axes_perm.length_eq.symm
  refine ⟨size_of_dimensionIn? known, (size_of_dimensionIn? known').trans ranks, ?_⟩
  intro slot
  have axis := List.getElem?_eq_getElem (l := Base.axes base.quantities) slot.2
  have axis' := (places slot).trans axis
  rw [component_of_axis known axis, component_of_axis known' axis',
    congr_unmarked (netCount_unmarked _) alike]

/-- Sorting by distinct names undoes any shuffling. -/
theorem mergeSort_eq_of_perm {β : Type} {entries shuffled : List (String × β)}
    (distinct : (entries.map (·.1)).Nodup) (shuffles : entries.Perm shuffled) :
    (entries.mergeSort fun a b => !decide (b.1 < a.1)) =
      shuffled.mergeSort fun a b => !decide (b.1 < a.1) := by
  have test : ∀ a b : String × β, (!decide (b.1 < a.1)) = true ↔ a.1 ≤ b.1 := by
    intro a b
    rw [Bool.not_eq_true', decide_eq_false_iff_not, String.not_lt]
  have sorted : ∀ entries : List (String × β),
      (entries.mergeSort fun a b => !decide (b.1 < a.1)).Pairwise
        fun a b => (!decide (b.1 < a.1)) = true := by
    refine List.pairwise_mergeSort ?_ ?_
    · intro a b c first second
      rw [test] at first second ⊢
      exact String.le_trans first second
    · intro a b
      rw [Bool.or_eq_true, test, test]
      exact String.le_total a.1 b.1
  have moved := (List.mergeSort_perm entries fun a b => !decide (b.1 < a.1)).trans
    (shuffles.trans (List.mergeSort_perm shuffled fun a b => !decide (b.1 < a.1)).symm)
  refine List.Perm.eq_of_pairwise ?_ (sorted entries) (sorted shuffled) moved
  intro a b insideA insideB before after
  have listedA : a ∈ entries := (List.mergeSort_perm entries _).mem_iff.1 insideA
  have listedB : b ∈ entries :=
    shuffles.mem_iff.2 ((List.mergeSort_perm shuffled _).mem_iff.1 insideB)
  have names := String.le_antisymm ((test a b).1 before) ((test b a).1 after)
  exact List.inj_on_of_nodup_map distinct listedA listedB names

namespace Catalog

/-- The same entries, in any order. The members of a composite unit keep their places. -/
structure Declaration.Rearranges (declaration rearranged : Declaration) : Prop where
  quantities : declaration.quantities.Perm rearranged.quantities
  units : declaration.units.Perm rearranged.units
  composites : declaration.composites.Perm rearranged.composites
  namedValues : declaration.namedValues.Perm rearranged.namedValues

namespace Declaration.Rearranges

variable {declaration rearranged : Declaration}

theorem symm (rearranges : declaration.Rearranges rearranged) :
    rearranged.Rearranges declaration :=
  ⟨rearranges.quantities.symm, rearranges.units.symm, rearranges.composites.symm,
    rearranges.namedValues.symm⟩

theorem unitNames (rearranges : declaration.Rearranges rearranged) :
    declaration.unitNames.Perm rearranged.unitNames :=
  (rearranges.units.map _).append (rearranges.composites.map _)

theorem simpleNames (rearranges : declaration.Rearranges rearranged) :
    declaration.simpleNames.Perm rearranged.simpleNames :=
  rearranges.units.map _

theorem quantityNames (rearranges : declaration.Rearranges rearranged) :
    declaration.quantityNames.Perm rearranged.quantityNames :=
  rearranges.quantities.map _

theorem wellFormed (rearranges : declaration.Rearranges rearranged)
    (formed : declaration.WellFormed) : rearranged.WellFormed where
  unitNames := rearranges.unitNames.nodup_iff.1 formed.unitNames
  quantityNames := rearranges.quantityNames.nodup_iff.1 formed.quantityNames
  defaultUnits := by
    intro quantity inside
    rw [← rearranges.simpleNames.mem_iff]
    exact formed.defaultUnits quantity (rearranges.quantities.mem_iff.2 inside)
  measured := by
    intro unit inside
    rw [← rearranges.quantityNames.mem_iff]
    exact formed.measured unit (rearranges.units.mem_iff.2 inside)
  factors := by
    intro unit inside
    exact formed.factors unit (rearranges.units.mem_iff.2 inside)
  members := by
    intro composite inside member listed
    rw [← rearranges.simpleNames.mem_iff]
    exact formed.members composite (rearranges.composites.mem_iff.2 inside) member listed
  valueNames := (rearranges.namedValues.map _).nodup_iff.1 formed.valueNames
  valueUnits := by
    intro declared inside unit named
    rw [← rearranges.unitNames.mem_iff]
    exact formed.valueUnits declared (rearranges.namedValues.mem_iff.2 inside) unit named
  measures := by
    intro quantity inside unit place named
    exact formed.measures quantity (rearranges.quantities.mem_iff.2 inside) unit
      (rearranges.units.mem_iff.2 place) named

end Declaration.Rearranges

theorem UnitDeclaration.Describes.unmarked_eq {declared : UnitDeclaration}
    {unit other : SimpleUnit Float} (described : declared.Describes unit)
    (described' : declared.Describes other) : unit.unmarked = other.unmarked := by
  simp only [SimpleUnit.unmarked, described.name, described.symbol, described.synonyms,
    described.quantity, described.factor, described.generation, described'.name,
    described'.symbol, described'.synonyms, described'.quantity, described'.factor,
    described'.generation]

section Members

variable {named? others? : String → Option (SimpleUnit Float)}

theorem map_unmarked_members
    (alike : ∀ name, (named? name).map SimpleUnit.unmarked =
      (others? name).map SimpleUnit.unmarked)
    {names : List String} {units others : List (SimpleUnit Float)}
    (found : List.Forall₂ (fun name unit => named? name = some unit) names units)
    (found' : List.Forall₂ (fun name unit => others? name = some unit) names others) :
    units.map SimpleUnit.unmarked = others.map SimpleUnit.unmarked := by
  induction found generalizing others with
  | nil =>
    cases found'
    rfl
  | @cons name unit _ _ first _ ih =>
    cases found' with
    | cons first' rest' =>
      have same := alike name
      rw [first, first'] at same
      rw [List.map_cons, List.map_cons, Option.some.inj same, ih rest']

/-- Alike members make alike units. -/
theorem CompositeDeclaration.Describes.unmarked_eq
    (alike : ∀ name, (named? name).map SimpleUnit.unmarked =
      (others? name).map SimpleUnit.unmarked)
    {declared : CompositeDeclaration} {unit other : CompositeUnit Float}
    (described : declared.Describes named? unit) (described' : declared.Describes others? other) :
    (Unit.composite unit).unmarked = (Unit.composite other).unmarked := by
  simp only [Unit.unmarked, map_unmarked_members alike described.dividend described'.dividend,
    map_unmarked_members alike described.divisor described'.divisor, described.name,
    described.symbol, described.synonyms, described.generation, described'.name,
    described'.symbol, described'.synonyms, described'.generation]

end Members

/-- Catalogs with alike units and values under the same names, over alike bases. -/
structure Alike (first second : Catalog) : Prop where
  generation : first.system.generation = second.system.generation
  bases : first.bases.Shuffles second.bases
  units : ∀ name, (first.unit? name).map Unit.unmarked = (second.unit? name).map Unit.unmarked
  values : ∀ name, (first.environment.find? name).map Formula.Value.unmarked =
    (second.environment.find? name).map Formula.Value.unmarked

section Rearranged

variable {declaration rearranged : Declaration}
  {composites composites' : List (CompositeUnit Float)} {first second : Catalog} {base base' : Base}

theorem map_unmarked_pureUnit (same : first.system.generation = second.system.generation) :
    (Unit.simple first.system.pureUnit).unmarked =
      (Unit.simple second.system.pureUnit).unmarked := by
  rw [QuantitySystem.pureUnit, QuantitySystem.pureUnit, same]
  rfl

/-- Every name means a simple unit, a composite one, or what it means without a declaration. -/
theorem name_cases (declaration : Declaration) (name : String) :
    (∃ declared ∈ declaration.units, declared.name = name) ∨
      (∃ declared ∈ declaration.composites, declared.name = name) ∨
        name ∉ declaration.unitNames := by
  by_cases listed : name ∈ declaration.unitNames
  · rcases List.mem_append.1 listed with simple | composite
    · exact Or.inl (List.mem_map.1 simple)
    · exact Or.inr (Or.inl (List.mem_map.1 composite))
  · exact Or.inr (Or.inr listed)

theorem map_unmarked_simpleUnit? (rearranges : declaration.Rearranges rearranged)
    (same : first.system.generation = second.system.generation)
    (realized : first.Realizes declaration base) (realized' : second.Realizes rearranged base')
    (name : String) :
    (first.simpleUnit? name).map SimpleUnit.unmarked =
      (second.simpleUnit? name).map SimpleUnit.unmarked := by
  rcases name_cases declaration name with ⟨declared, inside, rfl⟩ | ⟨declared, inside, rfl⟩ | other
  · obtain ⟨unit, found, described⟩ := realized.simple declared inside
    obtain ⟨unit', found', described'⟩ :=
      realized'.simple declared (rearranges.units.mem_iff.1 inside)
    rw [simpleUnit?, simpleUnit?, found, found']
    exact congrArg some (described.unmarked_eq described')
  · obtain ⟨unit, found, _⟩ := realized.composite declared inside
    obtain ⟨unit', found', _⟩ :=
      realized'.composite declared (rearranges.composites.mem_iff.1 inside)
    rw [simpleUnit?, simpleUnit?, found, found']
  · have other' : name ∉ rearranged.unitNames := by rwa [← rearranges.unitNames.mem_iff]
    rw [simpleUnit?, simpleUnit?, realized.other name other, realized'.other name other']
    by_cases pure : name = pureUnitName
    · rw [if_pos pure, if_pos pure]
      exact congrArg some (Unit.simple.inj (map_unmarked_pureUnit same))
    · rw [if_neg pure, if_neg pure]

theorem map_unmarked_unit? (rearranges : declaration.Rearranges rearranged)
    (same : first.system.generation = second.system.generation)
    (realized : first.Realizes declaration base) (realized' : second.Realizes rearranged base')
    (name : String) :
    (first.unit? name).map Unit.unmarked = (second.unit? name).map Unit.unmarked := by
  have members := map_unmarked_simpleUnit? rearranges same realized realized'
  rcases name_cases declaration name with ⟨declared, inside, rfl⟩ | ⟨declared, inside, rfl⟩ | other
  · obtain ⟨unit, found, described⟩ := realized.simple declared inside
    obtain ⟨unit', found', described'⟩ :=
      realized'.simple declared (rearranges.units.mem_iff.1 inside)
    rw [found, found']
    exact congrArg (some ∘ Unit.simple) (described.unmarked_eq described')
  · obtain ⟨unit, found, described⟩ := realized.composite declared inside
    obtain ⟨unit', found', described'⟩ :=
      realized'.composite declared (rearranges.composites.mem_iff.1 inside)
    rw [found, found']
    exact congrArg some (described.unmarked_eq members described')
  · have other' : name ∉ rearranged.unitNames := by rwa [← rearranges.unitNames.mem_iff]
    rw [realized.other name other, realized'.other name other']
    split
    · exact congrArg some (map_unmarked_pureUnit same)
    · rfl

theorem map_unmarked_declared
    (same : first.system.generation = second.system.generation)
    (units : ∀ name, (first.unit? name).map Unit.unmarked = (second.unit? name).map Unit.unmarked)
    (declared : VariableDeclaration) :
    (declared.unit? first.system.pureUnit first.unit?).map Unit.unmarked =
      (declared.unit? second.system.pureUnit second.unit?).map Unit.unmarked := by
  rw [VariableDeclaration.unit?, VariableDeclaration.unit?]
  cases declared.unit with
  | none => exact congrArg some (map_unmarked_pureUnit same)
  | some name => exact units name

/-- What one catalog binds, the other one binds to an alike value. -/
theorem exists_alike_value (rearranges : declaration.Rearranges rearranged)
    (same : first.system.generation = second.system.generation)
    (units : ∀ name, (first.unit? name).map Unit.unmarked = (second.unit? name).map Unit.unmarked)
    (realized : first.Realizes declaration base) (realized' : second.Realizes rearranged base')
    {name : String} {value : Formula.Value Float}
    (found : first.environment.find? name = some value) :
    ∃ value', second.environment.find? name = some value' ∧
      value.unmarked = value'.unmarked := by
  obtain ⟨declared, inside, unit, meant, bound⟩ := (realized.values name value).1 found
  have alike := map_unmarked_declared same units declared
  rw [meant] at alike
  obtain ⟨unit', meant', sameUnit⟩ := Option.map_eq_some_iff.1 alike.symm
  cases bound
  refine ⟨Formula.Value.of declared.value unit', ?_, ?_⟩
  · exact (realized'.values _ _).2
      ⟨declared, rearranges.namedValues.mem_iff.1 inside, unit', meant', rfl⟩
  · exact (Formula.Value.unmarked_eq_iff _ _).2 ⟨rfl, sameUnit.symm, rfl⟩

theorem map_unmarked_find? (rearranges : declaration.Rearranges rearranged)
    (same : first.system.generation = second.system.generation)
    (units : ∀ name, (first.unit? name).map Unit.unmarked = (second.unit? name).map Unit.unmarked)
    (realized : first.Realizes declaration base) (realized' : second.Realizes rearranged base')
    (name : String) :
    (first.environment.find? name).map Formula.Value.unmarked =
      (second.environment.find? name).map Formula.Value.unmarked := by
  cases found : first.environment.find? name with
  | some value =>
    obtain ⟨value', found', alike⟩ :=
      exists_alike_value rearranges same units realized realized' found
    rw [found']
    exact congrArg some alike
  | none =>
    cases found' : second.environment.find? name with
    | none => rfl
    | some value' =>
      obtain ⟨value, present, _⟩ := exists_alike_value rearranges.symm same.symm
        (fun name => (units name).symm) realized' realized found'
      rw [found] at present
      cases present

/-- Both bases list the same quantities, each in the order of its declaration. -/
theorem layout_shuffles (rearranges : declaration.Rearranges rearranged)
    (made : BuiltFrom declaration composites first)
    (made' : BuiltFrom rearranged composites' second) :
    first.system.layout.Shuffles second.system.layout := by
  refine ⟨made.generation.trans made'.generation.symm, ?_⟩
  refine (List.perm_ext_iff_of_nodup first.system.layout.registry.distinct
    second.system.layout.registry.distinct).2 ?_
  intro quantity
  change quantity ∈ first.system.layout.quantities ↔ quantity ∈ second.system.layout.quantities
  rw [made.mem_quantities, made'.mem_quantities, rearranges.quantityNames.mem_iff]

theorem bases_shuffles (rearranges : declaration.Rearranges rearranged)
    (made : BuiltFrom declaration composites first)
    (made' : BuiltFrom rearranged composites' second) :
    first.bases.Shuffles second.bases := by
  intro generation
  by_cases own : generation = ⟨0⟩
  · have frozen := made.frozen
    have frozen' := made'.frozen
    rw [QuantitySystem.base?, made.generation, ← own] at frozen
    rw [QuantitySystem.base?, made'.generation, ← own] at frozen'
    rw [frozen, frozen']
    exact .some (layout_shuffles rearranges made made')
  · have foreign : generation ≠ first.system.layout.generation :=
      fun same => own (same.trans made.generation)
    have foreign' : generation ≠ second.system.layout.generation :=
      fun same => own (same.trans made'.generation)
    rw [made.bases, made'.bases, Bases.base?_freeze_other _ _ _ foreign,
      Bases.base?_freeze_other _ _ _ foreign', Bases.base?_issue, Bases.base?_empty]
    exact .none

/-- Catalogs of the same entries are alike. -/
theorem alike_of_rearranges (rearranges : declaration.Rearranges rearranged)
    (made : BuiltFrom declaration composites first)
    (made' : BuiltFrom rearranged composites' second) (valid : declaration.Valid)
    (valid' : rearranged.Valid) : first.Alike second := by
  have same := made.generation.trans made'.generation.symm
  have realized := made.realizes valid
  have realized' := made'.realizes valid'
  have units := map_unmarked_unit? rearranges same realized realized'
  exact ⟨same, bases_shuffles rearranges made made', units,
    map_unmarked_find? rearranges same units realized realized'⟩

end Rearranged

/-- A result with a dimension, as the object that is printed. -/
def evalRecord (expression : String) (number : Float) (name symbol : String)
    (dimension : Dimension) : Json :=
  .object
    [("expression", .text expression), ("value", .number number), ("unit", .text name),
     ("symbol", .text symbol), ("dimension", .array (dimension.exponents.map .integer))]

/-- The same error, or the same object but for the places of the slots in its dimension. -/
inductive SameButSlots {rank : Nat} (slots : Equiv.Perm (Fin rank)) :
    Except CommandError String → Except CommandError String → Prop where
  | error (error : CommandError) : SameButSlots slots (.error error) (.error error)
  | ok (expression : String) (number : Float) (name symbol : String) (before after : Dimension)
      (moved : before.MovesTo slots after) :
      SameButSlots slots
        (.ok ((evalRecord expression number name symbol before).pretty 0 ++ "\n"))
        (.ok ((evalRecord expression number name symbol after).pretty 0 ++ "\n"))

theorem evalText_of_dimension? {catalog : Catalog} {expression : String} {target : Option String}
    {number : Float} {unit : Unit Float} {dimension : Dimension}
    (computed : catalog.evaluated expression target = .ok (number, unit))
    (known : unit.dimension? catalog.bases = some dimension) :
    catalog.evalText expression target true =
      .ok ((evalRecord expression number unit.name unit.symbol dimension).pretty 0 ++ "\n") := by
  have object : catalog.evalJson expression number unit =
      evalRecord expression number unit.name unit.symbol dimension := by
    rw [evalJson, known]
    rfl
  rw [evalText, computed, ← object]
  rfl

theorem BuiltFrom.known_of_evaluated {declaration : Declaration}
    {composites : List (CompositeUnit Float)} {catalog : Catalog}
    (made : BuiltFrom declaration composites catalog) (valid : declaration.Valid)
    {expression : String} {target : Option String} {number : Float} {unit : Unit Float}
    (computed : catalog.evaluated expression target = .ok (number, unit)) :
    (unit.dimensionIn? catalog.system.layout).isSome = true := by
  rw [evaluated_eq made.frozen] at computed
  cases target with
  | none =>
    obtain ⟨value, returned, same⟩ := Except.bind_ok computed
    cases same
    exact Formula.known_of_evaluate made.frozen (made.realizes valid).valueUnits
      (Except.mapError_ok returned)
  | some name =>
    obtain ⟨meant, required, returned⟩ := Except.bind_ok computed
    obtain ⟨_, _, same⟩ := Except.bind_ok returned
    cases same
    unfold requireUnit at required
    split at required
    · next found =>
      cases required
      exact (unit.isSome_dimensionIn?_iff _).2
        (unit_of_unit? (fun _ => made.belongsTo valid) made.pureBelongsTo found)
    · cases required

/-- An entry without the serial numbers in its value. -/
def unmarkedEntry (entry : String × Formula.Value Float) : String × Formula.Value Float :=
  (entry.1, entry.2.unmarked)

theorem nodup_unmarkedEntry {bindings : List (String × Formula.Value Float)}
    (distinct : (bindings.map (·.1)).Nodup) : (bindings.map unmarkedEntry).Nodup := by
  apply List.Nodup.of_map (·.1)
  rw [List.map_map]
  exact distinct

theorem mem_unmarkedEntry_iff {environment : Formula.Environment Float}
    (distinct : (environment.bindings.map (·.1)).Nodup) (name : String)
    (value : Formula.Value Float) :
    (name, value) ∈ environment.bindings.map unmarkedEntry ↔
      (environment.find? name).map Formula.Value.unmarked = some value := by
  rw [List.mem_map, Option.map_eq_some_iff]
  constructor
  · rintro ⟨⟨name, known⟩, inside, ⟨⟩⟩
    exact ⟨known, (Formula.Environment.find?_eq_some_iff distinct name known).2 inside, rfl⟩
  · rintro ⟨known, found, rfl⟩
    exact ⟨(name, known), (Formula.Environment.find?_eq_some_iff distinct name known).1 found, rfl⟩

/-- The line of a variable. -/
def line (entry : String × Formula.Value Float) : String :=
  entry.1 ++ " = " ++ entry.2.text ++ "\n"

theorem line_unmarkedEntry (entry : String × Formula.Value Float) :
    line (unmarkedEntry entry) = line entry := by
  simp only [line, unmarkedEntry, Formula.Value.text, Formula.Value.unmarked, Unit.unmarked_label]

/-- Serial numbers are neither sorted by nor printed. -/
theorem variablesText_eq_unmarked (catalog : Catalog) :
    catalog.variablesText = String.join
      (((catalog.environment.bindings.map unmarkedEntry).mergeSort
        fun a b => !decide (b.1 < a.1)).map line) := by
  have sorted : (catalog.environment.bindings.mergeSort fun a b => !decide (b.1 < a.1)).map
      unmarkedEntry = (catalog.environment.bindings.map unmarkedEntry).mergeSort
        fun a b => !decide (b.1 < a.1) := List.map_mergeSort fun _ _ _ _ => rfl
  rw [← sorted, List.map_map]
  exact congrArg String.join (List.map_congr_left fun entry _ => (line_unmarkedEntry entry).symm)

namespace Alike

variable {first second : Catalog} {base base' : Base}

theorem context (alike : first.Alike second) : first.context.Alike second.context :=
  ⟨alike.bases, alike.generation, alike.values, rfl⟩

theorem requireUnit (alike : first.Alike second) (name : String) :
    (first.requireUnit name).map Unit.unmarked = (second.requireUnit name).map Unit.unmarked := by
  have units := alike.units name
  rw [Catalog.requireUnit, Catalog.requireUnit]
  cases found : first.unit? name with
  | none =>
    rw [found] at units
    rw [Option.map_eq_none_iff.1 units.symm]
  | some unit =>
    rw [found] at units
    obtain ⟨unit', found', same⟩ := Option.map_eq_some_iff.1 units.symm
    rw [found']
    exact congrArg Except.ok same.symm

/-- Alike catalogs come to the same number in alike units, or to the same error. -/
theorem evaluated (alike : first.Alike second)
    (frozen : first.system.base? first.bases = some base)
    (frozen' : second.system.base? second.bases = some base') (expression : String)
    (target : Option String) :
    (first.evaluated expression target).map (fun result => (result.1, result.2.unmarked)) =
      (second.evaluated expression target).map fun result => (result.1, result.2.unmarked) := by
  rw [evaluated_eq frozen, evaluated_eq frozen']
  cases target with
  | none =>
    have outcomes := Formula.map_unmarked_evaluate alike.context expression
    refine Except.map_bind_congr (Except.mapError_congr outcomes _) ?_
    intro value value' same
    obtain ⟨number, unit, _⟩ := (value.unmarked_eq_iff value').1 same
    simp only [Except.map, number, unit]
  | some name =>
    refine Except.map_bind_congr (alike.requireUnit name) ?_
    intro unit unit' same
    rw [Formula.evaluateAs_eq alike.context expression same]
    refine Except.map_bind_congr (congrArg (Except.map id) rfl) ?_
    rintro number _ rfl
    simp only [Except.map, id_eq, same]

theorem evalText_eq (alike : first.Alike second)
    (frozen : first.system.base? first.bases = some base)
    (frozen' : second.system.base? second.bases = some base') (expression : String)
    (target : Option String) :
    first.evalText expression target false = second.evalText expression target false := by
  refine Except.bind_congr (alike.evaluated frozen frozen' expression target) ?_
  rintro ⟨number, unit⟩ ⟨number', unit'⟩ same
  obtain ⟨rfl, sameUnit⟩ := Prod.mk.inj same
  have label := Unit.congr_unmarked Unit.unmarked_label sameUnit
  simp only [Bool.false_eq_true, ↓reduceIte, label]

theorem convertText_eq (alike : first.Alike second) (source target : String) :
    first.convertText source target = second.convertText source target := by
  refine Except.bind_congr (alike.requireUnit source) ?_
  intro unit unit' same
  refine Except.bind_congr (alike.requireUnit target) ?_
  intro wanted wanted' same'
  have factor := alike.bases.conversionTo_eq same same'
  have name := Unit.congr_unmarked Unit.unmarked_name same
  have name' := Unit.congr_unmarked Unit.unmarked_name same'
  simp only [factor, name, name']

/-- Bindings with unique names are known by what is found under each name. -/
theorem bindings_perm (alike : first.Alike second)
    (distinct : (first.environment.bindings.map (·.1)).Nodup)
    (distinct' : (second.environment.bindings.map (·.1)).Nodup) :
    (first.environment.bindings.map unmarkedEntry).Perm
      (second.environment.bindings.map unmarkedEntry) := by
  refine (List.perm_ext_iff_of_nodup (nodup_unmarkedEntry distinct)
    (nodup_unmarkedEntry distinct')).2 ?_
  rintro ⟨name, value⟩
  rw [mem_unmarkedEntry_iff distinct, mem_unmarkedEntry_iff distinct', alike.values]

theorem variablesText_eq (alike : first.Alike second)
    (distinct : (first.environment.bindings.map (·.1)).Nodup)
    (distinct' : (second.environment.bindings.map (·.1)).Nodup) :
    first.variablesText = second.variablesText := by
  have names : ((first.environment.bindings.map unmarkedEntry).map (·.1)).Nodup := by
    rw [List.map_map]
    exact distinct
  rw [variablesText_eq_unmarked, variablesText_eq_unmarked,
    mergeSort_eq_of_perm names (alike.bindings_perm distinct distinct')]

end Alike

theorem Alike.sameButSlots {declaration rearranged : Declaration}
    {composites composites' : List (CompositeUnit Float)} {first second : Catalog}
    (alike : first.Alike second) (made : BuiltFrom declaration composites first)
    (made' : BuiltFrom rearranged composites' second) (valid : declaration.Valid)
    (valid' : rearranged.Valid)
    (shuffles : first.system.layout.Shuffles second.system.layout)
    {slots : Equiv.Perm (Fin first.system.layout.rank)}
    (places : first.system.layout.Places second.system.layout slots)
    (expression : String) (target : Option String) :
    SameButSlots slots (first.evalText expression target true)
      (second.evalText expression target true) := by
  rcases Except.map_eq_map (alike.evaluated made.frozen made'.frozen expression target) with
    ⟨error, failed, failed'⟩ | ⟨⟨number, unit⟩, ⟨number', unit'⟩, computed, computed', same⟩
  · rw [evalText, evalText, failed, failed']
    exact .error error
  · obtain ⟨rfl, sameUnit⟩ := Prod.mk.inj same
    have known := made.known_of_evaluated valid computed
    have known' := made'.known_of_evaluated valid' computed'
    obtain ⟨before, measured⟩ := Option.isSome_iff_exists.1 known
    obtain ⟨after, measured'⟩ := Option.isSome_iff_exists.1 known'
    have name := Unit.congr_unmarked Unit.unmarked_name sameUnit
    have symbol := Unit.congr_unmarked Unit.unmarked_symbol sameUnit
    have shown := (made.realizes valid).dimension?_eq known
    have shown' := (made'.realizes valid').dimension?_eq known'
    rw [evalText_of_dimension? computed (shown.trans measured),
      evalText_of_dimension? computed' (shown'.trans measured'), name, symbol]
    exact .ok _ _ _ _ _ _ (Unit.movesTo_of_places shuffles places sameUnit measured measured')

/-- The order of the declaration does not matter. If its entries change places, a catalog is built
as before or not, and all answers are as before, errors included; only the slots of dimensions move,
in all answers in the same way. -/
theorem answers_of_rearranged {declaration rearranged : Declaration}
    (rearranges : declaration.Rearranges rearranged) :
    ((∃ catalog, build declaration = .ok catalog) ↔
      ∃ catalog, build rearranged = .ok catalog) ∧
    ∀ first second, build declaration = .ok first → build rearranged = .ok second →
      (∀ expression target, first.run (.eval expression target false) =
        second.run (.eval expression target false)) ∧
      (∀ source target, first.run (.convert source target) =
        second.run (.convert source target)) ∧
      first.run .listVariables = second.run .listVariables ∧
      ∃ (base base' : Base) (slots : Equiv.Perm (Fin base.rank)),
        first.system.base first.bases = .ok base ∧
        second.system.base second.bases = .ok base' ∧ base.Places base' slots ∧
        ∀ expression target, SameButSlots slots (first.run (.eval expression target true))
          (second.run (.eval expression target true)) := by
  refine ⟨?_, ?_⟩
  · rw [exists_build_iff, exists_build_iff]
    exact ⟨rearranges.wellFormed, rearranges.symm.wellFormed⟩
  intro first second built built'
  obtain ⟨composites, valid, made⟩ := exists_builtFrom built
  obtain ⟨composites', valid', made'⟩ := exists_builtFrom built'
  have alike := alike_of_rearranges rearranges made made' valid valid'
  have shuffles := layout_shuffles rearranges made made'
  obtain ⟨slots, places⟩ := shuffles.exists_slots
  refine ⟨?_, ?_, ?_, _, _, slots, (made.realizes valid).frozen, (made'.realizes valid').frozen,
    places, ?_⟩
  · intro expression target
    exact alike.evalText_eq made.frozen made'.frozen expression target
  · exact alike.convertText_eq
  · exact congrArg Except.ok
      (alike.variablesText_eq (made.bindings_names valid) (made'.bindings_names valid'))
  · intro expression target
    exact alike.sameButSlots made made' valid valid' shuffles places expression target

/-- A declaration of speeds, with everything in it the other way round. -/
theorem answers_of_reversed_speeds :
    let metre : UnitDeclaration := ⟨"metre", "m", [], "Length", 1.0⟩
    let mile : UnitDeclaration := ⟨"mile", "mi", [], "Length", 1609.344⟩
    let hour : UnitDeclaration := ⟨"hour", "h", [], "Time", 1.0⟩
    let pace : CompositeDeclaration := ⟨"pace", "", [], ["hour"], ["mile"]⟩
    let speed : CompositeDeclaration := ⟨"speed", "mph", [], ["mile"], ["hour"]⟩
    let declaration : Declaration :=
      { logging := .standard, quantities := [⟨"Length", "metre"⟩, ⟨"Time", "hour"⟩],
        units := [metre, mile, hour], composites := [pace, speed],
        namedValues := [⟨"way", 6.0, some "mile"⟩, ⟨"delay", 2.0, some "hour"⟩] }
    let reversed : Declaration :=
      { logging := .standard, quantities := [⟨"Time", "hour"⟩, ⟨"Length", "metre"⟩],
        units := [hour, mile, metre], composites := [speed, pace],
        namedValues := [⟨"delay", 2.0, some "hour"⟩, ⟨"way", 6.0, some "mile"⟩] }
    declaration.Rearranges reversed ∧
      ∃ first second, build declaration = .ok first ∧ build reversed = .ok second ∧
        first.run (.eval "way / delay" (some "speed") false) =
          second.run (.eval "way / delay" (some "speed") false) ∧
        first.run (.convert "pace" "speed") = second.run (.convert "pace" "speed") ∧
        first.run .listVariables = second.run .listVariables ∧
        ∃ (base base' : Base) (slots : Equiv.Perm (Fin base.rank)),
          base.Places base' slots ∧
          ∀ expression target, SameButSlots slots (first.run (.eval expression target true))
            (second.run (.eval expression target true)) := by
  intro metre mile hour pace speed declaration reversed
  have rearranges : declaration.Rearranges reversed :=
    ⟨.swap _ _ _, List.reverse_perm [hour, mile, metre], .swap _ _ _, .swap _ _ _⟩
  obtain ⟨builds, answers⟩ := answers_of_rearranged rearranges
  have succeeds : (build declaration).toOption.isSome = true := by decide +kernel
  cases outcome : build declaration with
  | error error =>
    rw [outcome] at succeeds
    cases succeeds
  | ok first =>
    obtain ⟨second, outcome'⟩ := builds.1 ⟨first, outcome⟩
    obtain ⟨texts, conversions, listed, base, base', slots, _, _, places, moved⟩ :=
      answers first second outcome outcome'
    exact ⟨rearranges, first, second, rfl, outcome', texts _ _, conversions _ _, listed, base,
      base', slots, places, moved⟩

end Catalog

end Dimensional
