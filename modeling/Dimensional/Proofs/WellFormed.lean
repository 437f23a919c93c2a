import Dimensional.Catalog.Defect

/-!
Well-formed declarations. A declaration without defects is one whose names are unique, whose factors
are positive and whose references lead to what is declared. To be well formed, the default unit of
each quantity must measure this quantity, too; that is no defect, but is found when the quantity is
registered.
-/

set_option autoImplicit false

namespace Dimensional.Catalog

section Factor

open Float.Model

theorem unpack_zero : (0 : Float).toModel.unpack = .zero .positive := rfl

/-- Finite doubles are ordered against zero. -/
theorem pos_iff_not_le_zero {x : Float} (finite : x.isFinite = true) : 0 < x ↔ ¬x ≤ 0 := by
  change x.toModel.unpack.isFinite = true at finite
  change decide ((0 : Float).toModel < x.toModel) = true ↔
    ¬decide (x.toModel ≤ (0 : Float).toModel) = true
  rw [decide_eq_true_iff, decide_eq_true_iff]
  change (0 : Float).toModel.unpack.lt x.toModel.unpack = true ↔
    ¬x.toModel.unpack.le (0 : Float).toModel.unpack = true
  rw [unpack_zero]
  generalize x.toModel.unpack = parts at finite ⊢
  cases parts with
  | infinity sign => cases finite
  | notANumber => cases finite
  | zero sign => exact ⟨nofun, fun above => absurd rfl above⟩
  | finite sign mantissa exponent positive =>
    cases sign with
    | positive => exact ⟨fun _ => nofun, fun _ => rfl⟩
    | negative => exact ⟨nofun, fun above => absurd rfl above⟩

theorem validFactor_iff (factor : Float) :
    validFactor factor = true ↔ factor.isFinite = true ∧ 0 < factor := by
  simp only [validFactor, Bool.and_eq_true, Bool.not_eq_true', decide_eq_false_iff_not]
  constructor
  · rintro ⟨finite, above⟩
    exact ⟨finite, (pos_iff_not_le_zero finite).2 above⟩
  · rintro ⟨finite, positive⟩
    exact ⟨finite, (pos_iff_not_le_zero finite).1 positive⟩

end Factor

/-- The first defect of a list of named things: a name that stood before, or the thing's own one. -/
def firstDefect? {β : Type} (name : β → String) (duplicate : String → Defect)
    (defect? : β → Option Defect) : List String → List β → Option Defect
  | _, [] => none
  | seen, item :: rest =>
    if seen.contains (name item) then some (duplicate (name item))
    else (defect? item).or (firstDefect? name duplicate defect? (name item :: seen) rest)

theorem firstDefect?_eq_none_iff {β : Type} (name : β → String) (duplicate : String → Defect)
    (defect? : β → Option Defect) (seen : List String) (items : List β) :
    firstDefect? name duplicate defect? seen items = none ↔
      (∀ item ∈ items, name item ∉ seen) ∧ (items.map name).Nodup ∧
        ∀ item ∈ items, defect? item = none := by
  induction items generalizing seen with
  | nil => simp [firstDefect?]
  | cons item rest ih =>
    by_cases known : name item ∈ seen
    · simp [firstDefect?, known]
    have fresh : (∀ other ∈ rest, name other ∉ name item :: seen) ↔
        name item ∉ rest.map name ∧ ∀ other ∈ rest, name other ∉ seen := by
      simp only [List.mem_cons, not_or, List.mem_map, not_exists, not_and]
      exact ⟨fun both => ⟨fun other inside => (both other inside).1,
        fun other inside => (both other inside).2⟩,
        fun ⟨apart, others⟩ other inside => ⟨apart other inside, others other inside⟩⟩
    simp only [firstDefect?, List.contains_iff_mem, known, ↓reduceIte, Option.or_eq_none_iff, ih,
      fresh, List.map_cons, List.nodup_cons, List.forall_mem_cons]
    constructor
    · rintro ⟨own, ⟨apart, others⟩, distinct, sound⟩
      exact ⟨⟨not_false, others⟩, ⟨apart, distinct⟩, own, sound⟩
    · rintro ⟨⟨_, others⟩, ⟨apart, distinct⟩, own, sound⟩
      exact ⟨own, ⟨apart, others⟩, distinct, sound⟩

theorem firstDefect?_names (duplicate : String → Defect) (seen names : List String) :
    (repeated? seen names).map duplicate =
      firstDefect? id duplicate (fun _ => none) seen names := by
  induction names generalizing seen with
  | nil => rfl
  | cons name rest ih =>
    rw [repeated?, firstDefect?, Option.none_or, ← ih]
    exact apply_ite (Option.map duplicate) _ _ _

theorem QuantityDeclaration.firstDefect?_eq (simpleNames seen : List String)
    (quantities : List QuantityDeclaration) :
    QuantityDeclaration.firstDefect? simpleNames seen quantities =
      Catalog.firstDefect? (·.name) .duplicateQuantity (·.defect? simpleNames) seen quantities := by
  induction quantities generalizing seen with
  | nil => rfl
  | cons quantity rest ih => rw [firstDefect?, Catalog.firstDefect?, ih]

theorem VariableDeclaration.firstDefect?_eq (unitNames seen : List String)
    (namedValues : List VariableDeclaration) :
    VariableDeclaration.firstDefect? unitNames seen namedValues =
      Catalog.firstDefect? (·.name) .duplicateVariable (·.defect? unitNames) seen namedValues := by
  induction namedValues generalizing seen with
  | nil => rfl
  | cons declared rest ih => rw [firstDefect?, Catalog.firstDefect?, ih]

theorem QuantityDeclaration.defect?_eq_none_iff (quantity : QuantityDeclaration)
    (simpleNames : List String) :
    quantity.defect? simpleNames = none ↔ quantity.defaultUnit ∈ simpleNames := by
  simp [defect?]

theorem UnitDeclaration.defect?_eq_none_iff (unit : UnitDeclaration)
    (quantityNames : List String) :
    unit.defect? quantityNames = none ↔
      unit.quantity ∈ quantityNames ∧ unit.factor.isFinite = true ∧ 0 < unit.factor := by
  rw [← validFactor_iff]
  by_cases listed : unit.quantity ∈ quantityNames <;> simp [defect?, listed]

theorem CompositeDeclaration.defect?_eq_none_iff (composite : CompositeDeclaration)
    (simpleNames : List String) :
    composite.defect? simpleNames = none ↔
      ∀ member ∈ composite.dividend ++ composite.divisor, member ∈ simpleNames := by
  simp only [defect?, Option.map_eq_none_iff, List.find?_eq_none, Bool.not_eq_true',
    List.contains_eq_mem, decide_eq_false_iff_not, Decidable.not_not]

theorem VariableDeclaration.defect?_eq_none_iff (declared : VariableDeclaration)
    (unitNames : List String) :
    declared.defect? unitNames = none ↔
      ∀ unit ∈ declared.unit, unit = pureUnitName ∨ unit ∈ unitNames := by
  cases named : declared.unit with
  | none => simp [defect?, named]
  | some unit => simp [defect?, named, Decidable.or_iff_not_imp_left]

namespace Declaration

/-- Names are unique, factors are positive, and references lead to what is declared. -/
structure Valid (declaration : Declaration) : Prop where
  unitNames : declaration.unitNames.Nodup
  quantityNames : declaration.quantityNames.Nodup
  defaultUnits : ∀ quantity ∈ declaration.quantities,
    quantity.defaultUnit ∈ declaration.simpleNames
  measured : ∀ unit ∈ declaration.units, unit.quantity ∈ declaration.quantityNames
  factors : ∀ unit ∈ declaration.units, unit.factor.isFinite = true ∧ 0 < unit.factor
  members : ∀ composite ∈ declaration.composites,
    ∀ member ∈ composite.dividend ++ composite.divisor, member ∈ declaration.simpleNames
  valueNames : (declaration.namedValues.map (·.name)).Nodup
  valueUnits : ∀ declared ∈ declaration.namedValues, ∀ unit ∈ declared.unit,
    unit = pureUnitName ∨ unit ∈ declaration.unitNames

/-- The default unit of each quantity measures it. -/
structure WellFormed (declaration : Declaration) : Prop extends declaration.Valid where
  measures : ∀ quantity ∈ declaration.quantities, ∀ unit ∈ declaration.units,
    unit.name = quantity.defaultUnit → unit.quantity = quantity.name

theorem defect?_eq_none_iff (declaration : Declaration) :
    declaration.defect? = none ↔ declaration.Valid := by
  simp only [defect?, Option.or_eq_none_iff, firstDefect?_names,
    QuantityDeclaration.firstDefect?_eq, VariableDeclaration.firstDefect?_eq,
    firstDefect?_eq_none_iff, List.findSome?_eq_none_iff, List.map_id,
    QuantityDeclaration.defect?_eq_none_iff, UnitDeclaration.defect?_eq_none_iff,
    CompositeDeclaration.defect?_eq_none_iff, VariableDeclaration.defect?_eq_none_iff]
  constructor
  · rintro ⟨⟨_, units, _⟩, ⟨_, quantities, defaults⟩, simple, composites, _, values, valueUnits⟩
    exact ⟨units, quantities, defaults, fun unit inside => (simple unit inside).1,
      fun unit inside => (simple unit inside).2, composites, values, valueUnits⟩
  · intro valid
    exact ⟨⟨by simp, valid.unitNames, by simp⟩,
      ⟨by simp, valid.quantityNames, valid.defaultUnits⟩,
      fun unit inside => ⟨valid.measured unit inside, valid.factors unit inside⟩, valid.members,
      by simp, valid.valueNames, valid.valueUnits⟩

end Declaration

end Dimensional.Catalog
