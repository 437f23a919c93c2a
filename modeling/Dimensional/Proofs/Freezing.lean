import Mathlib.Data.List.Induction
import Dimensional.Proofs.History
import Dimensional.Proofs.UnitDimension

/-!
What freezing does to units. A generation has the base that its system had when it was frozen, and
none before that; nothing that is done later replaces the base. So the units of a generation wait
for their base, are judged in it from then on, and wait for ever if their system is reset before it
is frozen.
-/

set_option autoImplicit false

namespace Dimensional

variable {α : Type} [Scalar α]

/-- Nothing is known of the unit: it has no dimension and no conversion, on either side. -/
structure Unit.Pending (bases : Bases) (unit : Unit α) : Prop where
  dimension : unit.dimension? bases = none
  conversionTo : ∀ other, unit.conversionTo bases other = Scalar.undefined
  conversionFrom : ∀ other, unit.conversionFrom bases other = Scalar.undefined
  conversionOfOther : ∀ other : Unit α, other.conversionTo bases unit = Scalar.undefined
  conversionIntoOther : ∀ other : Unit α, other.conversionFrom bases unit = Scalar.undefined

/-- The unit is judged in this base. -/
structure Unit.JudgedIn (base : Base) (bases : Bases) (unit : Unit α) : Prop where
  dimension : unit.dimension? bases = unit.dimensionIn? base
  conversionTo : ∀ other, unit.conversionTo bases other = unit.conversionIn base other
  conversionFrom : ∀ other, unit.conversionFrom bases other = other.conversionIn base unit

/-- A base has no conversion from or into a unit of another generation. -/
theorem Unit.conversionIn_foreign {base : Base} {unit : Unit α}
    (foreign : unit.generation ≠ base.generation) (other : Unit α) :
    unit.conversionIn base other = Scalar.undefined ∧
      other.conversionIn base unit = Scalar.undefined := by
  have unknown : unit.dimensionIn? base = none := by
    cases known : unit.dimensionIn? base with
    | none => rfl
    | some dimension => exact absurd (generation_of_dimensionIn? known) foreign
  constructor
  · simp [conversionIn, compatibleIn, unknown]
  · cases known : other.dimensionIn? base <;> simp [conversionIn, compatibleIn, unknown, known]

theorem Unit.pending_of_base? {bases : Bases} {unit : Unit α}
    (unfrozen : bases.base? unit.generation = none) : unit.Pending bases := by
  have foreign : ∀ {generation base}, bases.base? generation = some base →
      unit.generation ≠ base.generation := by
    intro generation base found same
    have own := bases.generation_of_base? generation base found
    rw [same, own, found] at unfrozen
    cases unfrozen
  constructor
  · simp [dimension?, unfrozen]
  · intro other
    simp [Unit.conversionTo, unfrozen]
  · intro other
    simp [Unit.conversionFrom, unfrozen]
  · intro other
    unfold Unit.conversionTo
    split
    · next base found => exact (Unit.conversionIn_foreign (foreign found) other).2
    · rfl
  · intro other
    unfold Unit.conversionFrom
    split
    · next base found => exact (Unit.conversionIn_foreign (foreign found) other).1
    · rfl

theorem Unit.judgedIn_of_base? {bases : Bases} {base : Base} {unit : Unit α}
    (frozen : bases.base? unit.generation = some base) : unit.JudgedIn base bases := by
  constructor
  · simp [dimension?, frozen]
  · intro other
    simp [Unit.conversionTo, frozen]
  · intro other
    simp [Unit.conversionFrom, frozen]

namespace World

/-- The operation freezes a system, with this base. -/
inductive Freezes (world : World α) : Operation α → Base → Prop where
  | freeze (index : Nat) (system : QuantitySystem α)
      (present : world.system? index = some system)
      (accepted : (world.step (.freeze index)).1 = .done) :
      Freezes world (.freeze index) system.layout

/-- One of the operations froze a system, with this base. -/
def Froze (operations : List (Operation α)) (base : Base) : Prop :=
  ∃ before operation later, operations = before ++ operation :: later ∧
    ((empty : World α).run before).Freezes operation base

theorem froze_append_singleton (operations : List (Operation α)) (operation : Operation α)
    (base : Base) :
    Froze (operations ++ [operation]) base ↔
      Froze operations base ∨ ((empty : World α).run operations).Freezes operation base := by
  constructor
  · rintro ⟨before, freezing, later, shape, freezes⟩
    rcases List.eq_nil_or_concat later with rfl | ⟨rest, last, rfl⟩
    · obtain ⟨rfl, rfl⟩ := List.append_singleton_inj.1 shape
      exact Or.inr freezes
    · rw [List.concat_eq_append, ← List.cons_append, ← List.append_assoc] at shape
      obtain ⟨rfl, rfl⟩ := List.append_singleton_inj.1 shape
      exact Or.inl ⟨before, freezing, rest, rfl, freezes⟩
  · rintro (⟨before, freezing, later, rfl, freezes⟩ | freezes)
    · exact ⟨before, freezing, later ++ [operation], by simp, freezes⟩
    · exact ⟨operations, operation, [], rfl, freezes⟩

variable {world : World α}

theorem Freezes.accepted {operation : Operation α} {base : Base}
    (freezes : world.Freezes operation base) : (world.step operation).1 = .done := by
  cases freezes with
  | freeze index system present accepted => exact accepted

/-- An operation gives a base to the generation that it freezes, and to no other. -/
theorem base?_step (coherent : world.Coherent) (operation : Operation α) (generation : Generation)
    (base : Base) :
    (world.step operation).2.bases.base? generation = some base ↔
      world.bases.base? generation = some base ∨
        (base.generation = generation ∧ world.Freezes operation base) := by
  have idle : ∀ {next : World α}, next.bases.base? generation = world.bases.base? generation →
      ¬ world.Freezes operation base →
      (next.bases.base? generation = some base ↔ world.bases.base? generation = some base ∨
        (base.generation = generation ∧ world.Freezes operation base)) := by
    intro next same none
    simp [same, none]
  have did := steps world operation
  generalize replied : (world.step operation).1 = reply at did
  generalize (world.step operation).2 = next at did ⊢
  cases did with
  | created => exact idle (Bases.base?_issue _ _) (by rintro ⟨⟩)
  | reset index system present => exact idle (Bases.base?_issue _ _) (by rintro ⟨⟩)
  | added index quantity unit system present unfrozen native measured =>
    exact idle rfl (by rintro ⟨⟩)
  | frozen index system present unfrozen =>
    have freezes : ∀ other, world.Freezes (.freeze index) other → other = system.layout := by
      rintro _ ⟨_, second, again, _⟩
      rw [present] at again
      cases again
      rfl
    by_cases own : generation = system.generation
    · subst own
      have issued : system.layout.generation.index < world.bases.issued.length :=
        coherent.issued index system present
      have found := Bases.base?_freeze_self world.bases system.layout issued
      constructor
      · intro after
        cases Option.some.inj (found.symm.trans after)
        exact Or.inr ⟨rfl, .freeze index system present replied⟩
      · rintro (before | ⟨_, now⟩)
        · rw [unfrozen] at before
          cases before
        · rw [freezes base now]
          exact found
    · have kept := Bases.base?_freeze_other world.bases system.layout generation own
      constructor
      · exact fun after => Or.inl (kept ▸ after)
      · rintro (before | ⟨same, now⟩)
        · exact kept.trans before
        · rw [freezes base now] at same
          exact absurd same.symm own
  | refused operation error =>
    refine idle rfl fun freezes => ?_
    rw [freezes.accepted] at replied
    cases replied
  | madeSimple index name symbol synonyms quantity factor system present =>
    exact idle rfl (by rintro ⟨⟩)
  | madeComposite index name symbol synonyms dividend divisor system present =>
    exact idle rfl (by rintro ⟨⟩)
  | absent operation index target missing =>
    refine idle rfl fun freezes => ?_
    rw [freezes.accepted] at replied
    cases replied

/-- A generation has a base exactly when it has been frozen. -/
theorem base?_run_iff (operations : List (Operation α)) (generation : Generation) (base : Base) :
    ((empty : World α).run operations).bases.base? generation = some base ↔
      base.generation = generation ∧ Froze operations base := by
  induction operations using List.reverseRecOn with
  | nil =>
    constructor
    · intro found
      change Bases.empty.base? generation = some base at found
      rw [Bases.base?_empty] at found
      cases found
    · rintro ⟨_, before, operation, later, shape, _⟩
      simp at shape
  | append_singleton operations operation ih =>
    rw [run_append, run_cons, run_nil, base?_step (coherent_empty.run operations), ih,
      froze_append_singleton]
    exact and_or_left.symm

theorem base?_run_eq_none (operations : List (Operation α)) (generation : Generation)
    (unfrozen : ∀ base, Froze operations base → base.generation ≠ generation) :
    ((empty : World α).run operations).bases.base? generation = none := by
  cases found : ((empty : World α).run operations).bases.base? generation with
  | none => rfl
  | some base =>
    obtain ⟨own, frozen⟩ := (base?_run_iff operations generation base).1 found
    exact absurd own (unfrozen base frozen)

/-- No system is of the generation any more. -/
structure Retired (generation : Generation) (world : World α) : Prop where
  issued : generation.index < world.bases.issued.length
  unowned : ∀ index system, world.system? index = some system → system.generation ≠ generation

theorem retired_reset (coherent : world.Coherent) {index : Nat} {system : QuantitySystem α}
    (present : world.system? index = some system) :
    (world.reset index).Retired system.generation := by
  have old := coherent.issued index system present
  constructor
  · change _ < (world.bases.issued ++ [none]).length
    simp only [List.length_append, List.length_singleton]
    omega
  · intro other second held same
    rw [system?_reset present] at held
    split at held
    · cases held
      rw [← same] at old
      exact Nat.lt_irrefl _ old
    · next apart => exact apart (coherent.distinct other index second system held present same)

/-- A new generation is not a retired one, and a retired one is never frozen. -/
theorem Retired.step {generation : Generation} (retired : world.Retired generation)
    (operation : Operation α) :
    (world.step operation).2.Retired generation ∧
      (world.step operation).2.bases.base? generation = world.bases.base? generation := by
  refine ⟨⟨Nat.lt_of_lt_of_le retired.issued (issued_le_step world operation), ?_⟩, ?_⟩
  · intro index system present same
    rcases generation_of_step operation present with new | ⟨old, held, kept⟩
    · have issued := retired.issued
      rw [← same, new] at issued
      exact Nat.lt_irrefl _ issued
    · exact retired.unowned index old held (kept.trans same)
  · have did := steps world operation
    generalize (world.step operation).1 = reply at did
    generalize (world.step operation).2 = next at did ⊢
    cases did with
    | created => exact Bases.base?_issue world.bases generation
    | reset index system present => exact Bases.base?_issue world.bases generation
    | frozen index system present unfrozen =>
      exact Bases.base?_freeze_other _ _ _ (Ne.symm (retired.unowned index system present))
    | _ => rfl

theorem Retired.run {generation : Generation} (retired : world.Retired generation)
    (later : List (Operation α)) :
    (world.run later).Retired generation ∧
      (world.run later).bases.base? generation = world.bases.base? generation := by
  induction later generalizing world with
  | nil => exact ⟨retired, rfl⟩
  | cons operation later ih =>
    obtain ⟨still, same⟩ := retired.step operation
    obtain ⟨always, unchanged⟩ := ih still
    exact ⟨always, unchanged.trans same⟩

/-- Systems are replaced, but never removed. -/
theorem exists_system_of_step {index : Nat} {system : QuantitySystem α}
    (present : world.system? index = some system) (operation : Operation α) :
    ∃ after, (world.step operation).2.system? index = some after := by
  have did := steps world operation
  generalize (world.step operation).1 = reply at did
  generalize (world.step operation).2 = next at did ⊢
  cases did with
  | created =>
    rw [system?_create]
    split
    · exact ⟨_, rfl⟩
    · exact ⟨system, present⟩
  | reset other second held =>
    rw [system?_reset held]
    split
    · exact ⟨_, rfl⟩
    · exact ⟨system, present⟩
  | added other quantity unit second held unfrozen native measured =>
    rw [system?_add held]
    split
    · exact ⟨_, rfl⟩
    · exact ⟨system, present⟩
  | _ => exact ⟨system, present⟩

theorem exists_system_of_run {index : Nat} {system : QuantitySystem α}
    (present : world.system? index = some system) (later : List (Operation α)) :
    ∃ after, (world.run later).system? index = some after := by
  induction later generalizing world system with
  | nil => exact ⟨system, present⟩
  | cons operation later ih =>
    obtain ⟨next, held⟩ := exists_system_of_step present operation
    exact ih held

/-- A system accepts no unit of another generation. -/
theorem refuses_foreign {index : Nat} {system : QuantitySystem α}
    (present : world.system? index = some system) (quantity : Quantity) {unit : SimpleUnit α}
    (foreign : unit.generation ≠ system.generation) :
    ∃ error, (world.step (.add index quantity unit)).1 = .refused error := by
  have did := steps world (.add index quantity unit)
  generalize (world.step (.add index quantity unit)).1 = reply at did ⊢
  generalize (world.step (.add index quantity unit)).2 = next at did
  cases did with
  | added _ _ _ second held unfrozen native measured =>
    rw [present] at held
    cases held
    exact absurd native foreign
  | refused _ error => exact ⟨error, rfl⟩
  | absent _ other target missing =>
    cases target
    rw [present] at missing
    cases missing

/-- A refused operation changes nothing. -/
theorem step_of_refused {operation : Operation α} {error : UnitError}
    (refused : (world.step operation).1 = .refused error) : (world.step operation).2 = world := by
  have did := steps world operation
  rw [refused] at did
  generalize (world.step operation).2 = next at did ⊢
  cases did with
  | refused => rfl

/-- A unit is of the generation that its system has when it is made. -/
theorem generation_of_made {operation : Operation α} {unit : Unit α}
    (made : (world.step operation).1 = .made unit) :
    ∃ index system, operation.index? = some index ∧ world.system? index = some system ∧
      unit.generation = system.generation := by
  have did := steps world operation
  rw [made] at did
  generalize (world.step operation).2 = next at did
  cases did with
  | madeSimple index name symbol synonyms quantity factor system present =>
    exact ⟨index, system, rfl, present, rfl⟩
  | madeComposite index name symbol synonyms dividend divisor system present =>
    exact ⟨index, system, rfl, present, rfl⟩

/-- Bases are written once, and units wait for them. After any operations on any number of systems:
a refused operation changes nothing; a unit has the generation of the system in which it is made, is
pending until that generation is frozen, and is judged in the base of that moment from then on,
whatever is done later; and when a system is reset before it is frozen, the units of its discarded
generation stay pending, and the system accepts none of them. -/
theorem freezing_of_run (operations : List (Operation α)) :
    let world := (empty : World α).run operations
    let discarding := fun index => (world.step (.reset index)).2
    (∀ operation error, (world.step operation).1 = .refused error →
      (world.step operation).2 = world) ∧
    (∀ operation unit, (world.step operation).1 = .made unit →
      ∃ index system, operation.index? = some index ∧ world.system? index = some system ∧
        unit.generation = system.generation) ∧
    (∀ unit : Unit α, (∀ base, Froze operations base → base.generation ≠ unit.generation) →
      unit.Pending world.bases) ∧
    (∀ (unit : Unit α) base, Froze operations base → base.generation = unit.generation →
      ∀ later, unit.JudgedIn base (world.run later).bases) ∧
    (∀ index system, world.system? index = some system →
      (∀ base, Froze operations base → base.generation ≠ system.generation) →
        ∀ later (unit : Unit α), unit.generation = system.generation →
          unit.Pending ((discarding index).run later).bases) ∧
    ∀ index system, world.system? index = some system →
      ∀ later quantity (unit : SimpleUnit α), unit.generation = system.generation →
        ∃ error, (((discarding index).run later).step (.add index quantity unit)).1 =
          .refused error := by
  intro world discarding
  have coherent : world.Coherent := coherent_empty.run operations
  have reset : ∀ index system, world.system? index = some system →
      discarding index = world.reset index := by
    intro index system present
    simp only [discarding, step, onSystem, present]
  refine ⟨fun _ _ => step_of_refused, fun _ _ => generation_of_made, ?_, ?_, ?_, ?_⟩
  · intro unit unfrozen
    exact Unit.pending_of_base? (base?_run_eq_none operations unit.generation unfrozen)
  · rintro unit base ⟨before, freezing, after, shape, freezes⟩ own later
    apply Unit.judgedIn_of_base?
    rw [← run_append]
    refine (base?_run_iff _ _ _).2 ⟨own, before, freezing, after ++ later, ?_, freezes⟩
    simp [shape]
  · intro index system present unfrozen later unit own
    obtain ⟨_, unchanged⟩ := (retired_reset coherent present).run later
    apply Unit.pending_of_base?
    rw [own, reset index system present, unchanged]
    exact (Bases.base?_issue _ _).trans (base?_run_eq_none operations _ unfrozen)
  · intro index system present later quantity unit own
    obtain ⟨retired, _⟩ := (retired_reset coherent present).run later
    rw [reset index system present]
    have renewed := system?_reset present index
    rw [if_pos rfl] at renewed
    obtain ⟨after, held⟩ := exists_system_of_run renewed later
    exact refuses_foreign held quantity fun same =>
      retired.unowned index after held (same.symm.trans own)

/-- The first of two systems is frozen and keeps its units' dimension beyond its reset; the second
is reset before that, and what was made in it is never of use again. -/
theorem freezing_of_two_systems :
    let meter : SimpleUnit Float := ⟨"meter", "m", [], ⟨"Length"⟩, 1.0, ⟨0⟩, 2⟩
    let gram : SimpleUnit Float := ⟨"gram", "g", [], ⟨"Mass"⟩, 1.0, ⟨1⟩, 3⟩
    let world := (empty : World Float).run
      [.create, .create, .simpleUnit 0 "meter" "m" [] ⟨"Length"⟩ 1.0, .addQuantity 0 meter,
        .freeze 0]
    (Unit.simple meter).dimension? (world.run [.reset 0, .freeze 0]).bases = some ⟨[1]⟩ ∧
      (Unit.simple gram).Pending ((world.step (.reset 1)).2.run [.freeze 1]).bases ∧
      ∃ error, (((world.step (.reset 1)).2.run []).step (.add 1 ⟨"Mass"⟩ gram)).1 =
        .refused error := by
  intro meter gram world
  let system : QuantitySystem Float :=
    ⟨⟨0⟩, 0, (Registry.single (SimpleUnit.pure ⟨0⟩ 0)).put ⟨"Length"⟩ meter⟩
  let second : QuantitySystem Float := ⟨⟨1⟩, 1, Registry.single (SimpleUnit.pure ⟨1⟩ 1)⟩
  have present : world.system? 1 = some second := rfl
  obtain ⟨_, _, _, judged, pending, refuses⟩ := freezing_of_run (α := Float)
    [.create, .create, .simpleUnit 0 "meter" "m" [] ⟨"Length"⟩ 1.0, .addQuantity 0 meter, .freeze 0]
  have frozen : Froze [.create, .create, .simpleUnit 0 "meter" "m" [] ⟨"Length"⟩ 1.0,
      .addQuantity 0 meter, .freeze 0] system.layout :=
    ⟨[.create, .create, .simpleUnit 0 "meter" "m" [] ⟨"Length"⟩ 1.0, .addQuantity 0 meter],
      .freeze 0, [], rfl, .freeze 0 system rfl rfl⟩
  have unfrozen : ∀ base : Base, Froze [.create, .create,
      .simpleUnit 0 "meter" "m" [] ⟨"Length"⟩ (1.0 : Float), .addQuantity 0 meter, .freeze 0] base →
      base.generation ≠ second.generation := by
    intro base froze same
    have found := (base?_run_iff _ second.generation base).2 ⟨same, froze⟩
    cases found
  refine ⟨?_, pending 1 second present unfrozen [.freeze 1] (.simple gram) rfl,
    refuses 1 second present [] ⟨"Mass"⟩ gram rfl⟩
  exact (judged (.simple meter) system.layout frozen rfl [.reset 0, .freeze 0]).dimension.trans rfl

end World

end Dimensional
