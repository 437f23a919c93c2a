import Dimensional.Proofs.Freezing
import Dimensional.Proofs.NetCount

/-!
Conversion in the course of a history. A pair of units is judged alike in the base of either of
them, and it is admitted only if both units, with all their members, belong to one base. The
generations of a system only grow and no two systems ever share one, so units that different systems
build are never admitted, nor are units from before and after a reset.
-/

set_option autoImplicit false

namespace Dimensional

variable {α : Type}

namespace Unit

/-- The pair passes validation in the base of one of the two units. -/
def Admitted (bases : Bases) (source target : Unit α) : Prop :=
  ∃ base, (bases.base? source.generation = some base ∨ bases.base? target.generation = some base) ∧
    source.compatibleIn base target = true

variable {bases : Bases} {source target : Unit α}

/-- An admitted pair belongs to one base, which both units find. -/
theorem Admitted.exists_base (admitted : source.Admitted bases target) :
    ∃ base, bases.base? source.generation = some base ∧
      bases.base? target.generation = some base ∧ source.BelongsTo base ∧
      target.BelongsTo base ∧ source.compatibleIn base target = true := by
  obtain ⟨base, found, compatible⟩ := admitted
  obtain ⟨left, right, _⟩ := (compatibleIn_iff_sameCounts base source target).1 compatible
  have same : source.generation = target.generation := left.native.trans right.native.symm
  rcases found with found | found
  · exact ⟨base, found, same ▸ found, left, right, compatible⟩
  · exact ⟨base, same ▸ found, found, left, right, compatible⟩

theorem Admitted.generation_eq (admitted : source.Admitted bases target) :
    source.generation = target.generation := by
  obtain ⟨_, _, _, left, right, _⟩ := admitted.exists_base
  exact left.native.trans right.native.symm

theorem generation_of_multiply {unit other result : Unit α}
    (multiplied : unit.multiply bases other = .ok result) :
    result.generation = unit.generation := by
  rw [multiply] at multiplied
  split at multiplied <;> cases multiplied
  rfl

theorem generation_of_divide {unit other result : Unit α}
    (divided : unit.divide bases other = .ok result) : result.generation = unit.generation := by
  rw [divide] at divided
  split at divided <;> cases divided
  rfl

variable [Scalar α]

theorem Admitted.conversion (admitted : source.Admitted bases target) :
    source.conversionTo bases target = source.factorRatio target ∧
      target.conversionFrom bases source = source.factorRatio target := by
  obtain ⟨base, home, away, _, _, compatible⟩ := admitted.exists_base
  constructor
  · simp only [conversionTo, home, conversionIn, compatible, ↓reduceIte]
  · simp only [conversionFrom, away, conversionIn, compatible, ↓reduceIte]

theorem conversion_of_not_admitted (refused : ¬source.Admitted bases target) :
    source.conversionTo bases target = Scalar.undefined ∧
      target.conversionFrom bases source = Scalar.undefined := by
  have incompatible : ∀ base, bases.base? source.generation = some base ∨
      bases.base? target.generation = some base → source.compatibleIn base target = false := by
    intro base found
    rw [Bool.eq_false_iff]
    exact fun compatible => refused ⟨base, found, compatible⟩
  constructor
  · cases home : bases.base? source.generation with
    | none => simp only [conversionTo, home]
    | some base =>
      have apart := incompatible base (Or.inl home)
      simp only [conversionTo, home, conversionIn, apart, Bool.false_eq_true, ↓reduceIte]
  · cases away : bases.base? target.generation with
    | none => simp only [conversionFrom, away]
    | some base =>
      have apart := incompatible base (Or.inr away)
      simp only [conversionFrom, away, conversionIn, apart, Bool.false_eq_true, ↓reduceIte]

/-- Both directions give the same result, whichever base is consulted. -/
theorem conversionTo_eq_conversionFrom (bases : Bases) (source target : Unit α) :
    source.conversionTo bases target = target.conversionFrom bases source := by
  by_cases admitted : source.Admitted bases target
  · rw [admitted.conversion.1, admitted.conversion.2]
  · obtain ⟨forward, backward⟩ := conversion_of_not_admitted admitted
    rw [forward, backward]

end Unit

namespace World

/-- The generation has been issued, and no other system has it. -/
structure Confined (generation : Generation) (index : Nat) (world : World α) : Prop where
  issued : generation.index < world.bases.issued.length
  owner : ∀ other system, world.system? other = some system → system.generation = generation →
    other = index

/-- The first `bound` generations have been issued, and the system has a later one. -/
structure Beyond (bound index : Nat) (world : World α) : Prop where
  issued : bound ≤ world.bases.issued.length
  later : ∀ system, world.system? index = some system → bound ≤ system.generation.index

variable {world : World α}

theorem Coherent.confined (coherent : world.Coherent) {index : Nat} {system : QuantitySystem α}
    (present : world.system? index = some system) : world.Confined system.generation index where
  issued := coherent.issued index system present
  owner other second held same := coherent.distinct other index second system held present same

variable [Scalar α]

theorem Confined.step {generation : Generation} {index : Nat}
    (confined : world.Confined generation index) (operation : Operation α) :
    (world.step operation).2.Confined generation index := by
  refine ⟨Nat.lt_of_lt_of_le confined.issued (issued_le_step world operation), ?_⟩
  intro other system present same
  rcases generation_of_step operation present with new | ⟨old, held, kept⟩
  · have issued := confined.issued
    rw [← same, new] at issued
    exact absurd issued (Nat.lt_irrefl _)
  · exact confined.owner other old held (kept.trans same)

theorem Confined.run {generation : Generation} {index : Nat}
    (confined : world.Confined generation index) (later : List (Operation α)) :
    (world.run later).Confined generation index := by
  induction later generalizing world with
  | nil => exact confined
  | cons operation later ih => exact ih (confined.step operation)

theorem beyond_reset {index : Nat} {system : QuantitySystem α}
    (present : world.system? index = some system) :
    (world.step (.reset index)).2.Beyond world.bases.issued.length index := by
  refine ⟨issued_le_step world _, ?_⟩
  intro renewed held
  simp only [step, onSystem, present, system?_reset present, ↓reduceIte] at held
  cases held
  exact Nat.le_refl _

theorem Beyond.step {bound index : Nat} (beyond : world.Beyond bound index)
    (operation : Operation α) : (world.step operation).2.Beyond bound index := by
  refine ⟨Nat.le_trans beyond.issued (issued_le_step world operation), ?_⟩
  intro system present
  rcases generation_of_step operation present with new | ⟨old, held, kept⟩
  · rw [new]
    exact beyond.issued
  · exact kept ▸ beyond.later old held

theorem Beyond.run {bound index : Nat} (beyond : world.Beyond bound index)
    (later : List (Operation α)) : (world.run later).Beyond bound index := by
  induction later generalizing world with
  | nil => exact beyond
  | cons operation later ih => exact ih (beyond.step operation)

/-- The units that a system builds in the course of operations: its unit of pure numbers, what is
made in it, and the products and quotients of these with any units. -/
inductive Builds (world : World α) (index : Nat) : List (Operation α) → Unit α → Prop where
  | pure (operations : List (Operation α)) (system : QuantitySystem α)
      (present : (world.run operations).system? index = some system) :
      Builds world index operations (.simple system.pureUnit)
  | made (operations : List (Operation α)) (operation : Operation α) (unit : Unit α)
      (target : operation.index? = some index)
      (replied : ((world.run operations).step operation).1 = .made unit) :
      Builds world index (operations ++ [operation]) unit
  | kept (operations later : List (Operation α)) (unit : Unit α)
      (built : Builds world index operations unit) :
      Builds world index (operations ++ later) unit
  | product (operations : List (Operation α)) (unit other result : Unit α)
      (built : Builds world index operations unit)
      (multiplied : unit.multiply (world.run operations).bases other = .ok result) :
      Builds world index operations result
  | quotient (operations : List (Operation α)) (unit other result : Unit α)
      (built : Builds world index operations unit)
      (divided : unit.divide (world.run operations).bases other = .ok result) :
      Builds world index operations result

/-- What a system builds has a generation that the system had at some moment. -/
theorem Builds.exists_moment {index : Nat} {operations : List (Operation α)} {unit : Unit α}
    (built : world.Builds index operations unit) :
    ∃ earlier later system, operations = earlier ++ later ∧
      (world.run earlier).system? index = some system ∧ unit.generation = system.generation := by
  induction built with
  | pure operations system present =>
    exact ⟨operations, [], system, (List.append_nil operations).symm, present, rfl⟩
  | made operations operation unit target replied =>
    obtain ⟨other, system, own, present, native⟩ := generation_of_made replied
    cases target.symm.trans own
    exact ⟨operations, [operation], system, rfl, present, native⟩
  | kept operations later unit built ih =>
    obtain ⟨earlier, between, system, rfl, present, native⟩ := ih
    exact ⟨earlier, between ++ later, system, List.append_assoc _ _ _, present, native⟩
  | product operations unit other result built multiplied ih =>
    obtain ⟨earlier, later, system, shape, present, native⟩ := ih
    exact ⟨earlier, later, system, shape, present,
      (Unit.generation_of_multiply multiplied).trans native⟩
  | quotient operations unit other result built divided ih =>
    obtain ⟨earlier, later, system, shape, present, native⟩ := ih
    exact ⟨earlier, later, system, shape, present,
      (Unit.generation_of_divide divided).trans native⟩

/-- The generations of two different systems differ, whenever they had them. -/
theorem generation_ne_of_moments (coherent : world.Coherent) {index other : Nat}
    (apart : index ≠ other) {earlier later : List (Operation α)}
    {system second : QuantitySystem α} (present : (world.run earlier).system? index = some system)
    (held : (world.run (earlier ++ later)).system? other = some second) :
    system.generation ≠ second.generation := by
  intro same
  rw [run_append] at held
  have confined := ((coherent.run earlier).confined present).run later
  exact apart (confined.owner other second held same.symm).symm

theorem Builds.generation_ne (coherent : world.Coherent) {index other : Nat}
    (apart : index ≠ other) {operations : List (Operation α)} {a b : Unit α}
    (left : world.Builds index operations a) (right : world.Builds other operations b) :
    a.generation ≠ b.generation := by
  obtain ⟨before, after, system, shape, present, nativeA⟩ := left.exists_moment
  obtain ⟨before', after', second, shape', held, nativeB⟩ := right.exists_moment
  rw [nativeA, nativeB]
  -- One of the two moments is the later one.
  rcases List.append_eq_append_iff.1 (shape.symm.trans shape') with ⟨between, rfl, _⟩ |
    ⟨between, rfl, _⟩
  · exact generation_ne_of_moments coherent apart present held
  · exact (generation_ne_of_moments coherent apart.symm held present).symm

/-- What is built before a reset has an earlier generation than what the system builds after it. -/
theorem Builds.generation_lt_of_reset (coherent : world.Coherent) {index other : Nat}
    {before later : List (Operation α)} {system : QuantitySystem α}
    (present : (world.run before).system? index = some system) {a b : Unit α}
    (old : world.Builds other before a)
    (new : (world.run (before ++ [.reset index])).Builds index later b) :
    a.generation.index < b.generation.index := by
  obtain ⟨earlier, rest, first, rfl, owned, nativeA⟩ := old.exists_moment
  obtain ⟨after, _, second, _, held, nativeB⟩ := new.exists_moment
  have issued : a.generation.index < (world.run (earlier ++ rest)).bases.issued.length := by
    rw [nativeA, run_append]
    exact Nat.lt_of_lt_of_le ((coherent.run earlier).issued other first owned)
      (issued_le_run _ rest)
  rw [run_append, run_cons, run_nil] at held
  rw [nativeB]
  exact Nat.lt_of_lt_of_le issued (((beyond_reset present).run after).later second held)

theorem Builds.generation_ne_of_reset (coherent : world.Coherent) {index other : Nat}
    {before later : List (Operation α)} {a b : Unit α} (old : world.Builds other before a)
    (new : (world.run (before ++ [.reset index])).Builds index later b) :
    a.generation ≠ b.generation := by
  cases present : (world.run before).system? index with
  | some system =>
    intro same
    have earlier := old.generation_lt_of_reset coherent present new
    rw [same] at earlier
    exact Nat.lt_irrefl _ earlier
  | none =>
    -- There is nothing to reset yet, so the two units are of different systems.
    obtain ⟨earlier, rest, first, rfl, owned, nativeA⟩ := old.exists_moment
    obtain ⟨after, _, second, _, held, nativeB⟩ := new.exists_moment
    have apart : other ≠ index := by
      rintro rfl
      obtain ⟨still, kept⟩ := exists_system_of_run owned rest
      rw [run_append, kept] at present
      cases present
    rw [← run_append, List.append_assoc, List.append_assoc] at held
    rw [nativeA, nativeB]
    exact generation_ne_of_moments coherent apart owned held

/-- Conversion does not depend on the unit that is asked, and never crosses systems. After any
operations on any number of systems: both directions of a conversion give the same result, the
quotient of the factors if the pair is admitted and none otherwise; an admitted pair and all its
members are of one frozen generation and measure quantities registered in it; so no pair is admitted
whose units were built by different systems, or one before a reset and the other after it. -/
theorem conversion_of_run (operations : List (Operation α)) :
    let world := (empty : World α).run operations
    (∀ a b : Unit α, a.conversionTo world.bases b = b.conversionFrom world.bases a) ∧
    (∀ a b : Unit α, a.Admitted world.bases b →
      a.conversionTo world.bases b = a.factorRatio b ∧
        ∃ base, Froze operations base ∧ a.BelongsTo base ∧ b.BelongsTo base) ∧
    (∀ a b : Unit α, ¬a.Admitted world.bases b →
      a.conversionTo world.bases b = Scalar.undefined) ∧
    (∀ index other, index ≠ other → ∀ a b : Unit α, (empty : World α).Builds index operations a →
      (empty : World α).Builds other operations b → ¬a.Admitted world.bases b) ∧
    ∀ before index later, operations = before ++ .reset index :: later →
      ∀ other (a b : Unit α), (empty : World α).Builds other before a →
        ((empty : World α).run (before ++ [.reset index])).Builds index later b →
        ¬a.Admitted world.bases b ∧ ¬b.Admitted world.bases a := by
  intro world
  refine ⟨Unit.conversionTo_eq_conversionFrom world.bases, ?_, ?_, ?_, ?_⟩
  · intro a b admitted
    obtain ⟨base, home, _, left, right, _⟩ := admitted.exists_base
    exact ⟨admitted.conversion.1, base, ((base?_run_iff _ _ _).1 home).2, left, right⟩
  · intro a b refused
    exact (Unit.conversion_of_not_admitted refused).1
  · intro index other apart a b left right admitted
    exact left.generation_ne coherent_empty apart right admitted.generation_eq
  · intro before index later _ other a b old new
    have differ := old.generation_ne_of_reset coherent_empty new
    exact ⟨fun admitted => differ admitted.generation_eq,
      fun admitted => differ admitted.generation_eq.symm⟩

/-- Of a system that is frozen, reset and frozen again: a mile converts into the metre of its time,
in both directions alike, but not into the metre that the system has after the reset. -/
theorem conversion_of_renewed_system :
    let metre : SimpleUnit Float := ⟨"metre", "m", [], ⟨"Length"⟩, 1.0, ⟨0⟩, 1⟩
    let mile : SimpleUnit Float := ⟨"mile", "mi", [], ⟨"Length"⟩, 1609.344, ⟨0⟩, 2⟩
    let renewed : SimpleUnit Float := ⟨"metre", "m", [], ⟨"Length"⟩, 1.0, ⟨1⟩, 4⟩
    let before : List (Operation Float) :=
      [.create, .simpleUnit 0 "metre" "m" [] ⟨"Length"⟩ 1.0, .addQuantity 0 metre, .freeze 0,
        .simpleUnit 0 "mile" "mi" [] ⟨"Length"⟩ 1609.344]
    let later : List (Operation Float) :=
      [.simpleUnit 0 "metre" "m" [] ⟨"Length"⟩ 1.0, .addQuantity 0 renewed, .freeze 0]
    let world := (empty : World Float).run (before ++ .reset 0 :: later)
    (Unit.simple mile).conversionTo world.bases (.simple metre) = 1609.344 / 1.0 ∧
      (Unit.simple metre).conversionFrom world.bases (.simple mile) = 1609.344 / 1.0 ∧
      (Unit.simple mile).conversionTo world.bases (.simple renewed) = Scalar.undefined := by
  intro metre mile renewed before later world
  obtain ⟨alike, admitted, refused, _, reset⟩ := conversion_of_run (before ++ .reset 0 :: later)
  let system : QuantitySystem Float :=
    ⟨⟨0⟩, 0, (Registry.single (SimpleUnit.pure ⟨0⟩ 0)).put ⟨"Length"⟩ metre⟩
  have frozen : Froze (before ++ .reset 0 :: later) system.layout :=
    ⟨before.take 3, .freeze 0, before.drop 4 ++ .reset 0 :: later, rfl, .freeze 0 system rfl rfl⟩
  have home := (base?_run_iff _ _ _).2 ⟨rfl, frozen⟩
  have measuredMile : (Unit.simple mile).dimensionIn? system.layout = some ⟨[1]⟩ := rfl
  have measuredMetre : (Unit.simple metre).dimensionIn? system.layout = some ⟨[1]⟩ := rfl
  have together : (Unit.simple mile).Admitted world.bases (.simple metre) :=
    ⟨system.layout, Or.inl home, (Unit.compatibleIn_iff measuredMile measuredMetre).2 rfl⟩
  have old : (empty : World Float).Builds 0 before (.simple mile) :=
    .made (before.take 4) (.simpleUnit 0 "mile" "mi" [] ⟨"Length"⟩ 1609.344) _ rfl rfl
  have new : ((empty : World Float).run (before ++ [.reset 0])).Builds 0 later (.simple renewed) :=
    .kept (later.take 1) (later.drop 1) _
      (.made [] (.simpleUnit 0 "metre" "m" [] ⟨"Length"⟩ 1.0) _ rfl rfl)
  have forward := (admitted (.simple mile) (.simple metre) together).1
  have apart := (reset before 0 later rfl 0 (.simple mile) (.simple renewed) old new).1
  exact ⟨forward, (alike _ _).symm.trans forward, refused _ _ apart⟩

end World

end Dimensional
