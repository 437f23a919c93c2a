import Dimensional.World

/-!
Histories of several quantity systems. An operation on a world gives a reply and the world after it;
`Steps` lists all that one operation can do, with the conditions under which it does it, and every
invariant of a history is read off from it. In a world that has a history no two systems are of one
generation.
-/

set_option autoImplicit false

namespace Dimensional

/-- What can be done with the systems of a world, which are numbered in the order of their
creation. -/
inductive Operation (α : Type) where
  | create
  | reset (index : Nat)
  | add (index : Nat) (quantity : Quantity) (unit : SimpleUnit α)
  | freeze (index : Nat)
  | simpleUnit (index : Nat) (name symbol : String) (synonyms : List String) (quantity : Quantity)
    (factor : α)
  | compositeUnit (index : Nat) (name symbol : String) (synonyms : List String)
    (dividend divisor : List (SimpleUnit α))

/-- Registers the quantity that a unit measures. -/
def Operation.addQuantity {α : Type} (index : Nat) (unit : SimpleUnit α) : Operation α :=
  .add index unit.quantity unit

/-- The system on which an operation is called. -/
def Operation.index? {α : Type} : Operation α → Option Nat
  | .create => none
  | .reset index => some index
  | .add index _ _ => some index
  | .freeze index => some index
  | .simpleUnit index _ _ _ _ _ => some index
  | .compositeUnit index _ _ _ _ _ => some index

inductive Reply (α : Type) where
  | done
  | refused (error : UnitError)
  | made (unit : Unit α)
  /-- There is no system with the number. -/
  | absent

instance Reply.decidableEqDone {α : Type} : (reply : Reply α) → Decidable (reply = .done)
  | .done => isTrue rfl
  | .refused _ => isFalse nofun
  | .made _ => isFalse nofun
  | .absent => isFalse nofun

namespace World

variable {α : Type}

/-- A refusal leaves the world as it is. -/
def settle (world : World α) : Except UnitError (World α) → Reply α × World α
  | .ok next => (.done, next)
  | .error error => (.refused error, world)

/-- Acts on a system, if there is one with the number. -/
def onSystem (world : World α) (index : Nat) (act : QuantitySystem α → Reply α × World α) :
    Reply α × World α :=
  match world.system? index with
  | some system => act system
  | none => (.absent, world)

/-- The reply to an operation and the world after it. A unit is of the generation that its system
has when it is made. -/
def step [Scalar α] (world : World α) : Operation α → Reply α × World α
  | .create => (.done, world.create)
  | .reset index => world.onSystem index fun _ => (.done, world.reset index)
  | .add index quantity unit =>
    world.onSystem index fun _ => world.settle (world.add index quantity unit)
  | .freeze index => world.onSystem index fun _ => world.settle (world.freeze index)
  | .simpleUnit index name symbol synonyms quantity factor =>
    world.onSystem index fun system =>
      let (unit, next) :=
        world.simpleUnit system.generation name symbol synonyms quantity factor
      (.made (.simple unit), next)
  | .compositeUnit index name symbol synonyms dividend divisor =>
    world.onSystem index fun system =>
      (.made (.composite ⟨name, symbol, synonyms, dividend, divisor, system.generation⟩), world)

/-- The world after operations. -/
def run [Scalar α] (world : World α) (operations : List (Operation α)) : World α :=
  operations.foldl (fun world operation => (world.step operation).2) world

@[simp] theorem run_nil [Scalar α] (world : World α) : world.run [] = world := rfl

@[simp] theorem run_cons [Scalar α] (world : World α) (operation : Operation α)
    (later : List (Operation α)) :
    world.run (operation :: later) = (world.step operation).2.run later := rfl

@[simp] theorem run_append [Scalar α] (world : World α) (operations later : List (Operation α)) :
    world.run (operations ++ later) = (world.run operations).run later :=
  List.foldl_append

/-- All that an operation can do. -/
inductive Steps [Scalar α] (world : World α) : Operation α → Reply α → World α → Prop where
  | created : Steps world .create .done world.create
  | reset (index : Nat) (system : QuantitySystem α)
      (present : world.system? index = some system) :
      Steps world (.reset index) .done (world.reset index)
  | added (index : Nat) (quantity : Quantity) (unit : SimpleUnit α) (system : QuantitySystem α)
      (present : world.system? index = some system)
      (unfrozen : world.bases.base? system.generation = none)
      (native : unit.generation = system.generation) (measured : unit.quantity = quantity) :
      Steps world (.add index quantity unit) .done
        { world with
          systems := world.systems.set index
            { system with registry := system.registry.put quantity unit } }
  | frozen (index : Nat) (system : QuantitySystem α)
      (present : world.system? index = some system)
      (unfrozen : world.bases.base? system.generation = none) :
      Steps world (.freeze index) .done
        { world with bases := world.bases.freeze system.layout }
  | refused (operation : Operation α) (error : UnitError) :
      Steps world operation (.refused error) world
  | madeSimple (index : Nat) (name symbol : String) (synonyms : List String)
      (quantity : Quantity) (factor : α) (system : QuantitySystem α)
      (present : world.system? index = some system) :
      Steps world (.simpleUnit index name symbol synonyms quantity factor)
        (.made (.simple ⟨name, symbol, synonyms, quantity, factor, system.generation,
          world.nextSerial⟩))
        { world with nextSerial := world.nextSerial + 1 }
  | madeComposite (index : Nat) (name symbol : String) (synonyms : List String)
      (dividend divisor : List (SimpleUnit α)) (system : QuantitySystem α)
      (present : world.system? index = some system) :
      Steps world (.compositeUnit index name symbol synonyms dividend divisor)
        (.made (.composite ⟨name, symbol, synonyms, dividend, divisor, system.generation⟩)) world
  | absent (operation : Operation α) (index : Nat) (target : operation.index? = some index)
      (missing : world.system? index = none) : Steps world operation .absent world

variable {world : World α}

theorem system?_set {index : Nat} {system : QuantitySystem α}
    (present : world.system? index = some system) (changed : QuantitySystem α) (other : Nat) :
    (world.systems.set index changed)[other]? =
      if other = index then some changed else world.system? other := by
  have inside : index < world.systems.length := (List.getElem?_eq_some_iff.1 present).1
  by_cases same : other = index
  · simp [same, inside]
  · rw [if_neg same, List.getElem?_set_ne (Ne.symm same)]
    rfl

theorem system?_add {index : Nat} {system : QuantitySystem α}
    (present : world.system? index = some system) (changed : QuantitySystem α) (other : Nat) :
    ({ world with systems := world.systems.set index changed } : World α).system? other =
      if other = index then some changed else world.system? other :=
  system?_set present changed other

/-- Every system is of an issued generation, and no two systems are of one. -/
structure Coherent (world : World α) : Prop where
  issued : ∀ index system, world.system? index = some system →
    system.generation.index < world.bases.issued.length
  distinct : ∀ index other system second, world.system? index = some system →
    world.system? other = some second → system.generation = second.generation → index = other

theorem coherent_empty : (empty : World α).Coherent := by
  constructor
  · intro index system present
    cases present
  · intro index other system second present
    cases present

theorem Coherent.of_generations {next : World α} (coherent : world.Coherent)
    (length : next.bases.issued.length = world.bases.issued.length)
    (systems : ∀ index system, next.system? index = some system →
      ∃ old, world.system? index = some old ∧ old.generation = system.generation) :
    next.Coherent := by
  constructor
  · intro index system present
    obtain ⟨old, held, same⟩ := systems index system present
    rw [length, ← same]
    exact coherent.issued index old held
  · intro index other system second presentA presentB same
    obtain ⟨oldA, heldA, sameA⟩ := systems index system presentA
    obtain ⟨oldB, heldB, sameB⟩ := systems other second presentB
    exact coherent.distinct index other oldA oldB heldA heldB (by rw [sameA, sameB, same])

variable [Scalar α]

theorem steps_add (index : Nat) (quantity : Quantity) (unit : SimpleUnit α)
    {system : QuantitySystem α} (present : world.system? index = some system) :
    Steps world (.add index quantity unit) (world.step (.add index quantity unit)).1
      (world.step (.add index quantity unit)).2 := by
  have held : world.systems[index]? = some system := present
  simp only [step, onSystem, present, World.add, held, QuantitySystem.add]
  split
  · exact .refused _ _
  · next unfrozen =>
    split
    · exact .refused _ _
    · next native =>
      split
      · exact .refused _ _
      · next measured =>
        have unknown : world.bases.base? system.generation = none := by
          simpa [QuantitySystem.isFrozen, QuantitySystem.base?] using unfrozen
        exact .added index quantity unit system present unknown (Decidable.not_not.1 native)
          (Decidable.not_not.1 measured)

theorem steps_freeze (index : Nat) {system : QuantitySystem α}
    (present : world.system? index = some system) :
    Steps world (.freeze index) (world.step (.freeze index)).1 (world.step (.freeze index)).2 := by
  have held : world.systems[index]? = some system := present
  simp only [step, onSystem, present, World.freeze, held, QuantitySystem.freeze]
  split
  · exact .refused _ _
  · next unfrozen =>
    have unknown : world.bases.base? system.generation = none := by
      simpa [QuantitySystem.isFrozen, QuantitySystem.base?] using unfrozen
    exact .frozen index system present unknown

/-- An operation does one of the things that `Steps` lists. -/
theorem steps (world : World α) (operation : Operation α) :
    Steps world operation (world.step operation).1 (world.step operation).2 := by
  cases target : operation.index? with
  | none =>
    cases operation with
    | create => exact .created
    | _ => cases target
  | some index =>
    cases present : world.system? index with
    | none =>
      have idle : world.step operation = (.absent, world) := by
        cases operation <;> cases target <;> simp only [step, onSystem, present]
      rw [idle]
      exact .absent operation index target present
    | some system =>
      cases operation with
      | create => cases target
      | reset index =>
        cases target
        simp only [step, onSystem, present]
        exact .reset _ system present
      | add index quantity unit =>
        cases target
        exact steps_add _ quantity unit present
      | freeze index =>
        cases target
        exact steps_freeze _ present
      | simpleUnit index name symbol synonyms quantity factor =>
        cases target
        simp only [step, onSystem, present]
        exact .madeSimple _ name symbol synonyms quantity factor system present
      | compositeUnit index name symbol synonyms dividend divisor =>
        cases target
        simp only [step, onSystem, present]
        exact .madeComposite _ name symbol synonyms dividend divisor system present

/-- The system with which a new generation begins. -/
def newSystem (world : World α) : QuantitySystem α :=
  QuantitySystem.create world.bases.next world.nextSerial

theorem system?_create (world : World α) (index : Nat) :
    world.create.system? index =
      if index = world.systems.length then some world.newSystem else world.system? index := by
  change (world.systems ++ [world.newSystem])[index]? = _
  by_cases last : index = world.systems.length
  · simp [last]
  · rw [if_neg last, List.getElem?_append]
    by_cases old : index < world.systems.length
    · rw [if_pos old]
      rfl
    · have beyond : world.systems.length < index := by omega
      rw [if_neg old]
      simp [system?, Nat.le_of_lt beyond, Nat.sub_ne_zero_of_lt beyond]

theorem system?_reset {index : Nat} {system : QuantitySystem α}
    (present : world.system? index = some system) (other : Nat) :
    (world.reset index).system? other =
      if other = index then some world.newSystem else world.system? other :=
  system?_set present world.newSystem other

/-- A system whose generation has just been issued is unlike all others. -/
theorem Coherent.renew {next : World α} (coherent : world.Coherent) (place : Nat)
    (bases : next.bases = world.bases.issue)
    (systems : ∀ other, next.system? other =
      if other = place then some world.newSystem else world.system? other) :
    next.Coherent := by
  have length : next.bases.issued.length = world.bases.issued.length + 1 := by
    simp [bases, Bases.issue]
  have fresh : ∀ index system, world.system? index = some system →
      system.generation ≠ world.newSystem.generation := by
    intro index system present same
    have old := coherent.issued index system present
    rw [same] at old
    exact Nat.lt_irrefl _ old
  constructor
  · intro index system present
    rw [systems] at present
    split at present
    · cases present
      rw [length]
      exact Nat.lt_succ_self _
    · have old := coherent.issued index system present
      omega
  · intro index other system second presentA presentB same
    rw [systems] at presentA presentB
    split at presentA <;> split at presentB
    · omega
    · cases presentA
      exact absurd same.symm (fresh other second presentB)
    · cases presentB
      exact absurd same (fresh index system presentA)
    · exact coherent.distinct index other system second presentA presentB same

theorem Coherent.step (coherent : world.Coherent) (operation : Operation α) :
    (world.step operation).2.Coherent := by
  have did := steps world operation
  generalize (world.step operation).1 = reply at did
  generalize (world.step operation).2 = next at did ⊢
  cases did with
  | created => exact coherent.renew world.systems.length rfl (system?_create world)
  | reset index system present => exact coherent.renew index rfl (system?_reset present)
  | added index quantity unit system present unfrozen native measured =>
    refine coherent.of_generations rfl ?_
    intro other second held
    rw [system?_add present] at held
    split at held
    · next same =>
      cases held
      exact ⟨system, same ▸ present, rfl⟩
    · exact ⟨second, held, rfl⟩
  | frozen index system present unfrozen =>
    refine coherent.of_generations ?_ fun other second held => ⟨second, held, rfl⟩
    simp [Bases.freeze]
  | refused operation error => exact coherent
  | madeSimple index name symbol synonyms quantity factor system present =>
    exact coherent.of_generations rfl fun other second held => ⟨second, held, rfl⟩
  | madeComposite index name symbol synonyms dividend divisor system present => exact coherent
  | absent operation index target missing => exact coherent

theorem Coherent.run (coherent : world.Coherent) (operations : List (Operation α)) :
    (world.run operations).Coherent := by
  induction operations generalizing world with
  | nil => exact coherent
  | cons operation later ih => exact ih (coherent.step operation)

/-- After an operation a system has the generation that it had, or one that is issued just then. -/
theorem generation_of_step (operation : Operation α) {index : Nat} {system : QuantitySystem α}
    (present : (world.step operation).2.system? index = some system) :
    system.generation = world.bases.next ∨
      ∃ old, world.system? index = some old ∧ old.generation = system.generation := by
  have did := steps world operation
  generalize (world.step operation).1 = reply at did
  generalize (world.step operation).2 = next at did present
  cases did with
  | created =>
    rw [system?_create] at present
    split at present
    · cases present
      exact Or.inl rfl
    · exact Or.inr ⟨system, present, rfl⟩
  | reset other second held =>
    rw [system?_reset held] at present
    split at present
    · cases present
      exact Or.inl rfl
    · exact Or.inr ⟨system, present, rfl⟩
  | added other quantity unit second held unfrozen native measured =>
    rw [system?_add held] at present
    split at present
    · next same =>
      cases present
      exact Or.inr ⟨second, same ▸ held, rfl⟩
    · exact Or.inr ⟨system, present, rfl⟩
  | _ => exact Or.inr ⟨system, present, rfl⟩

/-- No generation is taken back. -/
theorem issued_le_step (world : World α) (operation : Operation α) :
    world.bases.issued.length ≤ (world.step operation).2.bases.issued.length := by
  have did := steps world operation
  generalize (world.step operation).1 = reply at did
  generalize (world.step operation).2 = next at did ⊢
  cases did with
  | created => simp [World.create, fresh, Bases.issue]
  | reset index system present => simp [World.reset, fresh, Bases.issue]
  | frozen index system present unfrozen => simp [Bases.freeze]
  | _ => exact Nat.le_refl _

theorem issued_le_run (world : World α) (operations : List (Operation α)) :
    world.bases.issued.length ≤ (world.run operations).bases.issued.length := by
  induction operations generalizing world with
  | nil => exact Nat.le_refl _
  | cons operation later ih => exact Nat.le_trans (issued_le_step world operation) (ih _)

end World

end Dimensional
