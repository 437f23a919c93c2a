import Dimensional.Dimension
import Dimensional.Registry
import Dimensional.Unit.Basic

/-!
Frozen bases. A base gives every quantity that its generation registered a vector: one slot for each
quantity that is not dimensionless, in the order of registration. `Bases` records which generations
have been issued and what each frozen one registered; units look their base up there by generation,
so they may be made before it exists.
-/

set_option autoImplicit false

namespace Dimensional

/-- The registered quantities with the names of their reference units, to which factors are
relative. -/
structure Base where
  generation : Generation
  registry : Registry String

namespace Base

def quantities (base : Base) : List Quantity := base.registry.quantities

/-- The length of every vector. -/
def rank (base : Base) : Nat := base.registry.rank

def size (base : Base) : Nat := base.quantities.length

/-- Gives each quantity its vector; `slot` is the first one that is free. -/
def layOut (rank : Nat) : Nat → List Quantity → List (Quantity × Dimension)
  | _, [] => []
  | slot, quantity :: rest =>
    if quantity.isDimensionless then (quantity, Dimension.zeros rank) :: layOut rank slot rest
    else (quantity, Dimension.oneHot rank slot) :: layOut rank (slot + 1) rest

/-- The quantities with their vectors. -/
def layout (base : Base) : List (Quantity × Dimension) := layOut base.rank 0 base.quantities

def dimension? (base : Base) (quantity : Quantity) : Option Dimension :=
  base.layout.lookup quantity

/-- The name of the reference unit of a quantity. -/
def defaultUnit? (base : Base) (quantity : Quantity) : Option String :=
  base.registry.lookup? quantity

def contains (base : Base) (quantity : Quantity) : Bool := (base.dimension? quantity).isSome

theorem layOut_quantities (rank slot : Nat) (quantities : List Quantity) :
    (layOut rank slot quantities).map (·.1) = quantities := by
  fun_induction layOut rank slot quantities <;> simp_all

@[simp] theorem layout_quantities (base : Base) : base.layout.map (·.1) = base.quantities :=
  layOut_quantities base.rank 0 base.quantities

end Base

/-- What each generation issued so far has registered, if it is frozen, by generation index. -/
structure Bases where
  issued : List (Option (Registry String))

namespace Bases

def empty : Bases := ⟨[]⟩

def base? (bases : Bases) (generation : Generation) : Option Base :=
  bases.issued[generation.index]?.join.map fun registry => ⟨generation, registry⟩

/-- The next generation, open. -/
def next (bases : Bases) : Generation := ⟨bases.issued.length⟩

def issue (bases : Bases) : Bases := ⟨bases.issued ++ [none]⟩

def freeze (bases : Bases) (base : Base) : Bases :=
  ⟨bases.issued.set base.generation.index (some base.registry)⟩

@[simp] theorem base?_empty (generation : Generation) : empty.base? generation = none := by
  simp [base?, empty]

/-- A base belongs to the generation under which it is found. -/
theorem generation_of_base? (bases : Bases) (generation : Generation) (base : Base)
    (found : bases.base? generation = some base) : base.generation = generation := by
  unfold base? at found
  obtain ⟨registry, _, rfl⟩ := Option.map_eq_some_iff.1 found
  rfl

@[simp] theorem base?_issue (bases : Bases) (generation : Generation) :
    bases.issue.base? generation = bases.base? generation := by
  unfold base? issue
  by_cases old : generation.index < bases.issued.length
  · simp [List.getElem?_append_left old]
  · have beyond : bases.issued.length ≤ generation.index := by omega
    rw [List.getElem?_append_right beyond, List.getElem?_eq_none beyond]
    cases position : generation.index - bases.issued.length <;> simp

theorem base?_freeze_other (bases : Bases) (base : Base) (generation : Generation)
    (other : generation ≠ base.generation) :
    (bases.freeze base).base? generation = bases.base? generation := by
  have apart : base.generation.index ≠ generation.index := by
    intro equal
    apply other
    cases generation
    cases position : base.generation
    simp_all
  simp [base?, freeze, List.getElem?_set_ne apart]

theorem base?_freeze_self (bases : Bases) (base : Base)
    (issued : base.generation.index < bases.issued.length) :
    (bases.freeze base).base? base.generation = some base := by
  simp [base?, freeze, issued]

end Bases

end Dimensional
