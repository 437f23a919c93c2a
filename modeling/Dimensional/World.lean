import Dimensional.System

/-!
Several quantity systems side by side. A world holds the systems, the bases frozen so far and the
next serial number for a unit; every change of a system is a step from one world to the next.
-/

set_option autoImplicit false

namespace Dimensional

structure World (α : Type) where
  bases : Bases
  systems : List (QuantitySystem α)
  nextSerial : Nat

namespace World

variable {α : Type}

def empty : World α := ⟨Bases.empty, [], 0⟩

def system? (world : World α) (index : Nat) : Option (QuantitySystem α) := world.systems[index]?

/-- A system of a new generation, with the world in which that generation is issued. -/
def fresh [Scalar α] (world : World α) : QuantitySystem α × World α :=
  (QuantitySystem.create world.bases.next world.nextSerial,
    { world with bases := world.bases.issue, nextSerial := world.nextSerial + 1 })

/-- Adds an empty system, at the next index. -/
def create [Scalar α] (world : World α) : World α :=
  let (system, world) := world.fresh
  { world with systems := world.systems ++ [system] }

/-- Replaces a system by an empty one of a new generation. -/
def reset [Scalar α] (world : World α) (index : Nat) : World α :=
  let (system, world) := world.fresh
  { world with systems := world.systems.set index system }

/-- Registers a quantity with a system; a refusal, or an index without a system, changes nothing. -/
def add (world : World α) (index : Nat) (quantity : Quantity) (unit : SimpleUnit α) :
    Except UnitError (World α) :=
  match world.systems[index]? with
  | none => .ok world
  | some system =>
    (system.add world.bases quantity unit).map fun system =>
      { world with systems := world.systems.set index system }

/-- Freezes a system. -/
def freeze (world : World α) (index : Nat) : Except UnitError (World α) :=
  match world.systems[index]? with
  | none => .ok world
  | some system => (system.freeze world.bases).map fun bases => { world with bases := bases }

/-- A new simple unit of a generation, with its own serial number. -/
def simpleUnit (world : World α) (generation : Generation) (name symbol : String)
    (synonyms : List String) (quantity : Quantity) (factor : α) : SimpleUnit α × World α :=
  ({ name, symbol, synonyms, quantity, factor, generation, serial := world.nextSerial },
    { world with nextSerial := world.nextSerial + 1 })

end World

end Dimensional
