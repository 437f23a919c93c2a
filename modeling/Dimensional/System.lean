import Dimensional.Base
import Dimensional.Unit.Error

/-!
Quantity systems. A system collects quantities, each with a reference unit, until it is frozen; from
then on its base is fixed.
-/

set_option autoImplicit false

namespace Dimensional

structure QuantitySystem (α : Type) where
  generation : Generation
  /-- The serial number of the unit of pure numbers. -/
  serial : Nat
  registry : Registry (SimpleUnit α)

/-- The unit of pure numbers of a generation. -/
def SimpleUnit.pure {α : Type} [Scalar α] (generation : Generation) (serial : Nat) :
    SimpleUnit α where
  name := pureUnitName
  symbol := ""
  synonyms := []
  quantity := Quantity.dimensionless
  factor := Scalar.one
  generation := generation
  serial := serial

namespace QuantitySystem

variable {α : Type}

/-- The unit of pure numbers of the system. -/
def pureUnit [Scalar α] (system : QuantitySystem α) : SimpleUnit α :=
  SimpleUnit.pure system.generation system.serial

/-- A system that knows pure numbers only. -/
def create [Scalar α] (generation : Generation) (serial : Nat) : QuantitySystem α :=
  ⟨generation, serial, Registry.single (SimpleUnit.pure generation serial)⟩

def base? (system : QuantitySystem α) (bases : Bases) : Option Base :=
  bases.base? system.generation

def isFrozen (system : QuantitySystem α) (bases : Bases) : Bool := (system.base? bases).isSome

/-- The frozen base of the system. -/
def base (system : QuantitySystem α) (bases : Bases) : Except UnitError Base :=
  match system.base? bases with
  | some base => .ok base
  | none => .error .notInitialized

/-- The reference unit registered so far. -/
def defaultUnit? (system : QuantitySystem α) (quantity : Quantity) : Option (SimpleUnit α) :=
  system.registry.lookup? quantity

/-- Registers a quantity, unless the system is frozen, the unit belongs to another generation or it
measures another quantity, in this order. -/
def add (system : QuantitySystem α) (bases : Bases) (quantity : Quantity) (unit : SimpleUnit α) :
    Except UnitError (QuantitySystem α) :=
  if system.isFrozen bases then .error .alreadyInitialized
  else if unit.generation ≠ system.generation then .error (.foreignUnit unit.name)
  else if unit.quantity ≠ quantity then
    .error (.quantityMismatch quantity.name unit.name unit.quantity.name)
  else .ok { system with registry := system.registry.put quantity unit }

/-- The base that freezing the system now gives. -/
def layout (system : QuantitySystem α) : Base :=
  ⟨system.generation, system.registry.map (·.name)⟩

/-- Freezes the system; this succeeds once in a generation. -/
def freeze (system : QuantitySystem α) (bases : Bases) : Except UnitError Bases :=
  if system.isFrozen bases then .error .alreadyInitialized
  else .ok (bases.freeze system.layout)

end QuantitySystem

end Dimensional
