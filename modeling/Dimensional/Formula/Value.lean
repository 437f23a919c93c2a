import Dimensional.Unit.Compatibility
import Dimensional.Number.Style

/-!
Values: numbers in a unit, with the tolerance under which they are compared. An environment binds
names to values.
-/

set_option autoImplicit false

namespace Dimensional.Formula

structure Value (α : Type) where
  number : α
  unit : Unit α
  precision : α

namespace Value

variable {α : Type}

/-- A value with the default tolerance. -/
def of [Scalar α] (number : α) (unit : Unit α) : Value α := ⟨number, unit, Scalar.defaultPrecision⟩

/-- The number that expresses the value in `target`; undefined if the units are not compatible. -/
def convertTo [Scalar α] (bases : Bases) (value : Value α) (target : Unit α) : α :=
  value.number * value.unit.conversionTo bases target

/-- Whether `b` lies within the tolerance of `a` once `a` is expressed in the unit of `b`. -/
def approxEqual [Scalar α] (bases : Bases) (a b : Value α) : Bool :=
  let factor := a.unit.conversionTo bases b.unit
  !Scalar.isUndefined factor && Scalar.withinBound (a.number * factor - b.number) a.precision

/-- The number and the label of the unit. -/
def text (value : Value Float) : String :=
  NumberStyle.plain.render value.number ++ " " ++ value.unit.label

end Value

/-- Names bound to values, each once, in the order of first binding. -/
structure Environment (α : Type) where
  bindings : List (String × Value α)

namespace Environment

variable {α : Type}

def empty : Environment α := ⟨[]⟩

def find? (env : Environment α) (name : String) : Option (Value α) := env.bindings.lookup name

def size (env : Environment α) : Nat := env.bindings.length

/-- Binding a name again replaces its value. -/
def bindIn (name : String) (value : Value α) :
    List (String × Value α) → List (String × Value α)
  | [] => [(name, value)]
  | (known, old) :: rest =>
    if known = name then (known, value) :: rest else (known, old) :: bindIn name value rest

def insert (env : Environment α) (name : String) (value : Value α) : Environment α :=
  ⟨bindIn name value env.bindings⟩

@[simp] theorem find?_empty (name : String) : (empty : Environment α).find? name = none := rfl

theorem lookup_bindIn_self (name : String) (value : Value α) (bindings : List (String × Value α)) :
    (bindIn name value bindings).lookup name = some value := by
  induction bindings with
  | nil => simp [bindIn]
  | cons entry rest ih =>
    rcases entry with ⟨known, old⟩
    unfold bindIn
    split
    · next equal => simp [equal]
    · next different =>
      have apart : (name == known) = false := by simpa using Ne.symm different
      rw [List.lookup_cons, apart]
      exact ih

@[simp] theorem find?_insert_self (env : Environment α) (name : String) (value : Value α) :
    (env.insert name value).find? name = some value :=
  lookup_bindIn_self name value env.bindings

end Environment

end Dimensional.Formula
