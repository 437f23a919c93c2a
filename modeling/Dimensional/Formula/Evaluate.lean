import Dimensional.Formula.Value
import Dimensional.Formula.Error
import Dimensional.Unit.Product
import Dimensional.System

/-!
Evaluation of trees. Numbers are pure; a sum is in the unit of its right operand, into which the
left one is converted; products and quotients combine the units of their operands; a power keeps the
unit of its base and needs a dimensionless exponent. The first failure from left to right, operands
before their operation, is the outcome.
-/

set_option autoImplicit false

namespace Dimensional.Formula

structure Options (α : Type) where
  /-- The height of the highest tree that is evaluated. -/
  maxDepth : Nat
  /-- The tolerance of every value that evaluation makes. -/
  precision : α

def Options.standard {α : Type} [Scalar α] : Options α := ⟨256, Scalar.defaultPrecision⟩

/-- What the value of a tree depends on. -/
structure Context (α : Type) where
  bases : Bases
  system : QuantitySystem α
  environment : Environment α
  options : Options α

namespace Context

variable {α : Type} [Scalar α]

/-- A value that evaluation makes. -/
def result (context : Context α) (number : α) (unit : Unit α) : Value α :=
  ⟨number, unit, context.options.precision⟩

/-- Adds or subtracts, in the unit of the right operand. -/
def combine (context : Context α) (operation : α → α → α) (left right : Value α) :
    Except EvalError (Value α) :=
  let factor := left.unit.conversionTo context.bases right.unit
  if Scalar.isUndefined factor then
    .error (.incompatibleUnits left.unit.name right.unit.name)
  else .ok (context.result (operation (left.number * factor) right.number) right.unit)

/-- Gives a number the unit that unit arithmetic made. -/
def withUnit (context : Context α) (number : α) (unit : Except UnitError (Unit α)) :
    Except EvalError (Value α) :=
  match unit with
  | .ok unit => .ok (context.result number unit)
  | .error error => .error (.units error)

/-- The value of an operation on two values. -/
def apply (context : Context α) (operator : Operator) (left right : Value α) :
    Except EvalError (Value α) :=
  match operator with
  | .add => context.combine (· + ·) left right
  | .subtract => context.combine (· - ·) left right
  | .multiply =>
    context.withUnit (left.number * right.number) (left.unit.multiply context.bases right.unit)
  | .divide =>
    context.withUnit (left.number / right.number) (left.unit.divide context.bases right.unit)
  | .power =>
    if right.unit.isDimensionless context.bases then
      .ok (context.result (Scalar.power left.number right.number) left.unit)
    else .error .dimensionedExponent
  | .modulo => .error (.unsupportedOperator .modulo)

/-- The value of a tree that stands at the given depth below the root. -/
def evaluateAt (context : Context α) : Nat → Expr α → Except EvalError (Value α)
  | depth, expr =>
    if context.options.maxDepth < depth then .error (.depthExceeded context.options.maxDepth)
    else
      match expr with
      | .number value => .ok (context.result value (.simple context.system.pureUnit))
      | .identifier name =>
        match context.environment.find? name with
        | some value => .ok value
        | none => .error (.identifierNotFound name)
      | .negate operand =>
        match context.evaluateAt (depth + 1) operand with
        | .error error => .error error
        | .ok value => .ok (context.result (-value.number) value.unit)
      | .binary left operator right =>
        match context.evaluateAt (depth + 1) left with
        | .error error => .error error
        | .ok leftValue =>
          match context.evaluateAt (depth + 1) right with
          | .error error => .error error
          | .ok rightValue => context.apply operator leftValue rightValue
      | .invalid _ => .error .invalidSyntax

/-- The value of a tree. The quantity system must be frozen. -/
def evaluate (context : Context α) (expr : Expr α) : Except EvalError (Value α) :=
  match context.system.base context.bases with
  | .error error => .error (.units error)
  | .ok _ => context.evaluateAt 1 expr

end Context

end Dimensional.Formula
