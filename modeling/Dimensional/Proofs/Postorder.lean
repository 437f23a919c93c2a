import Dimensional.Proofs.DimensionCheck

/-!
Evaluation node by node. The nodes of a tree in post-order, operands before their operation and the
left one first, are a program for a stack of values: a leaf pushes its value, an operation pops its
operands and pushes its result. Evaluating a tree is running this program, up to the first node that
fails, so of several failures in a tree the one that stands first in post-order is the outcome.
-/

set_option autoImplicit false

namespace Dimensional.Formula

variable {α : Type}

/-- A node of a tree without its operands. -/
inductive Node (α : Type) where
  | number (value : α)
  | identifier (name : String)
  | negate
  | binary (operator : Operator)
  | invalid (text : String)

/-- Why a run over nodes ends before the last one. -/
inductive Halt where
  | failed (error : EvalError)
  /-- The stack has too few operands for a node. -/
  | underflow
deriving DecidableEq

/-- The nodes in post-order. -/
def Expr.postorder : Expr α → List (Node α)
  | .number value => [.number value]
  | .identifier name => [.identifier name]
  | .negate operand => operand.postorder ++ [.negate]
  | .binary left operator right => left.postorder ++ (right.postorder ++ [.binary operator])
  | .invalid text => [.invalid text]

namespace Context

variable [Scalar α]

/-- Puts the outcome of an operation on the stack. -/
def push (stack : List (Value α)) : Except EvalError (Value α) → Except Halt (List (Value α))
  | .ok value => .ok (value :: stack)
  | .error error => .error (.failed error)

/-- The stack after a node; the last value pushed, which is the right operand, stands first. -/
def stepNode (context : Context α) :
    Node α → List (Value α) → Except Halt (List (Value α))
  | .number value, stack => .ok (context.result value (.simple context.system.pureUnit) :: stack)
  | .identifier name, stack =>
    match context.environment.find? name with
    | some value => .ok (value :: stack)
    | none => .error (.failed (.identifierNotFound name))
  | .negate, operand :: stack => .ok (context.result (-operand.number) operand.unit :: stack)
  | .binary operator, right :: left :: stack => push stack (context.apply operator left right)
  | .invalid _, _ => .error (.failed .invalidSyntax)
  | _, _ => .error .underflow

/-- The stack after nodes, one after the other. -/
def runNodes (context : Context α) :
    List (Node α) → List (Value α) → Except Halt (List (Value α))
  | [], stack => .ok stack
  | node :: later, stack =>
    match context.stepNode node stack with
    | .ok next => context.runNodes later next
    | .error halt => .error halt

/-- What the nodes after a tree make of its outcome. -/
def proceed (context : Context α) (later : List (Node α)) (stack : List (Value α)) :
    Except EvalError (Value α) → Except Halt (List (Value α))
  | .ok value => context.runNodes later (value :: stack)
  | .error error => .error (.failed error)

/-- A node fails on the stack that the nodes before it leave. -/
def FailsFirst (context : Context α) (nodes : List (Node α)) (error : EvalError) : Prop :=
  ∃ before node later stack, nodes = before ++ node :: later ∧
    context.runNodes before [] = .ok stack ∧ context.stepNode node stack = .error (.failed error)

variable {context : Context α}

theorem runNodes_cons_ok {node : Node α} {stack next : List (Value α)}
    (stepped : context.stepNode node stack = .ok next) (later : List (Node α)) :
    context.runNodes (node :: later) stack = context.runNodes later next := by
  simp only [runNodes, stepped]

theorem runNodes_cons_error {node : Node α} {stack : List (Value α)} {halt : Halt}
    (stopped : context.stepNode node stack = .error halt) (later : List (Node α)) :
    context.runNodes (node :: later) stack = .error halt := by
  simp only [runNodes, stopped]

/-- Nodes after a completed run start from the stack that it leaves. -/
theorem runNodes_append_ok {before : List (Node α)} {stack next : List (Value α)}
    (ran : context.runNodes before stack = .ok next) (later : List (Node α)) :
    context.runNodes (before ++ later) stack = context.runNodes later next := by
  induction before generalizing stack with
  | nil =>
    cases ran
    rfl
  | cons node before ih =>
    rw [List.cons_append]
    cases stepped : context.stepNode node stack with
    | error halt =>
      rw [runNodes_cons_error stepped] at ran
      cases ran
    | ok middle =>
      rw [runNodes_cons_ok stepped] at ran
      rw [runNodes_cons_ok stepped]
      exact ih ran

/-- A run that halts does so at one of its nodes, after all nodes before it have run. -/
theorem exists_of_runNodes_error {nodes : List (Node α)} {stack : List (Value α)} {halt : Halt}
    (halted : context.runNodes nodes stack = .error halt) :
    ∃ before node later next, nodes = before ++ node :: later ∧
      context.runNodes before stack = .ok next ∧ context.stepNode node next = .error halt := by
  induction nodes generalizing stack with
  | nil => cases halted
  | cons node nodes ih =>
    cases stepped : context.stepNode node stack with
    | error own =>
      rw [runNodes_cons_error stepped] at halted
      cases halted
      exact ⟨[], node, nodes, stack, rfl, rfl, stepped⟩
    | ok middle =>
      rw [runNodes_cons_ok stepped] at halted
      obtain ⟨before, failing, later, next, rfl, ran, stopped⟩ := ih halted
      exact ⟨node :: before, failing, later, next, rfl, (runNodes_cons_ok stepped before).trans ran,
        stopped⟩

/-- A run ends with the first failure, whatever nodes come later. -/
theorem failsFirst_iff (nodes : List (Node α)) (error : EvalError) :
    context.FailsFirst nodes error ↔ context.runNodes nodes [] = .error (.failed error) := by
  constructor
  · rintro ⟨before, node, later, stack, rfl, ran, stopped⟩
    rw [runNodes_append_ok ran, runNodes_cons_error stopped]
  · exact exists_of_runNodes_error

/-- The nodes of a tree leave its value on the stack, or stop with its error. -/
theorem runNodes_postorder (context : Context α) (expr : Expr α) (depth : Nat)
    (within : depth + expr.depth ≤ context.options.maxDepth + 1) (later : List (Node α))
    (stack : List (Value α)) :
    context.runNodes (expr.postorder ++ later) stack =
      context.proceed later stack (context.evaluateAt depth expr) := by
  have positive := expr.depth_pos
  have shallow : ¬context.options.maxDepth < depth := by omega
  -- The later nodes and the stack are general: an operand is followed by the rest of its tree.
  induction expr generalizing depth later stack with
  | number value =>
    rw [evaluateAt, if_neg shallow]
    rfl
  | identifier name =>
    rw [evaluateAt, if_neg shallow]
    change context.runNodes (.identifier name :: later) stack = _
    cases found : context.environment.find? name with
    | some value => simp only [runNodes, stepNode, found, proceed]
    | none => simp only [runNodes, stepNode, found, proceed]
  | negate operand ih =>
    have higher := operand.depth_pos
    rw [Expr.depth] at within
    rw [Expr.postorder, List.append_assoc, ih (depth + 1) (by omega) _ _ higher (by omega),
      evaluateAt, if_neg shallow]
    cases context.evaluateAt (depth + 1) operand with
    | error error => rfl
    | ok value => rfl
  | binary left operator right ihLeft ihRight =>
    have higherLeft := left.depth_pos
    have higherRight := right.depth_pos
    rw [Expr.depth] at within
    rw [Expr.postorder, List.append_assoc, List.append_assoc,
      ihLeft (depth + 1) (by omega) _ _ higherLeft (by omega), evaluateAt, if_neg shallow]
    cases context.evaluateAt (depth + 1) left with
    | error error => rfl
    | ok leftValue =>
      change context.runNodes (right.postorder ++ ([.binary operator] ++ later))
        (leftValue :: stack) = _
      rw [ihRight (depth + 1) (by omega) _ _ higherRight (by omega)]
      cases context.evaluateAt (depth + 1) right with
      | error error => rfl
      | ok rightValue =>
        change context.runNodes (.binary operator :: later) (rightValue :: leftValue :: stack) =
          context.proceed later stack (context.apply operator leftValue rightValue)
        simp only [runNodes, stepNode]
        cases context.apply operator leftValue rightValue with
        | error error => rfl
        | ok value => rfl
  | invalid text =>
    rw [evaluateAt, if_neg shallow]
    rfl

/-- Evaluation is the run over the nodes in post-order. It succeeds with the one value that the run
leaves on the stack, and fails with the error of the first node whose own step fails; the stack
never lacks an operand. -/
theorem evaluate_eq_runNodes (context : Context α)
    (frozen : context.system.isFrozen context.bases = true) (expr : Expr α)
    (shallow : expr.depth ≤ context.options.maxDepth) :
    context.runNodes expr.postorder [] = push [] (context.evaluate expr) ∧
    (∀ value, context.evaluate expr = .ok value ↔
      context.runNodes expr.postorder [] = .ok [value]) ∧
    ∀ error, context.evaluate expr = .error error ↔ context.FailsFirst expr.postorder error := by
  obtain ⟨base, own⟩ := Option.isSome_iff_exists.1 frozen
  have ran : context.runNodes expr.postorder [] = push [] (context.evaluate expr) := by
    have whole := runNodes_postorder context expr 1 (by omega) [] []
    rw [List.append_nil] at whole
    rw [whole, evaluate_eq own]
    cases context.evaluateAt 1 expr with
    | error error => rfl
    | ok value => rfl
  refine ⟨ran, ?_, ?_⟩
  · intro value
    rw [ran]
    cases context.evaluate expr <;> simp [push]
  · intro error
    rw [failsFirst_iff, ran]
    cases context.evaluate expr <;> simp [push]

/-- A distance to the power of a distance stands before a name without a value, and both before a
remainder: the exponent is the first failure. -/
theorem evaluate_of_several_failures :
    (lengths distances).evaluate
        (.binary (.binary (.identifier "far") .power (.identifier "near")) .modulo
          (.identifier "nowhere")) =
      .error .dimensionedExponent := by
  refine ((evaluate_eq_runNodes (lengths distances) rfl _ (by decide)).2.2 _).2 ?_
  refine ⟨[.identifier "far", .identifier "near"], .binary .power,
    [.identifier "nowhere", .binary .modulo], _, rfl, rfl, rfl⟩

end Context

end Dimensional.Formula
