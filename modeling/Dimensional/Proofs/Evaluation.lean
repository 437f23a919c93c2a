import Dimensional.Formula.Evaluate

/-!
What an evaluation went through: one lemma for each kind of tree where it succeeds, and one relation
for the places where it can fail. The units of all values are made from those of the names and the
unit of pure numbers by products and quotients.
-/

set_option autoImplicit false

namespace Dimensional.Formula

variable {α : Type}

theorem Environment.mem_of_find? {environment : Environment α} {name : String} {value : Value α}
    (found : environment.find? name = some value) : (name, value) ∈ environment.bindings := by
  obtain ⟨before, after, shape, _⟩ := List.lookup_eq_some_iff.1 found
  rw [shape]
  simp

namespace Context

/-- The same context with other values for the names. -/
def rebind (context : Context α) (environment : Environment α) : Context α :=
  { context with environment := environment }

variable {context : Context α} {depth : Nat} {value : Value α}

theorem unit_of_withUnit {number : α} {unit : Except UnitError (Unit α)}
    (computed : context.withUnit number unit = .ok value) : unit = .ok value.unit := by
  cases unit with
  | error error => cases computed
  | ok unit =>
    rw [← Except.ok.inj computed]
    rfl

theorem withUnit_error {number : α} {unit : Except UnitError (Unit α)} {error : EvalError}
    (failed : context.withUnit number unit = .error error) :
    ∃ cause, unit = .error cause ∧ error = .units cause := by
  cases unit with
  | error cause => exact ⟨cause, rfl, (Except.error.inj failed).symm⟩
  | ok unit => cases failed

variable [Scalar α]

theorem evaluate_eq {base : Base} (frozen : context.system.base? context.bases = some base)
    (expr : Expr α) : context.evaluate expr = context.evaluateAt 1 expr := by
  simp only [evaluate, QuantitySystem.base, frozen]

theorem evaluateAt_of_evaluate {expr : Expr α} (computed : context.evaluate expr = .ok value) :
    context.evaluateAt 1 expr = .ok value := by
  rw [evaluate] at computed
  split at computed
  · cases computed
  · exact computed

theorem evaluateAt_of_deep (deep : context.options.maxDepth < depth) (expr : Expr α) :
    context.evaluateAt depth expr = .error (.depthExceeded context.options.maxDepth) := by
  cases expr <;> simp only [evaluateAt, deep, ↓reduceIte]

theorem not_deep_of_evaluateAt {expr : Expr α}
    (computed : context.evaluateAt depth expr = .ok value) : ¬context.options.maxDepth < depth := by
  intro deep
  rw [evaluateAt_of_deep deep] at computed
  cases computed

theorem eq_of_evaluateAt_number {number : α}
    (computed : context.evaluateAt depth (.number number) = .ok value) :
    value = context.result number (.simple context.system.pureUnit) := by
  have shallow := not_deep_of_evaluateAt computed
  rw [evaluateAt, if_neg shallow] at computed
  exact (Except.ok.inj computed).symm

theorem find?_of_evaluateAt_identifier {name : String}
    (computed : context.evaluateAt depth (.identifier name) = .ok value) :
    context.environment.find? name = some value := by
  have shallow := not_deep_of_evaluateAt computed
  rw [evaluateAt, if_neg shallow] at computed
  cases found : context.environment.find? name with
  | none =>
    rw [found] at computed
    cases computed
  | some bound =>
    rw [found] at computed
    rw [Except.ok.inj computed]

theorem exists_of_evaluateAt_negate {operand : Expr α}
    (computed : context.evaluateAt depth (.negate operand) = .ok value) :
    ∃ inner, context.evaluateAt (depth + 1) operand = .ok inner ∧
      value = context.result (-inner.number) inner.unit := by
  have shallow := not_deep_of_evaluateAt computed
  rw [evaluateAt, if_neg shallow] at computed
  cases below : context.evaluateAt (depth + 1) operand with
  | error error =>
    rw [below] at computed
    cases computed
  | ok inner =>
    rw [below] at computed
    exact ⟨inner, rfl, (Except.ok.inj computed).symm⟩

theorem exists_of_evaluateAt_binary {left right : Expr α} {operator : Operator}
    (computed : context.evaluateAt depth (.binary left operator right) = .ok value) :
    ∃ leftValue rightValue, context.evaluateAt (depth + 1) left = .ok leftValue ∧
      context.evaluateAt (depth + 1) right = .ok rightValue ∧
      context.apply operator leftValue rightValue = .ok value := by
  have shallow := not_deep_of_evaluateAt computed
  rw [evaluateAt, if_neg shallow] at computed
  cases onLeft : context.evaluateAt (depth + 1) left with
  | error error =>
    rw [onLeft] at computed
    cases computed
  | ok leftValue =>
    cases onRight : context.evaluateAt (depth + 1) right with
    | error error =>
      rw [onLeft, onRight] at computed
      cases computed
    | ok rightValue =>
      rw [onLeft, onRight] at computed
      exact ⟨leftValue, rightValue, rfl, rfl, computed⟩

theorem evaluateAt_invalid_ne_ok {text : String} :
    context.evaluateAt depth (.invalid text) ≠ .ok value := by
  intro computed
  have shallow := not_deep_of_evaluateAt computed
  rw [evaluateAt, if_neg shallow] at computed
  cases computed

/-- A sum that has a value is in the unit of its right operand. -/
theorem unit_of_combine {operation : α → α → α} {left right : Value α}
    (computed : context.combine operation left right = .ok value) : value.unit = right.unit := by
  rw [combine] at computed
  split at computed
  · cases computed
  · rw [← Except.ok.inj computed]
    rfl

theorem combine_error {operation : α → α → α} {left right : Value α} {error : EvalError}
    (failed : context.combine operation left right = .error error) :
    error = .incompatibleUnits left.unit.name right.unit.name ∧
      Scalar.isUndefined (left.unit.conversionTo context.bases right.unit) = true := by
  rw [combine] at failed
  split at failed
  · next undefined => exact ⟨(Except.error.inj failed).symm, undefined⟩
  · cases failed

/-- The ways in which an operation on two values fails. -/
theorem apply_error {operator : Operator} {left right : Value α} {error : EvalError}
    (failed : context.apply operator left right = .error error) :
    error = .incompatibleUnits left.unit.name right.unit.name ∨ error = .dimensionedExponent ∨
      error = .unsupportedOperator .modulo ∨ ∃ cause, error = .units cause := by
  cases operator with
  | add => exact Or.inl (combine_error failed).1
  | subtract => exact Or.inl (combine_error failed).1
  | multiply =>
    obtain ⟨cause, _, same⟩ := withUnit_error failed
    exact Or.inr (Or.inr (Or.inr ⟨cause, same⟩))
  | divide =>
    obtain ⟨cause, _, same⟩ := withUnit_error failed
    exact Or.inr (Or.inr (Or.inr ⟨cause, same⟩))
  | power =>
    rw [apply] at failed
    split at failed
    · cases failed
    · exact Or.inr (Or.inl (Except.error.inj failed).symm)
  | modulo => exact Or.inr (Or.inr (Or.inl (Except.error.inj failed).symm))

/-- Where the evaluation of a tree at a depth fails, and with which error: at a level that is too
deep, at a leaf without a value, or at an operation whose operands have values. -/
inductive Fails (context : Context α) : Nat → Expr α → EvalError → Prop where
  | deep {depth : Nat} {expr : Expr α} (deep : context.options.maxDepth < depth) :
      Fails context depth expr (.depthExceeded context.options.maxDepth)
  | unbound {depth : Nat} {name : String} (absent : context.environment.find? name = none) :
      Fails context depth (.identifier name) (.identifierNotFound name)
  | operand {depth : Nat} {operand : Expr α} {error : EvalError}
      (inside : Fails context (depth + 1) operand error) :
      Fails context depth (.negate operand) error
  | left {depth : Nat} {left right : Expr α} {operator : Operator} {error : EvalError}
      (onLeft : Fails context (depth + 1) left error) :
      Fails context depth (.binary left operator right) error
  | right {depth : Nat} {left right : Expr α} {operator : Operator} {error : EvalError}
      {leftValue : Value α} (onLeft : context.evaluateAt (depth + 1) left = .ok leftValue)
      (onRight : Fails context (depth + 1) right error) :
      Fails context depth (.binary left operator right) error
  | operation {depth : Nat} {left right : Expr α} {operator : Operator} {error : EvalError}
      {leftValue rightValue : Value α}
      (onLeft : context.evaluateAt (depth + 1) left = .ok leftValue)
      (onRight : context.evaluateAt (depth + 1) right = .ok rightValue)
      (failed : context.apply operator leftValue rightValue = .error error) :
      Fails context depth (.binary left operator right) error
  | invalid {depth : Nat} {text : String} : Fails context depth (.invalid text) .invalidSyntax

theorem fails_of_evaluateAt {expr : Expr α} {error : EvalError}
    (failed : context.evaluateAt depth expr = .error error) : context.Fails depth expr error := by
  -- At every level the depth is checked before the tree is looked at.
  have tooDeep : ∀ depth (expr : Expr α), context.options.maxDepth < depth →
      context.evaluateAt depth expr = .error error → context.Fails depth expr error := by
    intro depth expr deep failed
    rw [evaluateAt_of_deep deep] at failed
    cases failed
    exact .deep deep
  induction expr generalizing depth with
  | number number =>
    by_cases deep : context.options.maxDepth < depth
    · exact tooDeep _ _ deep failed
    rw [evaluateAt, if_neg deep] at failed
    cases failed
  | identifier name =>
    by_cases deep : context.options.maxDepth < depth
    · exact tooDeep _ _ deep failed
    rw [evaluateAt, if_neg deep] at failed
    split at failed
    · cases failed
    · next absent =>
      cases failed
      exact .unbound absent
  | negate operand ih =>
    by_cases deep : context.options.maxDepth < depth
    · exact tooDeep _ _ deep failed
    rw [evaluateAt, if_neg deep] at failed
    split at failed
    · next inside =>
      cases failed
      exact .operand (ih inside)
    · cases failed
  | binary left operator right ihLeft ihRight =>
    by_cases deep : context.options.maxDepth < depth
    · exact tooDeep _ _ deep failed
    rw [evaluateAt, if_neg deep] at failed
    split at failed
    · next onLeft =>
      cases failed
      exact .left (ihLeft onLeft)
    · next leftValue onLeft =>
      split at failed
      · next onRight =>
        cases failed
        exact .right onLeft (ihRight onRight)
      · next rightValue onRight => exact .operation onLeft onRight failed
  | invalid text =>
    by_cases deep : context.options.maxDepth < depth
    · exact tooDeep _ _ deep failed
    rw [evaluateAt, if_neg deep] at failed
    cases failed
    exact .invalid

/-- The result of an operation is in the unit of an operand, or in their product or quotient. -/
theorem unit_of_apply {operator : Operator} {left right : Value α}
    (computed : context.apply operator left right = .ok value) :
    value.unit = left.unit ∨ value.unit = right.unit ∨
      left.unit.multiply context.bases right.unit = .ok value.unit ∨
      left.unit.divide context.bases right.unit = .ok value.unit := by
  cases operator with
  | add => exact Or.inr (Or.inl (unit_of_combine computed))
  | subtract => exact Or.inr (Or.inl (unit_of_combine computed))
  | multiply => exact Or.inr (Or.inr (Or.inl (unit_of_withUnit computed)))
  | divide => exact Or.inr (Or.inr (Or.inr (unit_of_withUnit computed)))
  | power =>
    rw [apply] at computed
    split at computed
    · rw [← Except.ok.inj computed]
      exact Or.inl rfl
    · cases computed
  | modulo => cases computed

/-- What products and quotients keep holds of the unit of every value that a tree takes. -/
theorem unit_of_evaluateAt {holds : Unit α → Prop}
    (pure : holds (.simple context.system.pureUnit))
    (product : ∀ a b c, holds a → holds b → a.multiply context.bases b = .ok c → holds c)
    (quotient : ∀ a b c, holds a → holds b → a.divide context.bases b = .ok c → holds c)
    (bound : ∀ name value, context.environment.find? name = some value → holds value.unit)
    (expr : Expr α) (depth : Nat) (value : Value α)
    (computed : context.evaluateAt depth expr = .ok value) : holds value.unit := by
  induction expr generalizing depth value with
  | number number =>
    rw [eq_of_evaluateAt_number computed]
    exact pure
  | identifier name => exact bound name value (find?_of_evaluateAt_identifier computed)
  | negate operand ih =>
    obtain ⟨inner, below, rfl⟩ := exists_of_evaluateAt_negate computed
    exact ih (depth + 1) inner below
  | binary left operator right ihLeft ihRight =>
    obtain ⟨leftValue, rightValue, onLeft, onRight, applied⟩ :=
      exists_of_evaluateAt_binary computed
    have holdsLeft := ihLeft (depth + 1) leftValue onLeft
    have holdsRight := ihRight (depth + 1) rightValue onRight
    rcases unit_of_apply applied with same | same | multiplied | divided
    · rw [same]
      exact holdsLeft
    · rw [same]
      exact holdsRight
    · exact product _ _ _ holdsLeft holdsRight multiplied
    · exact quotient _ _ _ holdsLeft holdsRight divided
  | invalid text => exact absurd computed evaluateAt_invalid_ne_ok

end Context

end Dimensional.Formula
