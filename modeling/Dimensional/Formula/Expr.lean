import Dimensional.Number.Style

/-!
Expression trees.
-/

set_option autoImplicit false

namespace Dimensional.Formula

/-- Binary operators. The remainder can be written, but has no meaning for units. -/
inductive Operator where
  | add
  | subtract
  | multiply
  | divide
  | power
  | modulo
deriving DecidableEq

def Operator.symbol : Operator → String
  | .add => "+"
  | .subtract => "-"
  | .multiply => "*"
  | .divide => "/"
  | .power => "^"
  | .modulo => "%"

/-- `invalid` stands for a text that could not be made into an expression. -/
inductive Expr (α : Type) where
  | number (value : α)
  | identifier (name : String)
  | negate (operand : Expr α)
  | binary (left : Expr α) (operator : Operator) (right : Expr α)
  | invalid (text : String)

namespace Expr

variable {α : Type}

/-- The height of the tree; a leaf has height one. -/
def depth : Expr α → Nat
  | number _ => 1
  | identifier _ => 1
  | negate operand => 1 + operand.depth
  | binary left _ right => 1 + max left.depth right.depth
  | invalid _ => 1

/-- Adds the names in a tree, from left to right, to those that have been seen. -/
def collectNames : List String → Expr α → List String
  | seen, number _ => seen
  | seen, identifier name => if seen.contains name then seen else seen ++ [name]
  | seen, negate operand => collectNames seen operand
  | seen, binary left _ right => collectNames (collectNames seen left) right
  | seen, invalid _ => seen

/-- Each name once, in the order of first use. -/
def identifiers (expr : Expr α) : List String := collectNames [] expr

/-- The tree as text, every operation in parentheses. -/
def render : Expr Float → String
  | number value => NumberStyle.plain.render value
  | identifier name => name
  | negate operand => "(-" ++ operand.render ++ ")"
  | binary left operator right =>
    "(" ++ left.render ++ " " ++ operator.symbol ++ " " ++ right.render ++ ")"
  | invalid text => "<invalid " ++ text ++ ">"

theorem depth_pos (expr : Expr α) : 0 < expr.depth := by
  cases expr <;> simp only [depth] <;> omega

end Expr

end Dimensional.Formula
