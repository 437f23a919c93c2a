import Dimensional.Formula.Parse
import Dimensional.Unit.Error

/-!
Why a formula has no value.
-/

set_option autoImplicit false

namespace Dimensional.Formula

/-- Failures of the evaluation of a tree. -/
inductive EvalError where
  | identifierNotFound (name : String)
  | incompatibleUnits (left right : String)
  | dimensionedExponent
  | unsupportedOperator (operator : Operator)
  | invalidSyntax
  | depthExceeded (limit : Nat)
  | units (error : UnitError)
deriving DecidableEq

def EvalError.message : EvalError → String
  | .identifierNotFound name => "identifier '" ++ name ++ "' not found"
  | .incompatibleUnits left right => "units '" ++ left ++ "' and '" ++ right ++ "' are incompatible"
  | .dimensionedExponent => "exponentiation only allowed if exponent is dimensionless"
  | .unsupportedOperator operator => "operator '" ++ operator.symbol ++ "' not supported"
  | .invalidSyntax => "invalid syntax for evaluation"
  | .depthExceeded limit => "expression nesting exceeds maximum depth of " ++ toString limit
  | .units error => error.message

/-- Failures on the way from a text to a value in a wanted unit. -/
inductive FormulaError where
  | parse (error : ParseError)
  | eval (error : EvalError)
  | units (error : UnitError)
  | incompatible (source target : String)
deriving DecidableEq

def FormulaError.message : FormulaError → String
  | .parse error => "Parse error: " ++ error.message
  | .eval error => error.message
  | .units error => error.message
  | .incompatible source target =>
    "cannot express a value in '" ++ source ++ "' as '" ++ target ++ "'"

end Dimensional.Formula
