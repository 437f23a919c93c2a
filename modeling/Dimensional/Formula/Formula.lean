import Dimensional.Formula.Evaluate

/-!
Formulas: parsed texts that can be evaluated against any environment.
-/

set_option autoImplicit false

namespace Dimensional

structure Formula where
  text : String
  expr : Formula.Expr Float

namespace Formula

def parse (text : String) : Except FormulaError Formula :=
  match Expr.parse text with
  | .ok expr => .ok ⟨text, expr⟩
  | .error error => .error (.parse error)

/-- A tree as a formula; its text is its rendering. -/
def ofExpr (expr : Expr Float) : Formula := ⟨expr.render, expr⟩

/-- The number that expresses a value in `target`. -/
def expressIn (bases : Bases) (value : Value Float) (target : Unit Float) :
    Except FormulaError Float :=
  let factor := value.unit.conversionTo bases target
  if Scalar.isUndefined factor then .error (.incompatible value.unit.name target.name)
  else .ok (value.number * factor)

/-- The value of a tree. -/
def evaluateExpr (context : Context Float) (expr : Expr Float) :
    Except FormulaError (Value Float) :=
  match context.evaluate expr with
  | .ok value => .ok value
  | .error error => .error (.eval error)

def evaluate (formula : Formula) (context : Context Float) : Except FormulaError (Value Float) :=
  evaluateExpr context formula.expr

/-- The value expressed in `target`. -/
def evaluateAs (formula : Formula) (context : Context Float) (target : Unit Float) :
    Except FormulaError Float :=
  match formula.evaluate context with
  | .ok value => expressIn context.bases value target
  | .error error => .error error

/-- A value, or what stands for it after a failure: no number, in the unit of pure numbers. -/
structure Calculation where
  value : Value Float
  error : Option FormulaError

namespace Calculation

def isOk (calculation : Calculation) : Bool := calculation.error.isNone

def ofOutcome (system : QuantitySystem Float) :
    Except FormulaError (Value Float) → Calculation
  | .ok value => ⟨value, none⟩
  | .error error => ⟨Value.of Scalar.undefined (.simple system.pureUnit), some error⟩

end Calculation

/-- Parses and evaluates a text; all failures have one shape. -/
def calculate (text : String) (context : Context Float) : Calculation :=
  Calculation.ofOutcome context.system <|
    match parse text with
    | .ok formula => formula.evaluate context
    | .error error => .error error

end Formula

end Dimensional
