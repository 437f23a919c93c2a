import Dimensional.Proofs.Exponent
import Dimensional.Proofs.RoundTrip

/-!
The two ways to write a power of literals. A caret between a number and digits belongs to the
number, whose power is worked out when the text is read; a caret between blanks is an operator, and
its power is worked out when the tree is evaluated. Both texts have the same value.
-/

set_option autoImplicit false

namespace Dimensional.Formula

/-- Digits, with a minus sign before them or not. -/
def Lexeme.IsInteger (cs : List Char) : Prop := ∃ run, IsRun run ∧ (cs = run ∨ cs = '-' :: run)

open Lexeme (IsDecimal IsInteger IsSuffix isPowerMark)

theorem Lexeme.IsInteger.isSuffix {cs : List Char} (integer : IsInteger cs) :
    IsSuffix isPowerMark ('^' :: cs) := by
  obtain ⟨run, digits, rfl | rfl⟩ := integer
  · exact Or.inr ⟨'^', [], cs, rfl, Or.inl rfl, digits, rfl⟩
  · exact Or.inr ⟨'^', ['-'], run, rfl, Or.inr (Or.inr rfl), digits, rfl⟩

/-- A number, or a minus sign before one, and what it amounts to. -/
inductive Expr.Amounts : Expr Float → Float → Prop where
  | number (value : Float) : Amounts (.number value) value
  | negative (value : Float) : Amounts (.negate (.number value)) (-value)

theorem Expr.Amounts.depth_le {tree : Expr Float} {value : Float} (amounts : tree.Amounts value) :
    tree.depth ≤ 2 := by
  cases amounts with
  | number value => exact Nat.le_succ 1
  | negative value => exact Nat.le_refl 2

theorem scans_decimal {cs : List Char} (decimal : IsDecimal cs) :
    ∃ value, Number.read? cs = some value ∧ Scans .operand cs (.number value) 0 := by
  obtain ⟨value, reads⟩ := Option.isSome_iff_exists.1 (Lexeme.read?_isSome_of_isDecimal decimal)
  exact ⟨value, reads, scans_literal decimal.isNumber (decimal.numberValue?.trans reads)⟩

/-- The minus sign of an integer is an operator, and the integer amounts to what it is read as. -/
theorem scans_integer {cs : List Char} (integer : IsInteger cs) :
    ∃ tree value nesting, Number.read? cs = some value ∧ tree.Amounts value ∧
      Scans .operand cs tree nesting ∧ nesting ≤ 1 := by
  obtain ⟨run, digits, rfl | rfl⟩ := integer
  · obtain ⟨value, reads, scans⟩ := scans_decimal digits.isDecimal
    exact ⟨_, value, 0, reads, .number value, scans, Nat.zero_le 1⟩
  · obtain ⟨value, reads, scans⟩ := scans_decimal digits.isDecimal
    refine ⟨_, -value, 1, ?_, .negative value, scans_negate scans, Nat.le_refl 1⟩
    rw [Lexeme.read?_minus digits, reads, Option.map_some]

/-- A text scanned as a whole is parsed, if its nesting and its tree are within the limits. -/
theorem parse_of_scans {text : String} {tree : Expr Float} {nesting : Nat}
    (scans : Scans (.chain .additive) text.toList tree nesting)
    (shallow : nesting ≤ nestingLimit - 1) (low : tree.depth ≤ heightLimit) :
    Expr.parse text = .ok tree :=
  parse_of_derives scans.sentence shallow (Expr.operationsWithin_of_depth low)

/-- With the caret between its parts a power is one number. -/
theorem parse_glued_power {b e : String} (decimal : IsDecimal b.toList)
    (integer : IsInteger e.toList) {number exponent : Float}
    (base : Number.read? b.toList = some number) (power : Number.read? e.toList = some exponent) :
    Expr.parse (b ++ "^" ++ e) = .ok (.number (Float.pow number exponent)) := by
  have text : (b ++ "^" ++ e).toList = b.toList ++ '^' :: e.toList := by simp
  have literal : Lexeme.IsNumber (b ++ "^" ++ e).toList :=
    ⟨b.toList, '^' :: e.toList, decimal, integer.isSuffix, text⟩
  have value : Parse.numberValue? (b ++ "^" ++ e).toList = some (Float.pow number exponent) := by
    rw [text, decimal.numberValue?_power integer.isSuffix, base, power]
    rfl
  have low : (Expr.number (Float.pow number exponent)).depth ≤ heightLimit := by
    rw [Expr.depth, heightLimit]
    omega
  exact parse_of_scans (scans_literal literal value).sum (Nat.zero_le _) low

/-- With blanks around the caret a power is an operation. -/
theorem parse_spaced_power {b e : String} {number exponent : Float} {power : Expr Float}
    {nesting : Nat} (scans : Scans .operand b.toList (.number number) 0)
    (scansPower : Scans .operand e.toList power nesting) (shallow : nesting ≤ 1)
    (amounts : power.Amounts exponent) :
    Expr.parse (b ++ " ^ " ++ e) = .ok (.binary (.number number) .power power) := by
  have text : (b ++ " ^ " ++ e).toList =
      b.toList ++ ' ' :: (Operator.power.symbol.toList ++ ' ' :: e.toList) := by
    simp [Operator.symbol]
  have low := amounts.depth_le
  refine parse_of_scans (text ▸ scans_pair scans .power scansPower) ?_ ?_
  · rw [Nat.zero_max, nestingLimit]
    omega
  · rw [Expr.depth, Expr.depth, heightLimit]
    omega

namespace Context

variable {context : Context Float} {base : Base}

theorem evaluateAt_amounts (deep : 3 ≤ context.options.maxDepth) {tree : Expr Float}
    {value : Float} (amounts : tree.Amounts value) :
    context.evaluateAt 2 tree =
      .ok (context.result value (.simple context.system.pureUnit)) := by
  have second : ¬context.options.maxDepth < 2 := by omega
  have third : ¬context.options.maxDepth < 3 := by omega
  cases amounts with
  | number value => rw [evaluateAt, if_neg second]
  | negative value =>
    simp only [evaluateAt, second, third, ↓reduceIte]
    rfl

theorem isDimensionless_pureUnit (frozen : context.system.base? context.bases = some base) :
    (Unit.simple context.system.pureUnit).isDimensionless context.bases = true := by
  have home : context.bases.base? (Unit.simple context.system.pureUnit).generation = some base :=
    frozen
  simp only [Unit.isDimensionless, home]
  rfl

/-- A decimal with a power that touches it, and the same power with blanks around the caret, are
both parsed and have a value, and it is the same: the power of the two numbers, as a pure number,
with the tolerance of the options. The first text is a number already, the second an operation on a
number and a number that may be negated. -/
theorem evaluate_glued_power (context : Context Float) (base : Base)
    (frozen : context.system.base? context.bases = some base)
    (deep : 3 ≤ context.options.maxDepth) (b e : String) (decimal : IsDecimal b.toList)
    (integer : IsInteger e.toList) :
    ∃ (number exponent : Float) (power : Expr Float) (value : Value Float),
      Number.read? b.toList = some number ∧ Number.read? e.toList = some exponent ∧
      power.Amounts exponent ∧
      Expr.parse (b ++ "^" ++ e) = .ok (.number (Float.pow number exponent)) ∧
      Expr.parse (b ++ " ^ " ++ e) = .ok (.binary (.number number) .power power) ∧
      context.evaluate (.number (Float.pow number exponent)) = .ok value ∧
      context.evaluate (.binary (.number number) .power power) = .ok value ∧
      value.number = Float.pow number exponent ∧
      value.unit = .simple context.system.pureUnit ∧
      value.precision = context.options.precision := by
  obtain ⟨number, reads, scans⟩ := scans_decimal decimal
  obtain ⟨power, exponent, nesting, readsPower, amounts, scansPower, shallow⟩ :=
    scans_integer integer
  have glued := parse_glued_power decimal integer reads readsPower
  have spaced := parse_spaced_power scans scansPower shallow amounts
  have valueOfPower := evaluateAt_amounts deep amounts
  have valueOfNumber := evaluateAt_amounts deep (.number number)
  have raised := evaluate_power frozen (.number number) valueOfPower
    (isDimensionless_pureUnit frozen)
  rw [valueOfNumber] at raised
  have read : context.evaluate (.number (Float.pow number exponent)) =
      .ok (context.result (Float.pow number exponent) (.simple context.system.pureUnit)) := by
    have first : ¬context.options.maxDepth < 1 := by omega
    rw [evaluate_eq frozen, evaluateAt, if_neg first]
  exact ⟨number, exponent, power, _, reads, readsPower, amounts, glued, spaced, read, raised, rfl,
    rfl, rfl⟩

open Lexeme (IsRun) in
/-- The inverse square of 1500: its minus sign belongs to the number in one text and is an operator
in the other. -/
theorem evaluate_glued_inverse_square :
    let context : Context Float := lengths []
    context.system.base? context.bases = some context.system.layout ∧
    3 ≤ context.options.maxDepth ∧ IsDecimal "1.5e3".toList ∧ IsInteger "-2".toList ∧
    ∃ (power : Expr Float) (value : Value Float),
      Expr.parse "1.5e3^-2" = .ok (.number (Float.pow 1500 (-2))) ∧
      Expr.parse "1.5e3 ^ -2" = .ok (.binary (.number 1500) .power power) ∧
      power.Amounts (-2) ∧
      context.evaluate (.number (Float.pow 1500 (-2))) = .ok value ∧
      context.evaluate (.binary (.number 1500) .power power) = .ok value ∧
      value.number = Float.pow 1500 (-2) ∧ value.unit.name = "adimensional" := by
  intro context
  have frozen : context.system.base? context.bases = some context.system.layout := rfl
  have deep : 3 ≤ context.options.maxDepth := by decide
  have digit : ∀ c, Number.isDigit c = true → IsRun [c] := fun c digit =>
    ⟨List.cons_ne_nil _ _, List.forall_mem_singleton.2 digit⟩
  have decimal : IsDecimal "1.5e3".toList :=
    .parts ['1'] ['.', '5'] ['e', '3'] (digit '1' rfl).2 (Or.inr ⟨['5'], digit '5' rfl, rfl⟩)
      (Or.inl (List.cons_ne_nil _ _))
      (Or.inr ⟨'e', [], ['3'], rfl, Or.inl rfl, digit '3' rfl, rfl⟩)
  have integer : IsInteger "-2".toList := ⟨['2'], digit '2' rfl, Or.inr rfl⟩
  have base : Number.read? "1.5e3".toList = some 1500 := by decide +kernel
  have exponent : Number.read? "-2".toList = some (-2) := by decide +kernel
  obtain ⟨number, negative, power, value, reads, readsPower, amounts, glued, spaced, first, second,
    raised, unit, -⟩ :=
    evaluate_glued_power context context.system.layout frozen deep "1.5e3" "-2" decimal integer
  rw [base, Option.some.injEq] at reads
  rw [exponent, Option.some.injEq] at readsPower
  subst reads readsPower
  exact ⟨frozen, deep, decimal, integer, power, value, glued, spaced, amounts, first, second,
    raised, congrArg Unit.name unit⟩

end Context

end Dimensional.Formula
