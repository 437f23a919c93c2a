import Dimensional.Proofs.Evaluation
import Dimensional.Proofs.UnitDimension

/-!
Dimensions decide evaluation. The verdict on a tree is what can be told of its evaluation from the
dimensions of its names alone: the dimension of the value, or the kind of the first error. Numbers
and factors come in only where a quotient of two factors is undefined.
-/

set_option autoImplicit false

namespace Dimensional

variable {α : Type}

/-- The answer that stands for a missing factor is told from all factors. -/
class LawfulScalar (α : Type) [Scalar α] : Prop where
  undefined_isUndefined : Scalar.isUndefined (Scalar.undefined : α) = true

instance : LawfulScalar Float where
  undefined_isUndefined := by decide +kernel

/-- The quotient of factors that a conversion forms; none where it is refused before that. -/
def Unit.quotient? [Scalar α] (bases : Bases) (source target : Unit α) : Option α :=
  (bases.base? source.generation).bind fun base =>
    if source.compatibleIn base target then some (source.factorRatio target) else none

theorem Unit.conversionTo_eq [Scalar α] (bases : Bases) (source target : Unit α) :
    source.conversionTo bases target = (source.quotient? bases target).getD Scalar.undefined := by
  unfold conversionTo quotient?
  cases bases.base? source.generation with
  | none => rfl
  | some base =>
    simp only [conversionIn, Option.bind_some]
    split <;> rfl

namespace Formula

/-- The dimension of the result of an operation, from those of its operands. -/
def Operator.dimension? : Operator → Dimension → Dimension → Option Dimension
  | .add, left, right => if left = right then some right else none
  | .subtract, left, right => if left = right then some right else none
  | .multiply, left, right => some (left + right)
  | .divide, left, right => some (left - right)
  | .power, left, right => if right.isZero then some left else none
  | .modulo, _, _ => none

/-- The dimension of a tree, from those of its names; none where an operation has no meaning. -/
def Expr.dimension? {β : Type} (rank : Nat) (ofName : String → Option Dimension) :
    Expr β → Option Dimension
  | .number _ => some (Dimension.zeros rank)
  | .identifier name => ofName name
  | .negate operand => operand.dimension? rank ofName
  | .binary left operator right =>
    (left.dimension? rank ofName).bind fun l =>
      (right.dimension? rank ofName).bind fun r => operator.dimension? l r
  | .invalid _ => none

/-- An error without the names of the units in it. -/
def EvalError.kind : EvalError → EvalError
  | .incompatibleUnits _ _ => .incompatibleUnits "" ""
  | error => error

/-- The dimension of the result of an operation, or the kind of the error. -/
def Operator.verdict : Operator → Dimension → Dimension → Except EvalError Dimension
  | .add, left, right => if left = right then .ok right else .error (.incompatibleUnits "" "")
  | .subtract, left, right =>
    if left = right then .ok right else .error (.incompatibleUnits "" "")
  | .multiply, left, right => .ok (left + right)
  | .divide, left, right => .ok (left - right)
  | .power, left, right => if right.isZero then .ok left else .error .dimensionedExponent
  | .modulo, _, _ => .error (.unsupportedOperator .modulo)

/-- The dimension of a tree at a depth below the root, or the kind of its first error. -/
def Expr.verdict {β : Type} (limit rank : Nat) (ofName : String → Option Dimension) :
    Nat → Expr β → Except EvalError Dimension
  | depth, expr =>
    if limit < depth then .error (.depthExceeded limit)
    else
      match expr with
      | .number _ => .ok (Dimension.zeros rank)
      | .identifier name =>
        match ofName name with
        | some dimension => .ok dimension
        | none => .error (.identifierNotFound name)
      | .negate operand => operand.verdict limit rank ofName (depth + 1)
      | .binary left operator right =>
        match left.verdict limit rank ofName (depth + 1) with
        | .error error => .error error
        | .ok l =>
          match right.verdict limit rank ofName (depth + 1) with
          | .error error => .error error
          | .ok r => operator.verdict l r
      | .invalid _ => .error .invalidSyntax

/-- What dimensions tell of an outcome: that of the value, or the kind of the error. -/
def summary (base : Base) : Except EvalError (Value α) → Except EvalError (Option Dimension)
  | .ok value => .ok (value.unit.dimensionIn? base)
  | .error error => .error error.kind

namespace Environment

/-- The dimension of the unit that a name is bound to. -/
def dimension? (base : Base) (environment : Environment α) (name : String) : Option Dimension :=
  (environment.find? name).bind fun value => value.unit.dimensionIn? base

/-- All units have a known dimension. -/
def KnownIn (base : Base) (environment : Environment α) : Prop :=
  ∀ name value, environment.find? name = some value → (value.unit.dimensionIn? base).isSome = true

end Environment

namespace Context

variable [Scalar α]

/-- The quotients of factors formed for sums and differences while a tree is evaluated. -/
def quotientsAt (context : Context α) : Nat → Expr α → List α
  | depth, .negate operand => context.quotientsAt (depth + 1) operand
  | depth, .binary left operator right =>
    context.quotientsAt (depth + 1) left ++
      match context.evaluateAt (depth + 1) left with
      | .error _ => []
      | .ok leftValue =>
        context.quotientsAt (depth + 1) right ++
          match context.evaluateAt (depth + 1) right, operator with
          | .ok rightValue, .add | .ok rightValue, .subtract =>
            (leftValue.unit.quotient? context.bases rightValue.unit).toList
          | _, _ => []
  | _, _ => []

/-- No quotient of factors that the evaluation forms for a sum or a difference is undefined. -/
def QuotientsDefined (context : Context α) (expr : Expr α) : Prop :=
  ∀ quotient ∈ context.quotientsAt 1 expr, Scalar.isUndefined quotient = false

/-- What dimensions tell of the evaluation of a tree in a context. -/
def verdictAt (context : Context α) (base : Base) (depth : Nat) (expr : Expr α) :
    Except EvalError Dimension :=
  expr.verdict context.options.maxDepth base.rank (context.environment.dimension? base) depth

end Context

/-- A verdict that comes true is of the kind of the error, or the dimension of the value. -/
theorem summary_eq_map_some {base : Base} {outcome : Except EvalError (Value α)}
    {judged : Except EvalError Dimension} (told : summary base outcome = judged.map some) :
    (∃ error, outcome = .error error ∧ judged = .error error.kind) ∨
      ∃ value dimension, outcome = .ok value ∧ judged = .ok dimension ∧
        value.unit.dimensionIn? base = some dimension := by
  cases outcome with
  | error error =>
    cases judged with
    | ok dimension => cases told
    | error kind =>
      cases told
      exact Or.inl ⟨error, rfl, rfl⟩
  | ok value =>
    cases judged with
    | error kind => cases told
    | ok dimension => exact Or.inr ⟨value, dimension, rfl, rfl, Except.ok.inj told⟩

theorem Operator.toOption_verdict (operator : Operator) (left right : Dimension) :
    (operator.verdict left right).toOption = operator.dimension? left right := by
  cases operator with
  | add =>
    rw [verdict, dimension?]
    split <;> rfl
  | subtract =>
    rw [verdict, dimension?]
    split <;> rfl
  | multiply => rfl
  | divide => rfl
  | power =>
    rw [verdict, dimension?]
    split <;> rfl
  | modulo => rfl

/-- Where no level is too deep, a verdict is the dimension of the tree. -/
theorem Expr.toOption_verdict {β : Type} (limit rank : Nat) (ofName : String → Option Dimension)
    (expr : Expr β) (depth : Nat) (within : depth + expr.depth ≤ limit + 1) :
    (expr.verdict limit rank ofName depth).toOption = expr.dimension? rank ofName := by
  have positive := expr.depth_pos
  have shallow : ¬limit < depth := by omega
  induction expr generalizing depth with
  | number value =>
    rw [verdict, if_neg shallow]
    rfl
  | identifier name =>
    rw [verdict, if_neg shallow, dimension?]
    cases ofName name <;> rfl
  | negate operand ih =>
    rw [verdict, if_neg shallow, dimension?]
    have higher := operand.depth_pos
    rw [Expr.depth] at within
    exact ih (depth + 1) (by omega) higher (by omega)
  | binary left operator right ihLeft ihRight =>
    rw [verdict, if_neg shallow, dimension?]
    have higherLeft := left.depth_pos
    have higherRight := right.depth_pos
    rw [Expr.depth] at within
    have onLeft := ihLeft (depth + 1) (by omega) higherLeft (by omega)
    have onRight := ihRight (depth + 1) (by omega) higherRight (by omega)
    rw [← onLeft, ← onRight]
    cases left.verdict limit rank ofName (depth + 1) with
    | error error => rfl
    | ok l =>
      cases right.verdict limit rank ofName (depth + 1) with
      | error error => rfl
      | ok r => exact operator.toOption_verdict l r
  | invalid text =>
    rw [verdict, if_neg shallow]
    rfl

theorem exists_ok_iff_of_summary {base : Base} {outcome outcome' : Except EvalError (Value α)}
    (same : summary base outcome = summary base outcome') :
    (∃ value, outcome = .ok value) ↔ ∃ value, outcome' = .ok value := by
  cases outcome <;> cases outcome' <;> simp [summary] at same ⊢

namespace Context

variable {context : Context α} {base : Base}

theorem base?_of_known (frozen : context.system.base? context.bases = some base) {unit : Unit α}
    {dimension : Dimension} (known : unit.dimensionIn? base = some dimension) :
    context.bases.base? unit.generation = some base :=
  Unit.base?_of_dimensionIn? frozen known

variable [Scalar α]

theorem dimensionIn?_pureUnit (frozen : context.system.base? context.bases = some base) :
    context.system.pureUnit.dimensionIn? base = some (Dimension.zeros base.rank) := by
  apply (SimpleUnit.dimensionIn?_eq_some_iff base _ _).2
  exact ⟨(Bases.generation_of_base? _ _ _ frozen).symm, base.dimension?_dimensionless⟩

/-- Below the deepest level both stop at once. -/
theorem summary_evaluateAt_of_deep {depth : Nat} (deep : context.options.maxDepth < depth)
    (expr : Expr α) :
    summary base (context.evaluateAt depth expr) =
      (context.verdictAt base depth expr).map some := by
  rw [evaluateAt_of_deep deep, verdictAt]
  cases expr <;> simp only [Expr.verdict, deep, ↓reduceIte] <;> rfl

variable [LawfulScalar α]

/-- Sums are decided by the comparison of the two dimensions. -/
theorem summary_combine (frozen : context.system.base? context.bases = some base)
    (operation : α → α → α) {left right : Value α} {l r : Dimension}
    (knownLeft : left.unit.dimensionIn? base = some l)
    (knownRight : right.unit.dimensionIn? base = some r)
    (defined : ∀ quotient ∈ left.unit.quotient? context.bases right.unit,
      Scalar.isUndefined quotient = false) :
    summary base (context.combine operation left right) =
      if l = r then .ok (some r) else .error (.incompatibleUnits "" "") := by
  have home := base?_of_known frozen knownLeft
  have same := Unit.compatibleIn_iff knownLeft knownRight
  unfold combine
  rw [Unit.conversionTo_eq]
  by_cases equal : l = r
  · have formed : left.unit.quotient? context.bases right.unit =
        some (left.unit.factorRatio right.unit) := by
      simp [Unit.quotient?, home, same.2 equal]
    have usable := defined _ formed
    simp only [formed, Option.getD_some, usable, Bool.false_eq_true, ↓reduceIte, equal]
    simp only [summary, result, knownRight]
  · have refused : left.unit.quotient? context.bases right.unit = none := by
      simp [Unit.quotient?, home, same, equal]
    simp only [refused, Option.getD_none, LawfulScalar.undefined_isUndefined, ↓reduceIte, equal]
    rfl

/-- An operation on values of known dimension is decided by the dimensions. -/
theorem summary_apply (frozen : context.system.base? context.bases = some base)
    (operator : Operator) {left right : Value α} {l r : Dimension}
    (knownLeft : left.unit.dimensionIn? base = some l)
    (knownRight : right.unit.dimensionIn? base = some r)
    (defined : operator = .add ∨ operator = .subtract →
      ∀ quotient ∈ left.unit.quotient? context.bases right.unit,
        Scalar.isUndefined quotient = false) :
    summary base (context.apply operator left right) = (operator.verdict l r).map some := by
  have home := base?_of_known frozen knownLeft
  cases operator with
  | add =>
    rw [apply, summary_combine frozen _ knownLeft knownRight (defined (Or.inl rfl)),
      Operator.verdict]
    split <;> rfl
  | subtract =>
    rw [apply, summary_combine frozen _ knownLeft knownRight (defined (Or.inr rfl)),
      Operator.verdict]
    split <;> rfl
  | multiply =>
    have product := Unit.dimensionIn?_productIn knownLeft knownRight
    simp only [apply, Unit.multiply, home, withUnit, summary, result, product]
    rfl
  | divide =>
    have quotient := Unit.dimensionIn?_quotientIn knownLeft knownRight
    simp only [apply, Unit.divide, home, withUnit, summary, result, quotient]
    rfl
  | power =>
    have judged : right.unit.isDimensionless context.bases = r.isZero := by
      have homeRight := base?_of_known frozen knownRight
      simp only [Unit.isDimensionless, homeRight]
      exact Unit.isDimensionlessIn_eq knownRight
    rw [apply, judged, Operator.verdict]
    cases r.isZero with
    | true => simp only [↓reduceIte, summary, result, knownLeft, Except.map]
    | false => rfl
  | modulo => rfl

/-- What dimensions say of a tree at a depth comes true at that depth. -/
theorem summary_evaluateAt (frozen : context.system.base? context.bases = some base)
    (known : context.environment.KnownIn base) (expr : Expr α) (depth : Nat)
    (defined : ∀ quotient ∈ context.quotientsAt depth expr, Scalar.isUndefined quotient = false) :
    summary base (context.evaluateAt depth expr) =
      (context.verdictAt base depth expr).map some := by
  induction expr generalizing depth with
  | number value =>
    by_cases deep : context.options.maxDepth < depth
    · exact summary_evaluateAt_of_deep deep _
    have pure := dimensionIn?_pureUnit frozen
    simp only [verdictAt, evaluateAt, Expr.verdict, deep, ↓reduceIte, summary, result,
      Unit.dimensionIn?, pure]
    rfl
  | identifier name =>
    by_cases deep : context.options.maxDepth < depth
    · exact summary_evaluateAt_of_deep deep _
    simp only [verdictAt, evaluateAt, Expr.verdict, deep, ↓reduceIte, Environment.dimension?]
    cases found : context.environment.find? name with
    | none => rfl
    | some value =>
      obtain ⟨dimension, measured⟩ := Option.isSome_iff_exists.1 (known name value found)
      simp only [summary, Option.bind_some, measured]
      rfl
  | negate operand ih =>
    by_cases deep : context.options.maxDepth < depth
    · exact summary_evaluateAt_of_deep deep _
    have inner := ih (depth + 1) defined
    rw [verdictAt] at inner
    simp only [verdictAt, evaluateAt, Expr.verdict, deep, ↓reduceIte]
    rw [← inner]
    cases context.evaluateAt (depth + 1) operand with
    | error error => rfl
    | ok value => rfl
  | binary left operator right ihLeft ihRight =>
    by_cases deep : context.options.maxDepth < depth
    · exact summary_evaluateAt_of_deep deep _
    simp only [verdictAt, evaluateAt, Expr.verdict, deep, ↓reduceIte]
    rw [quotientsAt] at defined
    have onLeft := ihLeft (depth + 1) fun quotient inside =>
      defined quotient (List.mem_append_left _ inside)
    rcases summary_eq_map_some onLeft with ⟨error, stopped, judged⟩ | ⟨leftValue, l, computed,
      judged, knownLeft⟩
    · rw [verdictAt] at judged
      simp only [stopped, judged]
      rfl
    rw [verdictAt] at judged
    -- The right operand is reached only now, and only now do its quotients count.
    simp only [computed, judged] at defined ⊢
    have onRight := ihRight (depth + 1) fun quotient inside =>
      defined quotient (List.mem_append_right _ (List.mem_append_left _ inside))
    rcases summary_eq_map_some onRight with ⟨error, stopped, judged⟩ | ⟨rightValue, r, computed,
      judged, knownRight⟩
    · rw [verdictAt] at judged
      simp only [stopped, judged]
      rfl
    rw [verdictAt] at judged
    simp only [computed, judged] at defined ⊢
    apply summary_apply frozen operator knownLeft knownRight
    -- Both operands have values, so the quotient for a sum stands last in the list.
    intro additive quotient formed
    apply defined
    apply List.mem_append_right
    apply List.mem_append_right
    rcases additive with rfl | rfl <;> exact Option.mem_toList.2 formed
  | invalid text =>
    by_cases deep : context.options.maxDepth < depth
    · exact summary_evaluateAt_of_deep deep _
    simp only [verdictAt, evaluateAt, Expr.verdict, deep, ↓reduceIte]
    rfl

theorem summary_evaluate (frozen : context.system.base? context.bases = some base)
    (known : context.environment.KnownIn base) {expr : Expr α}
    (defined : context.QuotientsDefined expr) :
    summary base (context.evaluate expr) = (context.verdictAt base 1 expr).map some := by
  rw [evaluate_eq frozen]
  exact summary_evaluateAt frozen known expr 1 defined

/-- Names with the same dimensions give the same outcome, as far as dimensions tell. -/
theorem summary_rebind (frozen : context.system.base? context.bases = some base)
    (known : context.environment.KnownIn base) {expr : Expr α}
    (defined : context.QuotientsDefined expr) {environment : Environment α}
    (known' : environment.KnownIn base)
    (same : environment.dimension? base = context.environment.dimension? base)
    (defined' : (context.rebind environment).QuotientsDefined expr) :
    summary base ((context.rebind environment).evaluate expr) =
      summary base (context.evaluate expr) := by
  have frozen' : (context.rebind environment).system.base? (context.rebind environment).bases =
      some base := frozen
  rw [summary_evaluate frozen known defined, summary_evaluate frozen' known' defined', verdictAt,
    verdictAt]
  change (expr.verdict _ _ (environment.dimension? base) 1).map some = _
  rw [same]
  rfl

/-- Evaluation succeeds on the trees that have a dimension, with a value of that dimension; what
else the names are bound to has no say in that, nor in the kind of the error. -/
theorem evaluate_ok_iff_dimension (context : Context Float) (base : Base)
    (frozen : context.system.base? context.bases = some base)
    (known : context.environment.KnownIn base) (expr : Expr Float)
    (shallow : expr.depth ≤ context.options.maxDepth) (defined : context.QuotientsDefined expr) :
    ((∃ value, context.evaluate expr = .ok value) ↔
      ∃ dimension, expr.dimension? base.rank (context.environment.dimension? base) =
        some dimension) ∧
    (∀ value, context.evaluate expr = .ok value →
      value.unit.dimension? context.bases =
        expr.dimension? base.rank (context.environment.dimension? base)) ∧
    ∀ environment : Environment Float, environment.KnownIn base →
      environment.dimension? base = context.environment.dimension? base →
      (context.rebind environment).QuotientsDefined expr →
      summary base ((context.rebind environment).evaluate expr) =
        summary base (context.evaluate expr) := by
  have told := summary_evaluate frozen known defined
  have total := expr.toOption_verdict context.options.maxDepth base.rank
    (context.environment.dimension? base) 1 (by omega)
  refine ⟨?_, ?_, ?_⟩
  · rcases summary_eq_map_some told with ⟨error, stopped, judged⟩ | ⟨value, dimension, computed,
      judged, _⟩
    · rw [verdictAt] at judged
      simp [stopped, ← total, judged, Except.toOption]
    · rw [verdictAt] at judged
      simp [computed, ← total, judged, Except.toOption]
  · intro value computed
    rcases summary_eq_map_some told with ⟨error, stopped, judged⟩ | ⟨value', dimension, computed',
      judged, measured⟩
    · rw [stopped] at computed
      cases computed
    · rw [computed'] at computed
      cases computed
      rw [verdictAt] at judged
      rw [← total, judged, Unit.dimension?, base?_of_known frozen measured]
      exact measured
  · intro environment known' same defined'
    exact summary_rebind frozen known defined known' same defined'

/-- A unit of length that is so many metres. -/
def lengthUnit {β : Type} (name : String) (factor : β) : Unit β :=
  .simple ⟨name, "", [], ⟨"Length"⟩, factor, ⟨0⟩, 1⟩

/-- A frozen system of lengths, with some lengths bound to names. -/
def lengths {β : Type} [Scalar β] (bindings : List (String × Value β)) : Context β :=
  let metre : SimpleUnit β := ⟨"metre", "m", [], ⟨"Length"⟩, Scalar.one, ⟨0⟩, 1⟩
  let system : QuantitySystem β :=
    ⟨⟨0⟩, 0, (QuantitySystem.create ⟨0⟩ 0).registry.put ⟨"Length"⟩ metre⟩
  ⟨Bases.empty.issue.freeze system.layout, system, ⟨bindings⟩, ⟨256, Scalar.defaultPrecision⟩⟩

section Lengths

variable {β : Type} [Scalar β] {bindings : List (String × Value β)}

theorem dimensionIn?_lengthUnit (name : String) (factor : β) :
    (lengthUnit name factor).dimensionIn? (lengths bindings).system.layout = some ⟨[1]⟩ := rfl

theorem compatibleIn_lengthUnit (source target : String) (a b : β) :
    (lengthUnit source a).compatibleIn (lengths bindings).system.layout (lengthUnit target b) =
      true :=
  (Unit.compatibleIn_iff (dimensionIn?_lengthUnit _ _) (dimensionIn?_lengthUnit _ _)).2 rfl

theorem conversionTo_lengthUnit (source target : String) (a b : β) :
    (lengthUnit source a).conversionTo (lengths bindings).bases (lengthUnit target b) = a / b := by
  have home : (lengths bindings).bases.base? (lengthUnit source a).generation =
      some (lengths bindings).system.layout := rfl
  simp only [Unit.conversionTo, home, Unit.conversionIn, compatibleIn_lengthUnit, ↓reduceIte]
  rfl

theorem knownIn_lengths (inLengths : ∀ entry ∈ bindings, ∃ name factor,
    entry.2.unit = lengthUnit name factor) :
    (lengths bindings).environment.KnownIn (lengths bindings).system.layout := by
  intro name value found
  obtain ⟨label, factor, unit⟩ := inLengths (name, value) (Environment.mem_of_find? found)
  rw [unit]
  rfl

end Lengths

/-- Three miles and three quarters of a metre. -/
def distances : List (String × Value Float) :=
  [("far", .of 3.0 (lengthUnit "mile" 1609.344)), ("near", .of 0.75 (lengthUnit "metre" 1.0))]

def distancesTree : Expr Float :=
  .binary (.negate (.identifier "far")) .add (.identifier "near")

theorem quotientsDefined_distances : (lengths distances).QuotientsDefined distancesTree := by
  have formed : (lengths distances).quotientsAt 1 distancesTree =
      (if (lengthUnit "mile" (1609.344 : Float)).compatibleIn (lengths distances).system.layout
          (lengthUnit "metre" (1.0 : Float)) then some ((1609.344 : Float) / 1.0)
        else none).toList := rfl
  unfold QuotientsDefined
  rw [formed, compatibleIn_lengthUnit]
  decide +kernel

theorem evaluate_distances : ∃ value, (lengths distances).evaluate distancesTree = .ok value ∧
    value.unit.dimension? (lengths distances).bases = some ⟨[1]⟩ := by
  have inLengths : ∀ entry ∈ distances, ∃ name factor,
      entry.2.unit = lengthUnit name factor := by
    simp only [distances, List.forall_mem_cons]
    exact ⟨⟨_, _, rfl⟩, ⟨_, _, rfl⟩, List.forall_mem_nil _⟩
  have decided := evaluate_ok_iff_dimension (lengths distances) _ rfl
    (knownIn_lengths inLengths) distancesTree (by decide) quotientsDefined_distances
  obtain ⟨value, computed⟩ := decided.1.2 ⟨⟨[1]⟩, rfl⟩
  exact ⟨value, computed, decided.2.1 value computed⟩

end Context

end Formula

end Dimensional
