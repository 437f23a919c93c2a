import Dimensional.Proofs.DimensionCheck

/-!
The limit on the height of trees. Apart from the error that names the limit, evaluation gives what
it would give without one; that error arises only in trees higher than the limit, and none of these
has a value. So the limit decides exactly which trees are evaluated, and shows in nothing else.
-/

set_option autoImplicit false

namespace Dimensional.Formula.Context

variable {α : Type} [Scalar α]

/-- The same context with another limit on the height of trees. -/
def withLimit (context : Context α) (limit : Nat) : Context α :=
  { context with options := { context.options with maxDepth := limit } }

/-- The outcome of a tree of any height. -/
def unguarded (context : Context α) : Expr α → Except EvalError (Value α)
  | .number value => .ok (context.result value (.simple context.system.pureUnit))
  | .identifier name =>
    match context.environment.find? name with
    | some value => .ok value
    | none => .error (.identifierNotFound name)
  | .negate operand =>
    match context.unguarded operand with
    | .error error => .error error
    | .ok value => .ok (context.result (-value.number) value.unit)
  | .binary left operator right =>
    match context.unguarded left with
    | .error error => .error error
    | .ok leftValue =>
      match context.unguarded right with
      | .error error => .error error
      | .ok rightValue => context.apply operator leftValue rightValue
  | .invalid _ => .error .invalidSyntax

variable {context : Context α} {depth : Nat} {expr : Expr α}

theorem unguarded_withLimit (context : Context α) (limit : Nat) (expr : Expr α) :
    (context.withLimit limit).unguarded expr = context.unguarded expr := by
  induction expr with
  | number value => rfl
  | identifier name => rfl
  | negate operand ih =>
    simp only [unguarded, ih]
    rfl
  | binary left operator right ihLeft ihRight =>
    simp only [unguarded, ihLeft, ihRight]
    rfl
  | invalid text => rfl

theorem unguarded_of_evaluateAt {value : Value α}
    (computed : context.evaluateAt depth expr = .ok value) :
    context.unguarded expr = .ok value := by
  induction expr generalizing depth value with
  | number number =>
    rw [eq_of_evaluateAt_number computed]
    rfl
  | identifier name =>
    simp only [unguarded, find?_of_evaluateAt_identifier computed]
  | negate operand ih =>
    obtain ⟨inner, below, rfl⟩ := exists_of_evaluateAt_negate computed
    simp only [unguarded, ih below]
  | binary left operator right ihLeft ihRight =>
    obtain ⟨leftValue, rightValue, onLeft, onRight, applied⟩ :=
      exists_of_evaluateAt_binary computed
    simp only [unguarded, ihLeft onLeft, ihRight onRight, applied]
  | invalid text => exact absurd computed evaluateAt_invalid_ne_ok

/-- A tree has a value only if none of its levels is too deep. -/
theorem depth_le_of_evaluateAt {value : Value α}
    (computed : context.evaluateAt depth expr = .ok value) :
    depth + expr.depth ≤ context.options.maxDepth + 1 := by
  have shallow := not_deep_of_evaluateAt computed
  induction expr generalizing depth value with
  | number number =>
    rw [Expr.depth]
    omega
  | identifier name =>
    rw [Expr.depth]
    omega
  | negate operand ih =>
    obtain ⟨inner, below, _⟩ := exists_of_evaluateAt_negate computed
    have higher := ih below (not_deep_of_evaluateAt below)
    rw [Expr.depth]
    omega
  | binary left operator right ihLeft ihRight =>
    obtain ⟨_, _, onLeft, onRight, _⟩ := exists_of_evaluateAt_binary computed
    have higherLeft := ihLeft onLeft (not_deep_of_evaluateAt onLeft)
    have higherRight := ihRight onRight (not_deep_of_evaluateAt onRight)
    rw [Expr.depth]
    omega
  | invalid text => exact absurd computed evaluateAt_invalid_ne_ok

/-- The error that names the limit stands for a level that is too deep. -/
theorem Fails.lt_depth {limit : Nat} (fails : context.Fails depth expr (.depthExceeded limit)) :
    limit = context.options.maxDepth ∧ limit + 1 < depth + expr.depth := by
  generalize shape : EvalError.depthExceeded limit = error at fails
  induction fails with
  | deep tooDeep =>
    cases shape
    have positive := Expr.depth_pos ‹Expr α›
    omega
  | operand inside ih =>
    have higher := ih shape
    rw [Expr.depth]
    omega
  | left onLeft ih =>
    have higher := ih shape
    rw [Expr.depth]
    omega
  | right onLeft onRight ih =>
    have higher := ih shape
    rw [Expr.depth]
    omega
  | operation onLeft onRight refused =>
    cases shape
    rcases apply_error refused with same | same | same | ⟨cause, same⟩ <;> cases same
  | unbound | invalid => cases shape

/-- Every other error is that of the tree without a limit. -/
theorem Fails.unguarded {error : EvalError} (fails : context.Fails depth expr error) :
    error = .depthExceeded context.options.maxDepth ∨ context.unguarded expr = .error error := by
  induction fails with
  | deep tooDeep => exact Or.inl rfl
  | unbound absent =>
    right
    simp only [Context.unguarded, absent]
  | operand inside ih =>
    refine ih.imp_right fun without => ?_
    simp only [Context.unguarded, without]
  | left onLeft ih =>
    refine ih.imp_right fun without => ?_
    simp only [Context.unguarded, without]
  | right onLeft onRight ih =>
    refine ih.imp_right fun without => ?_
    simp only [Context.unguarded, unguarded_of_evaluateAt onLeft, without]
  | operation onLeft onRight refused =>
    right
    simp only [Context.unguarded, unguarded_of_evaluateAt onLeft, unguarded_of_evaluateAt onRight,
      refused]
  | invalid => exact Or.inr rfl

/-- Within the limit there is no difference. -/
theorem evaluateAt_eq_unguarded (within : depth + expr.depth ≤ context.options.maxDepth + 1) :
    context.evaluateAt depth expr = context.unguarded expr := by
  cases outcome : context.evaluateAt depth expr with
  | ok value => exact (unguarded_of_evaluateAt outcome).symm
  | error error =>
    have fails := fails_of_evaluateAt outcome
    rcases fails.unguarded with rfl | without
    · have beyond := fails.lt_depth
      omega
    · exact without.symm

/-- Under a limit that the height of a tree respects, its outcome is the one without a limit; it is
never the error that names a limit, and the same under every larger one. A higher tree has an error:
the one that names the limit, or the one that it has without a limit. So a value under one limit is
the value under every larger one. -/
theorem evaluate_withLimit (context : Context α)
    (frozen : context.system.isFrozen context.bases = true) (expr : Expr α) (limit : Nat) :
    (expr.depth ≤ limit →
      (context.withLimit limit).evaluate expr = context.unguarded expr ∧
      (∀ other, (context.withLimit limit).evaluate expr ≠ .error (.depthExceeded other)) ∧
      ∀ larger, limit ≤ larger →
        (context.withLimit larger).evaluate expr = (context.withLimit limit).evaluate expr) ∧
    (limit < expr.depth → ∃ error, (context.withLimit limit).evaluate expr = .error error ∧
      (error = .depthExceeded limit ∨ context.unguarded expr = .error error)) ∧
    ∀ larger value, limit ≤ larger → (context.withLimit limit).evaluate expr = .ok value →
      (context.withLimit larger).evaluate expr = .ok value := by
  obtain ⟨base, own⟩ := Option.isSome_iff_exists.1 frozen
  have started : ∀ other, (context.withLimit other).evaluate expr =
      (context.withLimit other).evaluateAt 1 expr := by
    intro other
    have still : (context.withLimit other).system.base? (context.withLimit other).bases =
        some base := own
    exact evaluate_eq still expr
  have unlimited : ∀ larger, expr.depth ≤ larger →
      (context.withLimit larger).evaluate expr = context.unguarded expr := by
    intro larger within
    have room : 1 + expr.depth ≤ larger + 1 := by omega
    rw [started, evaluateAt_eq_unguarded room, unguarded_withLimit]
  refine ⟨?_, ?_, ?_⟩
  · intro within
    refine ⟨unlimited limit within, ?_, ?_⟩
    · intro other exceeded
      rw [started] at exceeded
      have beyond := (fails_of_evaluateAt exceeded).lt_depth
      simp only [withLimit] at beyond
      omega
    · intro larger above
      rw [unlimited larger (Nat.le_trans within above), unlimited limit within]
  · intro beyond
    rw [started]
    cases outcome : (context.withLimit limit).evaluateAt 1 expr with
    | ok value =>
      have within := depth_le_of_evaluateAt outcome
      simp only [withLimit] at within
      omega
    | error error =>
      have reported := (fails_of_evaluateAt outcome).unguarded
      rw [unguarded_withLimit] at reported
      exact ⟨error, rfl, reported⟩
  · intro larger value above computed
    rw [started] at computed
    have within := depth_le_of_evaluateAt computed
    have without := unguarded_of_evaluateAt computed
    rw [unguarded_withLimit] at without
    simp only [withLimit] at within
    rw [unlimited larger (by omega), without]

/-- A double negation stands before a name without a value. Under limit 2 the negations are too deep
and under every limit from 4 on the name is the failure; the first distance has a value under every
limit from 1 on. -/
theorem evaluate_of_competing_failures :
    let context : Context Float := lengths distances
    let tree : Expr Float :=
      .binary (.negate (.negate (.identifier "far"))) .add (.identifier "nowhere")
    (∃ error, (context.withLimit 2).evaluate tree = .error error ∧
      (error = .depthExceeded 2 ∨ context.unguarded tree = .error error)) ∧
    (context.withLimit 2).evaluate tree = .error (.depthExceeded 2) ∧
    (∀ larger, 4 ≤ larger →
      (context.withLimit larger).evaluate tree = .error (.identifierNotFound "nowhere")) ∧
    ∀ larger, 1 ≤ larger → (context.withLimit larger).evaluate (.identifier "far") =
      .ok (.of 3.0 (lengthUnit "mile" 1609.344)) := by
  intro context tree
  obtain ⟨_, failing, _⟩ := evaluate_withLimit context rfl tree 2
  obtain ⟨shallow, _, _⟩ := evaluate_withLimit context rfl tree 4
  obtain ⟨_, _, kept⟩ := evaluate_withLimit context rfl (.identifier "far") 1
  obtain ⟨unlimited, _, same⟩ := shallow (by decide)
  refine ⟨failing (by decide), rfl, ?_, ?_⟩
  · intro larger above
    rw [same larger above, unlimited]
    rfl
  · intro larger above
    exact kept larger _ above rfl

end Dimensional.Formula.Context
