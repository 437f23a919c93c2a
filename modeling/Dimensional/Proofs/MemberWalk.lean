import Dimensional.Proofs.Alike
import Dimensional.Proofs.Evaluation
import Dimensional.Proofs.Restoring

/-!
Which members the unit of a result lists. Walking over a tree from left to right, each name
contributes the members of its unit that have a dimension, and a division turns the side of all that
its right operand contributes. Sums and powers contribute one operand only, that whose unit they
keep. What the walk meets on either side, in its order, is what the unit of the value consists of:
nothing is lost or cancelled, and nothing changes its place.
-/

set_option autoImplicit false

namespace Dimensional

variable {α : Type}

/-- Where a member of a unit stands. -/
inductive Side where
  | above
  | below
deriving DecidableEq

def Side.opposite : Side → Side
  | .above => .below
  | .below => .above

namespace Members

/-- The members one after the other, each with its side. -/
def signed (members : Members α) : List (Side × SimpleUnit α) :=
  members.dividend.map (Side.above, ·) ++ members.divisor.map (Side.below, ·)

/-- What a walk has met on one side. -/
def onSide (side : Side) (walk : List (Side × SimpleUnit α)) : List (SimpleUnit α) :=
  (walk.filter fun met => met.1 = side).map (·.2)

def ofWalk (walk : List (Side × SimpleUnit α)) : Members α :=
  ⟨onSide .above walk, onSide .below walk⟩

/-- The same walk with the sides exchanged. -/
def turned (walk : List (Side × SimpleUnit α)) : List (Side × SimpleUnit α) :=
  walk.map fun met => (met.1.opposite, met.2)

theorem onSide_append (side : Side) (first second : List (Side × SimpleUnit α)) :
    onSide side (first ++ second) = onSide side first ++ onSide side second := by
  simp only [onSide, List.filter_append, List.map_append]

theorem onSide_map (side place : Side) (units : List (SimpleUnit α)) :
    onSide side (units.map (place, ·)) = if place = side then units else [] := by
  simp only [onSide, List.filter_map, Function.comp_def]
  split <;> simp_all

theorem onSide_turned (side : Side) (walk : List (Side × SimpleUnit α)) :
    onSide side (turned walk) = onSide side.opposite walk := by
  have exchanged : ∀ place : Side, place.opposite = side ↔ place = side.opposite := by
    intro place
    cases place <;> cases side <;> decide
  simp only [onSide, turned, List.filter_map, List.map_map, Function.comp_def, exchanged]

theorem ofWalk_append (first second : List (Side × SimpleUnit α)) :
    ofWalk (first ++ second) = (ofWalk first).append (ofWalk second) := by
  simp only [ofWalk, onSide_append, append]

theorem ofWalk_turned (walk : List (Side × SimpleUnit α)) :
    ofWalk (turned walk) = (ofWalk walk).inverse := by
  simp only [ofWalk, onSide_turned, inverse, Side.opposite]

theorem ofWalk_signed (members : Members α) : ofWalk members.signed = members := by
  simp [ofWalk, signed, onSide_append, onSide_map]

end Members

namespace Formula

/-- The members that a tree mentions, from left to right: those of each name that have a dimension,
on the other side where the name is divided by. -/
def Expr.walk (environment : Environment α) : Expr α → List (Side × SimpleUnit α)
  | .number _ => []
  | .identifier name =>
    match environment.find? name with
    | some value =>
      (value.unit.allMembers.filter fun member => !member.quantity.isDimensionless).signed
    | none => []
  | .negate operand => operand.walk environment
  | .binary left operator right =>
    match operator with
    | .add | .subtract => right.walk environment
    | .multiply => left.walk environment ++ right.walk environment
    | .divide => left.walk environment ++ Members.turned (right.walk environment)
    | .power => left.walk environment
    | .modulo => []
  | .invalid _ => []

namespace Context

variable [Scalar α] {context : Context α} {left right value : Value α}

/-- A product is made in some base; in which one does not matter. -/
theorem unit_of_multiply (base : Base)
    (computed : context.apply .multiply left right = .ok value) :
    value.unit = left.unit.productIn base right.unit := by
  have made := unit_of_withUnit computed
  rw [Unit.multiply] at made
  split at made
  · rw [Unit.productIn_eq base, Except.ok.inj made]
  · cases made

theorem unit_of_divide (base : Base)
    (computed : context.apply .divide left right = .ok value) :
    value.unit = left.unit.quotientIn base right.unit := by
  have made := unit_of_withUnit computed
  rw [Unit.divide] at made
  split at made
  · rw [Unit.quotientIn_eq base, Except.ok.inj made]
  · cases made

theorem unit_of_power (computed : context.apply .power left right = .ok value) :
    value.unit = left.unit := by
  rw [apply] at computed
  split at computed
  · rw [← Except.ok.inj computed]
    rfl
  · cases computed

/-- The members of a result, from what was met on the way to its operands. -/
theorem membersIn_of_apply (base : Base) {environment : Environment α} {operator : Operator}
    {before after : Expr α} (computed : context.apply operator left right = .ok value)
    (onLeft : left.unit.membersIn base = .ofWalk (before.walk environment))
    (onRight : right.unit.membersIn base = .ofWalk (after.walk environment)) :
    value.unit.membersIn base =
      .ofWalk ((Expr.binary before operator after).walk environment) := by
  cases operator with
  | add => rw [unit_of_combine computed, onRight, Expr.walk]
  | subtract => rw [unit_of_combine computed, onRight, Expr.walk]
  | multiply =>
    rw [unit_of_multiply base computed, Unit.membersIn_productIn, onLeft, onRight, Expr.walk,
      Members.ofWalk_append]
  | divide =>
    rw [unit_of_divide base computed, Unit.membersIn_quotientIn, onLeft, onRight, Expr.walk,
      Members.ofWalk_append, Members.ofWalk_turned]
  | power => rw [unit_of_power computed, onLeft, Expr.walk]
  | modulo => cases computed

/-- The unit of a value has the members that the walk over its tree meets. -/
theorem membersIn_evaluateAt (base : Base) (expr : Expr α) (depth : Nat) (value : Value α)
    (computed : context.evaluateAt depth expr = .ok value) :
    value.unit.membersIn base = .ofWalk (expr.walk context.environment) := by
  induction expr generalizing depth value with
  | number number =>
    rw [eq_of_evaluateAt_number computed, Unit.membersIn_eq_filter]
    rfl
  | identifier name =>
    rw [Expr.walk, find?_of_evaluateAt_identifier computed, Members.ofWalk_signed,
      Unit.membersIn_eq_filter]
  | negate operand ih =>
    obtain ⟨inner, below, rfl⟩ := exists_of_evaluateAt_negate computed
    exact ih (depth + 1) inner below
  | binary before operator after ihLeft ihRight =>
    obtain ⟨left, right, onLeft, onRight, applied⟩ := exists_of_evaluateAt_binary computed
    exact membersIn_of_apply base applied (ihLeft (depth + 1) left onLeft)
      (ihRight (depth + 1) right onRight)
  | invalid text => exact absurd computed evaluateAt_invalid_ne_ok

/-- The unit of a product or a quotient is made of what the walk over the tree meets. -/
theorem unit_of_evaluateAt_ratio {before after : Expr α} {operator : Operator}
    (ratio : operator = .multiply ∨ operator = .divide) {depth : Nat}
    (computed : context.evaluateAt depth (.binary before operator after) = .ok value) :
    value.unit = (Members.ofWalk ((Expr.binary before operator after).walk
      context.environment)).toUnit value.unit.generation := by
  obtain ⟨left, right, onLeft, onRight, applied⟩ := exists_of_evaluateAt_binary computed
  -- Any base will do: which members have a dimension is the same in all of them.
  let base := context.system.layout
  have above := membersIn_evaluateAt base before _ left onLeft
  have below := membersIn_evaluateAt base after _ right onRight
  rcases ratio with rfl | rfl
  · rw [unit_of_multiply base applied, Unit.productIn, above, below, Expr.walk,
      Members.ofWalk_append]
    rfl
  · rw [unit_of_divide base applied, Unit.quotientIn, above, below, Expr.walk,
      Members.ofWalk_append, Members.ofWalk_turned]
    rfl

/-- The members that count in the unit of a value are those that the tree mentions, on the sides
that its divisions put them and in its order. The unit of a product or a quotient lists just these,
and its name and its symbol are put together from theirs. -/
theorem members_of_evaluate (context : Context α) (base : Base) (expr : Expr α) (value : Value α)
    (computed : context.evaluate expr = .ok value) :
    value.unit.membersIn base = .ofWalk (expr.walk context.environment) ∧
    ∀ before operator after, expr = .binary before operator after →
      operator = .multiply ∨ operator = .divide →
      ∃ composite : CompositeUnit α, value.unit = .composite composite ∧
        composite.dividend = Members.onSide .above (expr.walk context.environment) ∧
        composite.divisor = Members.onSide .below (expr.walk context.environment) ∧
        composite.name = CompositeUnit.ratioLabel (composite.dividend.map (·.name))
          (composite.divisor.map (·.name)) ∧
        composite.symbol = CompositeUnit.ratioLabel (composite.dividend.map (·.label))
          (composite.divisor.map (·.label)) := by
  have evaluated := evaluateAt_of_evaluate computed
  refine ⟨membersIn_evaluateAt base expr 1 value evaluated, ?_⟩
  rintro before operator after rfl ratio
  exact ⟨_, unit_of_evaluateAt_ratio ratio evaluated, rfl, rfl, rfl, rfl⟩

/-- A percentage of metres, and two lengths. -/
def stretches : List (String × Value Float) :=
  let metre : SimpleUnit Float := ⟨"metre", "m", [], ⟨"Length"⟩, 1.0, ⟨0⟩, 1⟩
  let percent : SimpleUnit Float := ⟨"percent", "%", [], ⟨"Dimensionless"⟩, 0.01, ⟨0⟩, 2⟩
  [("part", .of 5.0 (.composite ⟨"part", "", [], [percent, metre], [], ⟨0⟩⟩)),
    ("far", .of 3.0 (lengthUnit "mile" 1609.344)), ("near", .of 0.75 (lengthUnit "metre" 1.0))]

/-- Dividing by metres per mile puts the miles above the line, after the metres of the part. -/
theorem members_of_stretches :
    let ratio : Expr Float := .binary (.identifier "near") .divide (.identifier "far")
    let tree : Expr Float := .binary (.negate (.identifier "part")) .divide ratio
    ∃ value, (lengths stretches).evaluate tree = .ok value ∧
      (value.unit.membersIn (lengths stretches).system.layout).dividend.map (·.name) =
        ["metre", "mile"] ∧
      value.unit.name = "metre*mile/metre" := by
  intro ratio tree
  have evaluated : ∃ value, (lengths stretches).evaluate tree = .ok value := ⟨_, rfl⟩
  obtain ⟨value, computed⟩ := evaluated
  obtain ⟨members, ratios⟩ :=
    members_of_evaluate (lengths stretches) (lengths stretches).system.layout tree value computed
  obtain ⟨composite, shape, above, below, name, _⟩ := ratios _ _ _ rfl (Or.inr rfl)
  refine ⟨value, computed, ?_, ?_⟩
  · rw [members]
    decide
  · rw [shape, Unit.name, name, above, below]
    decide

end Context

end Formula

end Dimensional
