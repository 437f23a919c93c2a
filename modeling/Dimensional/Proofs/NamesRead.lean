import Mathlib.Data.List.Nodup
import Dimensional.Proofs.DimensionCheck

/-!
The names that evaluation reads. The identifiers of a tree are the names at its leaves from left to
right, each listed where it first occurs; evaluation looks at no others, needs all of them, and when
it fails for want of one, that is the first in the list that is not bound.
-/

set_option autoImplicit false

namespace Dimensional.Formula

/-- The names at the leaves, from left to right and as often as they occur. -/
def Expr.mentions {α : Type} : Expr α → List String
  | .number _ => []
  | .identifier name => [name]
  | .negate operand => operand.mentions
  | .binary left _ right => left.mentions ++ right.mentions
  | .invalid _ => []

/-- `distinct` has every name of `names` once, by first occurrence. -/
structure FirstOccurrences (names distinct : List String) : Prop where
  nodup : distinct.Nodup
  mem_iff : ∀ name, name ∈ distinct ↔ name ∈ names
  ordered : distinct.Pairwise fun a b => names.idxOf a < names.idxOf b

theorem FirstOccurrences.nil : FirstOccurrences [] [] :=
  ⟨List.nodup_nil, fun _ => Iff.rfl, List.Pairwise.nil⟩

/-- One more name is added at the end, unless it has occurred. -/
theorem FirstOccurrences.snoc {names distinct : List String}
    (firsts : FirstOccurrences names distinct) (name : String) :
    FirstOccurrences (names ++ [name])
      (if distinct.contains name then distinct else distinct ++ [name]) := by
  have kept : ∀ a ∈ distinct, (names ++ [name]).idxOf a = names.idxOf a := fun a inside =>
    List.idxOf_append_of_mem ((firsts.mem_iff a).1 inside)
  have ordered : distinct.Pairwise fun a b =>
      (names ++ [name]).idxOf a < (names ++ [name]).idxOf b := by
    apply firsts.ordered.imp_of_mem
    intro a b inA inB before
    rwa [kept a inA, kept b inB]
  by_cases known : name ∈ distinct
  · rw [if_pos (List.contains_iff_mem.2 known)]
    refine ⟨firsts.nodup, ?_, ordered⟩
    intro other
    have old := (firsts.mem_iff name).1 known
    rw [firsts.mem_iff, List.mem_append, List.mem_singleton]
    exact ⟨Or.inl, fun either => either.elim id fun same => same ▸ old⟩
  · have fresh : name ∉ names := fun inside => known ((firsts.mem_iff name).2 inside)
    rw [if_neg (mt List.contains_iff_mem.1 known)]
    refine ⟨?_, ?_, ?_⟩
    · exact List.nodup_append.2 ⟨firsts.nodup, List.nodup_singleton name, by
        rintro a inside b last rfl
        exact known (List.mem_singleton.1 last ▸ inside)⟩
    · intro other
      rw [List.mem_append, List.mem_append, firsts.mem_iff]
    · refine List.pairwise_append.2 ⟨ordered, List.pairwise_singleton _ _, ?_⟩
      intro a inside b last
      have earlier := List.idxOf_lt_length_of_mem ((firsts.mem_iff a).1 inside)
      rw [kept a inside, List.mem_singleton.1 last, List.idxOf_append_of_notMem fresh]
      omega

namespace Expr

variable {α : Type}

theorem firstOccurrences_collectNames (expr : Expr α) (names seen : List String)
    (firsts : FirstOccurrences names seen) :
    FirstOccurrences (names ++ expr.mentions) (collectNames seen expr) := by
  induction expr generalizing names seen with
  | number value =>
    rw [mentions, List.append_nil]
    exact firsts
  | identifier name => exact firsts.snoc name
  | negate operand ih => exact ih names seen firsts
  | binary left operator right ihLeft ihRight =>
    rw [mentions, ← List.append_assoc]
    exact ihRight _ _ (ihLeft names seen firsts)
  | invalid text =>
    rw [mentions, List.append_nil]
    exact firsts

theorem firstOccurrences_identifiers (expr : Expr α) :
    FirstOccurrences expr.mentions expr.identifiers :=
  firstOccurrences_collectNames expr [] [] .nil

/-- The first name with a property is found in the list as it is at the leaves. -/
theorem find?_collectNames (test : String → Bool) (expr : Expr α) (seen : List String) :
    (collectNames seen expr).find? test = (seen.find? test).or (expr.mentions.find? test) := by
  induction expr generalizing seen with
  | number value => simp only [collectNames, mentions, List.find?_nil, Option.or_none]
  | identifier name =>
    rw [collectNames, mentions]
    split
    · next known =>
      by_cases hit : test name = true
      · have found : (seen.find? test).isSome = true :=
          List.find?_isSome.2 ⟨name, List.contains_iff_mem.1 known, hit⟩
        rw [Option.or_of_isSome found]
      · rw [List.find?_cons_of_neg hit, List.find?_nil, Option.or_none]
    · rw [List.find?_append]
  | negate operand ih => exact ih seen
  | binary left operator right ihLeft ihRight =>
    rw [collectNames, mentions, ihRight, ihLeft, List.find?_append, Option.or_assoc]
  | invalid text => simp only [collectNames, mentions, List.find?_nil, Option.or_none]

theorem find?_identifiers (test : String → Bool) (expr : Expr α) :
    expr.identifiers.find? test = expr.mentions.find? test :=
  find?_collectNames test expr []

end Expr

namespace Context

variable {α : Type} [Scalar α] {context : Context α} {depth : Nat} {expr : Expr α}

/-- Whether a name has no value. -/
def lacks (context : Context α) (name : String) : Bool :=
  (context.environment.find? name).isNone

theorem evaluateAt_rebind (other : Environment α)
    (agree : ∀ name ∈ expr.mentions, other.find? name = context.environment.find? name) :
    (context.rebind other).evaluateAt depth expr = context.evaluateAt depth expr := by
  induction expr generalizing depth with
  | number value => rfl
  | identifier name =>
    have same := agree name (List.mem_singleton_self name)
    simp only [evaluateAt, rebind, same]
  | negate operand ih =>
    simp only [evaluateAt, ih agree]
    rfl
  | binary left operator right ihLeft ihRight =>
    obtain ⟨onLeft, onRight⟩ := List.forall_mem_append.1 agree
    simp only [evaluateAt, ihLeft onLeft, ihRight onRight]
    rfl
  | invalid text => rfl

/-- A tree with a value lacks none of its names. -/
theorem find?_lacks_of_evaluateAt {value : Value α}
    (computed : context.evaluateAt depth expr = .ok value) :
    expr.mentions.find? context.lacks = none := by
  induction expr generalizing depth value with
  | number number => rfl
  | identifier name =>
    have found := find?_of_evaluateAt_identifier computed
    simp only [Expr.mentions, lacks, found, List.find?_cons, List.find?_nil, Option.isNone_some]
  | negate operand ih =>
    obtain ⟨_, below, _⟩ := exists_of_evaluateAt_negate computed
    exact ih below
  | binary left operator right ihLeft ihRight =>
    obtain ⟨_, _, onLeft, onRight, _⟩ := exists_of_evaluateAt_binary computed
    rw [Expr.mentions, List.find?_append, ihLeft onLeft, ihRight onRight, Option.or_none]
  | invalid text => rfl

/-- Evaluation that fails for want of a name has read all names before it. -/
theorem Fails.find?_lacks {name : String}
    (fails : context.Fails depth expr (.identifierNotFound name)) :
    expr.mentions.find? context.lacks = some name := by
  generalize shape : EvalError.identifierNotFound name = error at fails
  induction fails with
  | unbound absent =>
    cases shape
    simp only [Expr.mentions, lacks, absent, List.find?_cons, Option.isNone_none]
  | operand inside ih => exact ih shape
  | left onLeft ih => rw [Expr.mentions, List.find?_append, ih shape, Option.some_or]
  | right onLeft onRight ih =>
    rw [Expr.mentions, List.find?_append, find?_lacks_of_evaluateAt onLeft, ih shape,
      Option.none_or]
  | operation onLeft onRight refused =>
    cases shape
    rcases apply_error refused with same | same | same | ⟨cause, same⟩ <;> cases same
  | deep | invalid => cases shape

/-- The identifiers of a tree are the names at its leaves, each once and by first occurrence. What
other names are bound to does not matter; a tree has a value only if all its identifiers have one;
and a name that is reported missing is the first of them without. -/
theorem evaluate_reads_identifiers (context : Context α) (expr : Expr α) :
    FirstOccurrences expr.mentions expr.identifiers ∧
    (∀ other : Environment α,
      (∀ name ∈ expr.identifiers, other.find? name = context.environment.find? name) →
      (context.rebind other).evaluate expr = context.evaluate expr) ∧
    (∀ value, context.evaluate expr = .ok value →
      ∀ name ∈ expr.identifiers, ∃ bound, context.environment.find? name = some bound) ∧
    ∀ name, context.evaluate expr = .error (.identifierNotFound name) →
      expr.identifiers.find? context.lacks = some name := by
  have firsts := expr.firstOccurrences_identifiers
  refine ⟨firsts, ?_, ?_, ?_⟩
  · intro other agree
    have same : ∀ name ∈ expr.mentions, other.find? name = context.environment.find? name :=
      fun name inside => agree name ((firsts.mem_iff name).2 inside)
    simp only [evaluate, evaluateAt_rebind other same]
    rfl
  · intro value computed name inside
    have complete := find?_lacks_of_evaluateAt (evaluateAt_of_evaluate computed)
    rw [List.find?_eq_none] at complete
    have bound := complete name ((firsts.mem_iff name).1 inside)
    rw [lacks, Option.isNone_iff_eq_none] at bound
    exact Option.ne_none_iff_exists'.1 bound
  · intro name failed
    rw [evaluate] at failed
    split at failed
    · cases failed
    rw [Expr.find?_identifiers]
    exact (fails_of_evaluateAt failed).find?_lacks

/-- Two distances have values and two names do not: the first of these is reported, and a value for
a name that is not in the tree changes nothing. -/
theorem evaluate_reads_missing_names :
    let context : Context Float := lengths distances
    let product : Expr Float := .binary (.identifier "far") .multiply (.identifier "near")
    let quotient : Expr Float := .binary (.identifier "lost") .divide (.identifier "gone")
    let tree : Expr Float :=
      .binary product .add (.binary (.identifier "far") .power quotient)
    let other : Environment Float := ⟨("spare", .of 1.0 (lengthUnit "metre" 1.0)) :: distances⟩
    tree.identifiers = ["far", "near", "lost", "gone"] ∧
    tree.identifiers.find? context.lacks = some "lost" ∧
    (context.rebind other).evaluate tree = context.evaluate tree ∧
    ∀ name ∈ product.identifiers, ∃ bound, context.environment.find? name = some bound := by
  intro context product quotient tree other
  obtain ⟨_, blind, _, first⟩ := evaluate_reads_identifiers context tree
  obtain ⟨_, _, complete, _⟩ := evaluate_reads_identifiers context product
  refine ⟨rfl, first "lost" rfl, blind other ?_, complete _ rfl⟩
  change ∀ name ∈ ["far", "near", "lost", "gone"], _
  simp only [List.forall_mem_cons]
  exact ⟨rfl, rfl, rfl, rfl, List.forall_mem_nil _⟩

end Context

end Dimensional.Formula
