import Dimensional.Formula.Parse

/-!
The grammar of formulas: three tiers of binary operators over operands. It knows no limits; the
nesting of a derivation is counted beside it. A sentence has one tree and one nesting.
-/

set_option autoImplicit false

namespace Dimensional.Formula

/-- The tiers of binary operators, the weakest first. -/
inductive Tier where
  | additive
  | multiplicative
  | power
deriving DecidableEq

/-- The operators of each tier. -/
inductive Joins : Tier → TokenKind → Operator → Prop where
  | plus : Joins .additive .plus .add
  | minus : Joins .additive .minus .subtract
  | times : Joins .multiplicative .multiply .multiply
  | over : Joins .multiplicative .divide .divide
  | remainder : Joins .multiplicative .percent .modulo
  | caret : Joins .power .caret .power

/-- What a run of tokens is read as. -/
inductive Phrase where
  /-- A number, a name, a group, or a minus sign and an operand. -/
  | operand
  /-- Operands of a tier with operators of the tier between them. -/
  | chain (tier : Tier)
  /-- Operators, each with its right operand, after a tree that they extend from the left. -/
  | tail (tier : Tier) (left : Expr Float)

/-- What the operators of a tier join. -/
def Tier.below : Tier → Phrase
  | .additive => .chain .multiplicative
  | .multiplicative => .chain .power
  | .power => .operand

/-- `Derives phrase tokens tree nesting`: the tokens are a phrase with this tree, and `nesting` is
the greatest number of groups and minus signs that one of the tokens lies inside. -/
inductive Derives : Phrase → List Token → Expr Float → Nat → Prop where
  | number (token : Token) (value : Float) (kind : token.kind = .number)
      (reads : Parse.numberValue? token.text.toList = some value) :
      Derives .operand [token] (.number value) 0
  | identifier (token : Token) (kind : token.kind = .identifier) :
      Derives .operand [token] (.identifier token.text) 0
  | negate (sign : Token) (tokens : List Token) (tree : Expr Float) (nesting : Nat)
      (kind : sign.kind = .minus) (operand : Derives .operand tokens tree nesting) :
      Derives .operand (sign :: tokens) (.negate tree) (nesting + 1)
  | group (opening closing : Token) (tokens : List Token) (tree : Expr Float) (nesting : Nat)
      (opens : opening.kind = .openParen) (closes : closing.kind = .closeParen)
      (inner : Derives (.chain .additive) tokens tree nesting) :
      Derives .operand (opening :: (tokens ++ [closing])) tree (nesting + 1)
  | chain (tier : Tier) (first rest : List Token) (left tree : Expr Float)
      (inFirst inRest : Nat) (starts : Derives tier.below first left inFirst)
      (continues : Derives (.tail tier left) rest tree inRest) :
      Derives (.chain tier) (first ++ rest) tree (max inFirst inRest)
  | stop (tier : Tier) (left : Expr Float) : Derives (.tail tier left) [] left 0
  | step (tier : Tier) (left right tree : Expr Float) (token : Token) (operator : Operator)
      (tokens rest : List Token) (inRight inRest : Nat) (joins : Joins tier token.kind operator)
      (operand : Derives tier.below tokens right inRight)
      (continues : Derives (.tail tier (.binary left operator right)) rest tree inRest) :
      Derives (.tail tier left) (token :: (tokens ++ rest)) tree (max inRight inRest)

/-- No binary operation in the tree is higher than the limit. -/
def Expr.OperationsWithin {α : Type} (limit : Nat) : Expr α → Prop
  | .number _ => True
  | .identifier _ => True
  | .negate operand => operand.OperationsWithin limit
  | .binary left operator right =>
    (Expr.binary left operator right).depth ≤ limit ∧ left.OperationsWithin limit ∧
      right.OperationsWithin limit
  | .invalid _ => True

/-- How tightly the operators of a tier bind. -/
def Tier.rank : Tier → Nat
  | .additive => 0
  | .multiplicative => 1
  | .power => 2

/-- Whether a token of this kind joins operands in the tier or in a tighter one. -/
def Tier.Binds (tier : Tier) (kind : TokenKind) : Prop :=
  ∃ other operator, tier.rank ≤ other.rank ∧ Joins other kind operator

/-- Whether a phrase has to end before these tokens. An operand always does. -/
def Phrase.EndsAt : Phrase → List Token → Prop
  | .operand, _ => True
  | .chain tier, rest => ∀ token tokens, rest = token :: tokens → ¬ tier.Binds token.kind
  | .tail tier _, rest => ∀ token tokens, rest = token :: tokens → ¬ tier.Binds token.kind

theorem Joins.unique {tier other : Tier} {kind : TokenKind} {operator second : Operator}
    (joins : Joins tier kind operator) (again : Joins other kind second) :
    tier = other ∧ operator = second := by
  cases joins <;> cases again <;> exact ⟨rfl, rfl⟩

theorem Joins.binds {tier : Tier} {kind : TokenKind} {operator : Operator}
    (joins : Joins tier kind operator) : tier.Binds kind :=
  ⟨tier, operator, Nat.le_refl _, joins⟩

/-- Where a chain ends, so does its last operand. -/
theorem Tier.below_endsAt {tier : Tier} {rest : List Token}
    (ends : (Phrase.chain tier).EndsAt rest) : tier.below.EndsAt rest := by
  cases tier with
  | additive =>
    rintro token tokens shape ⟨other, operator, tighter, joins⟩
    exact ends token tokens shape ⟨other, operator, Nat.le_trans (by decide) tighter, joins⟩
  | multiplicative =>
    rintro token tokens shape ⟨other, operator, tighter, joins⟩
    exact ends token tokens shape ⟨other, operator, Nat.le_trans (by decide) tighter, joins⟩
  | power => trivial

/-- An operator of the tier ends the operand before it. -/
theorem Joins.endsAt {tier : Tier} {token : Token} {operator : Operator}
    (joins : Joins tier token.kind operator) (tokens : List Token) :
    tier.below.EndsAt (token :: tokens) := by
  have apart : ∀ other second, Joins other token.kind second → other = tier :=
    fun other second again => (again.unique joins).1
  cases tier with
  | additive =>
    rintro token' tokens' shape ⟨other, second, tighter, again⟩
    obtain ⟨rfl, rfl⟩ := List.cons.inj shape
    rw [apart other second again] at tighter
    exact absurd tighter (by decide)
  | multiplicative =>
    rintro token' tokens' shape ⟨other, second, tighter, again⟩
    obtain ⟨rfl, rfl⟩ := List.cons.inj shape
    rw [apart other second again] at tighter
    exact absurd tighter (by decide)
  | power => trivial

/-- The operand before a tail ends where the tail begins. -/
theorem Derives.endsAt_below {tier : Tier} {left tree : Expr Float} {tokens rest : List Token}
    {nesting : Nat} (continues : Derives (.tail tier left) tokens tree nesting)
    (ends : (Phrase.chain tier).EndsAt rest) : tier.below.EndsAt (tokens ++ rest) := by
  cases continues with
  | stop => exact Tier.below_endsAt ends
  | step _ _ _ _ token operator inner outer _ _ joins _ _ => exact joins.endsAt _

theorem not_binds_closeParen (tier : Tier) : ¬ tier.Binds .closeParen := by
  rintro ⟨other, operator, _, joins⟩
  cases joins

theorem endsAt_closing {closing : Token} (closes : closing.kind = .closeParen) (tier : Tier)
    (rest : List Token) : (Phrase.chain tier).EndsAt (closing :: rest) := by
  rintro token tokens shape
  obtain ⟨rfl, rfl⟩ := List.cons.inj shape
  rw [closes]
  exact not_binds_closeParen tier

/-- Phrases that start alike and end where they must are one phrase with one tree. The induction
reads both from the left: operands are fixed by their first token, chains by where they end. -/
theorem Derives.unique {phrase : Phrase} {first : List Token} {tree : Expr Float} {nesting : Nat}
    (derived : Derives phrase first tree nesting) :
    ∀ {second : List Token} {other : Expr Float} {count : Nat} {rest after : List Token},
      Derives phrase second other count → phrase.EndsAt rest → phrase.EndsAt after →
      first ++ rest = second ++ after → first = second ∧ tree = other ∧ nesting = count := by
  induction derived with
  | number token value kind reads =>
    intro second other count rest after again _ _ same
    cases again with
    | number token' value' kind' reads' =>
      obtain ⟨rfl, _⟩ := List.cons.inj same
      rw [reads] at reads'
      exact ⟨rfl, by rw [Option.some.inj reads'], rfl⟩
    | _ => simp_all
  | identifier token kind =>
    intro second other count rest after again _ _ same
    cases again with
    | identifier token' kind' =>
      obtain ⟨rfl, _⟩ := List.cons.inj same
      exact ⟨rfl, rfl, rfl⟩
    | _ => simp_all
  | negate sign tokens tree nesting kind operand ih =>
    intro second other count rest after again _ _ same
    cases again with
    | negate sign' tokens' tree' nesting' kind' operand' =>
      obtain ⟨rfl, tails⟩ := List.cons.inj same
      obtain ⟨rfl, rfl, rfl⟩ := ih operand' trivial trivial tails
      exact ⟨rfl, rfl, rfl⟩
    | _ => simp_all
  | group opening closing tokens tree nesting opens closes inner ih =>
    intro second other count rest after again _ _ same
    cases again with
    | group opening' closing' tokens' tree' nesting' opens' closes' inner' =>
      have tails : tokens ++ (closing :: rest) = tokens' ++ (closing' :: after) := by
        simpa using (List.cons.inj same).2
      have opening_eq := (List.cons.inj same).1
      obtain ⟨rfl, rfl, rfl⟩ :=
        ih inner' (endsAt_closing closes _ rest) (endsAt_closing closes' _ after) tails
      obtain ⟨rfl, _⟩ := List.cons.inj (List.append_cancel_left tails)
      exact ⟨by rw [opening_eq], rfl, rfl⟩
    | _ => simp_all
  | chain tier front back left tree inFront inBack starts continues ihStarts ihContinues =>
    intro second other count rest after again ends ends' same
    cases again with
    | chain _ front' back' left' _ inFront' inBack' starts' continues' =>
      rw [List.append_assoc, List.append_assoc] at same
      obtain ⟨rfl, rfl, rfl⟩ := ihStarts starts' (continues.endsAt_below ends)
        (continues'.endsAt_below ends') same
      obtain ⟨rfl, rfl, rfl⟩ :=
        ihContinues continues' ends ends' (List.append_cancel_left same)
      exact ⟨rfl, rfl, rfl⟩
  | stop tier left =>
    intro second other count rest after again ends ends' same
    cases again with
    | stop => exact ⟨rfl, rfl, rfl⟩
    | step _ _ right _ token operator tokens back _ _ joins _ _ =>
      exact absurd joins.binds (ends token _ same)
  | step tier left right tree token operator tokens back inRight inBack joins operand continues
      ihOperand ihContinues =>
    intro second other count rest after again ends ends' same
    cases again with
    | stop => exact absurd joins.binds (ends' token _ same.symm)
    | step _ _ right' _ token' operator' tokens' back' _ _ joins' operand' continues' =>
      simp only [List.cons_append, List.append_assoc, List.cons.injEq] at same
      obtain ⟨rfl, same⟩ := same
      obtain ⟨_, rfl⟩ := joins.unique joins'
      obtain ⟨rfl, rfl, rfl⟩ := ihOperand operand' (continues.endsAt_below ends)
        (continues'.endsAt_below ends') same
      obtain ⟨rfl, rfl, rfl⟩ :=
        ihContinues continues' ends ends' (List.append_cancel_left same)
      exact ⟨rfl, rfl, rfl⟩

end Dimensional.Formula
