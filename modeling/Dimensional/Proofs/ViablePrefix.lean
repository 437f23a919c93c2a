import Dimensional.Proofs.Grammar

/-!
Prefixes of phrases. Tokens are stopped at a token when they begin some phrase but none in which
they are followed by that token. The frames in which a parser may be when it stops (inside the
operand of a sign, a group, a chain or a tail) carry this from the inner phrase to the outer one:
what completes the inner phrase completes the outer one too, and where the inner phrase ends is
fixed by its tokens.
-/

set_option autoImplicit false

namespace Dimensional.Formula

namespace Phrase

/-- The tokens can be continued to the phrase. -/
def Begins (phrase : Phrase) (tokens : List Token) : Prop :=
  ∃ more tree nesting, Derives phrase (tokens ++ more) tree nesting

/-- Where the tokens are followed by `stop`, they do not start with the phrase and what may come
after it, whatever comes later. -/
def Excludes (phrase : Phrase) (tokens : List Token) (stop : Token) : Prop :=
  ∀ later whole after tree nesting, Derives phrase whole tree nesting → phrase.EndsAt after →
    tokens ++ stop :: later ≠ whole ++ after

/-- The phrase can begin with the tokens, but `stop` cannot follow them. -/
structure StopsAt (phrase : Phrase) (tokens : List Token) (stop : Token) : Prop where
  begins : phrase.Begins tokens
  excludes : phrase.Excludes tokens stop

/-- Whether a phrase has to end is told by the next token. -/
theorem EndsAt.of_head {tier : Tier} {token : Token} {tokens : List Token}
    (ends : (chain tier).EndsAt (token :: tokens)) (others : List Token) :
    (chain tier).EndsAt (token :: others) := by
  intro head tail shape
  obtain ⟨rfl, _⟩ := List.cons.inj shape
  exact ends token tokens rfl

theorem endsAt_nil (phrase : Phrase) : phrase.EndsAt [] := by
  cases phrase with
  | operand => trivial
  | chain tier =>
    intro token tokens shape
    cases shape
  | tail tier left =>
    intro token tokens shape
    cases shape

/-- No sentence goes on with `stop`. -/
theorem StopsAt.not_begins {phrase : Phrase} {tokens : List Token} {stop : Token}
    (stops : phrase.StopsAt tokens stop) : ¬phrase.Begins (tokens ++ [stop]) := by
  rintro ⟨more, tree, nesting, derived⟩
  apply stops.excludes more _ [] tree nesting derived phrase.endsAt_nil
  simp

end Phrase

open Phrase (Begins Excludes StopsAt)

variable {tier : Tier} {tokens front : List Token} {stop : Token} {tree left right : Expr Float}
  {nesting : Nat}

/-- Every kind of operand is fixed by its first token. -/
theorem Derives.operand_kind {token : Token} {operand : List Token}
    (derived : Derives .operand (token :: operand) tree nesting) :
    (token.kind = .number ∧ ∃ value, Parse.numberValue? token.text.toList = some value) ∨
      token.kind = .identifier ∨ token.kind = .minus ∨ token.kind = .openParen := by
  cases derived with
  | number _ value kind reads => exact Or.inl ⟨kind, value, reads⟩
  | identifier _ kind => exact Or.inr (Or.inl kind)
  | negate _ _ _ _ kind _ => exact Or.inr (Or.inr (Or.inl kind))
  | group _ _ _ _ _ opens _ _ => exact Or.inr (Or.inr (Or.inr opens))

theorem Derives.operand_ne_nil (derived : Derives .operand tokens tree nesting) : tokens ≠ [] := by
  cases derived <;> exact List.cons_ne_nil _ _

theorem Derives.begins {phrase : Phrase} (derived : Derives phrase tokens tree nesting) :
    phrase.Begins tokens :=
  ⟨[], tree, nesting, by rwa [List.append_nil]⟩

/-- A chain is all there is of it before a token at which it has to end. -/
theorem Derives.not_begins (derived : Derives (.chain tier) front tree nesting)
    (ends : (Phrase.chain tier).EndsAt [stop]) :
    ¬(Phrase.chain tier).Begins (front ++ [stop]) := by
  rintro ⟨more, other, count, whole⟩
  have same : front ++ stop :: more = front ++ [stop] ++ more ++ [] := by simp
  obtain ⟨shape, _⟩ := derived.unique whole (ends.of_head more) (Phrase.endsAt_nil _) same
  simp at shape

namespace Phrase.StopsAt

/-- A token with which no operand starts stops an operand at once. -/
theorem start
    (cannot : ∀ operand tree nesting, ¬Derives .operand (stop :: operand) tree nesting) :
    Phrase.operand.StopsAt [] stop := by
  constructor
  · exact ⟨[⟨.identifier, "x", Place.start⟩], _, _, .identifier _ rfl⟩
  · intro later whole after tree nesting derived _ same
    cases whole with
    | nil => exact derived.operand_ne_nil rfl
    | cons token operand =>
      obtain ⟨rfl, _⟩ := List.cons.inj same
      exact cannot operand tree nesting derived

theorem negate {sign : Token} (kind : sign.kind = .minus)
    (stops : Phrase.operand.StopsAt front stop) : Phrase.operand.StopsAt (sign :: front) stop := by
  constructor
  · obtain ⟨more, tree, nesting, derived⟩ := stops.begins
    exact ⟨more, _, _, .negate sign _ tree nesting kind derived⟩
  · intro later whole after tree nesting derived _ same
    cases derived with
    | negate sign' inner tree' nesting' kind' operand =>
      obtain ⟨_, tails⟩ := List.cons.inj same
      exact stops.excludes later inner after tree' nesting' operand trivial tails
    | _ => simp_all

/-- What may come after the group is not looked at: its closing parenthesis ends the chain in it. -/
theorem group {opening : Token} (opens : opening.kind = .openParen)
    (stops : (Phrase.chain .additive).StopsAt front stop) :
    Phrase.operand.StopsAt (opening :: front) stop := by
  constructor
  · obtain ⟨more, tree, nesting, derived⟩ := stops.begins
    refine ⟨more ++ [⟨.closeParen, ")", Place.start⟩], tree, nesting + 1, ?_⟩
    have grouped := Derives.group opening ⟨.closeParen, ")", Place.start⟩ _ tree nesting opens rfl
      derived
    rwa [List.append_assoc] at grouped
  · intro later whole after tree nesting derived _ same
    cases derived with
    | group opening' closing inner _ nesting' opens' closes chain =>
      have tails : front ++ stop :: later = inner ++ closing :: after := by
        simpa using (List.cons.inj same).2
      exact stops.excludes later inner (closing :: after) tree nesting' chain
        (endsAt_closing closes _ after) tails
    | _ => simp_all

/-- A chain that ends before a token other than a closing parenthesis leaves its group open. -/
theorem unclosed {opening : Token} (opens : opening.kind = .openParen)
    (inner : Derives (.chain .additive) front tree nesting)
    (ends : (Phrase.chain .additive).EndsAt [stop]) (unclosed : stop.kind ≠ .closeParen) :
    Phrase.operand.StopsAt (opening :: front) stop := by
  constructor
  · refine ⟨[⟨.closeParen, ")", Place.start⟩], tree, nesting + 1, ?_⟩
    exact .group opening ⟨.closeParen, ")", Place.start⟩ front tree nesting opens rfl inner
  · intro later whole after tree' nesting' derived _ same
    cases derived with
    | group opening' closing inner' _ nesting'' opens' closes chain =>
      have tails : front ++ stop :: later = inner' ++ closing :: after := by
        simpa using (List.cons.inj same).2
      obtain ⟨rfl, _⟩ :=
        inner.unique chain (ends.of_head later) (endsAt_closing closes _ after) tails
      obtain ⟨rfl, _⟩ := List.cons.inj (List.append_cancel_left tails)
      exact unclosed closes
    | _ => simp_all

/-- A chain stops where its first operand does. -/
theorem first (stops : tier.below.StopsAt front stop) : (Phrase.chain tier).StopsAt front stop := by
  constructor
  · obtain ⟨more, left, nesting, derived⟩ := stops.begins
    have alone := Derives.chain tier _ [] left left nesting 0 derived (.stop tier left)
    rw [List.append_nil] at alone
    exact ⟨more, left, _, alone⟩
  · intro later whole after tree nesting derived ends same
    cases derived with
    | chain _ first rest left _ inFirst inRest starts continues =>
      rw [List.append_assoc] at same
      exact stops.excludes later first (rest ++ after) left inFirst starts
        (continues.endsAt_below ends) same

/-- After its first operand a chain stops where its tail does. The operator with which the tail
starts fixes where the operand ends. -/
theorem continued {operand : List Token} {token : Token} {operator : Operator}
    (starts : Derives tier.below operand left nesting) (joins : Joins tier token.kind operator)
    (stops : (Phrase.tail tier left).StopsAt (token :: front) stop) :
    (Phrase.chain tier).StopsAt (operand ++ token :: front) stop := by
  constructor
  · obtain ⟨more, tree, inRest, continues⟩ := stops.begins
    refine ⟨more, tree, max nesting inRest, ?_⟩
    rw [List.append_assoc]
    exact .chain tier operand _ left tree nesting inRest starts continues
  · intro later whole after tree nesting' derived ends same
    cases derived with
    | chain _ first rest left' _ inFirst inRest starts' continues =>
      rw [List.append_assoc, List.append_assoc] at same
      obtain ⟨rfl, rfl, _⟩ :=
        starts.unique starts' (joins.endsAt _) (continues.endsAt_below ends) same
      exact stops.excludes later rest after tree inRest continues ends
        (List.append_cancel_left same)

section Tail

variable {token : Token} {operator : Operator} (joins : Joins tier token.kind operator)

include joins

/-- A tail stops where the operand of its first operator does. -/
theorem operand (stops : tier.below.StopsAt front stop) :
    (Phrase.tail tier left).StopsAt (token :: front) stop := by
  constructor
  · obtain ⟨more, right, inRight, derived⟩ := stops.begins
    have single := Derives.step tier left right _ token operator _ [] inRight 0 joins derived
      (.stop tier _)
    rw [List.append_nil] at single
    exact ⟨more, _, _, single⟩
  · intro later whole after tree nesting derived ends same
    cases derived with
    | stop => exact ends token _ same.symm joins.binds
    | step _ _ right _ token' operator' operand rest inRight inRest joins' starts continues =>
      simp only [List.cons_append, List.append_assoc] at same
      exact stops.excludes later operand (rest ++ after) right inRight starts
        (continues.endsAt_below ends) (List.cons.inj same).2

/-- After its first step a tail stops where the rest of it does. -/
theorem step {operand : List Token} {next : Token} {following : Operator}
    (starts : Derives tier.below operand right nesting) (joinsNext : Joins tier next.kind following)
    (stops : (Phrase.tail tier (.binary left operator right)).StopsAt (next :: front) stop) :
    (Phrase.tail tier left).StopsAt (token :: (operand ++ next :: front)) stop := by
  constructor
  · obtain ⟨more, tree, inRest, continues⟩ := stops.begins
    refine ⟨more, tree, max nesting inRest, ?_⟩
    rw [List.cons_append, List.append_assoc]
    exact .step tier left right tree token operator operand _ nesting inRest joins starts continues
  · intro later whole after tree nesting' derived ends same
    cases derived with
    | stop => exact ends token _ same.symm joins.binds
    | step _ _ right' _ token' operator' operand' rest inRight inRest joins' starts' continues =>
      simp only [List.cons_append, List.append_assoc, List.cons.injEq] at same
      obtain ⟨rfl, same⟩ := same
      obtain ⟨_, rfl⟩ := joins.unique joins'
      obtain ⟨rfl, rfl, _⟩ :=
        starts.unique starts' (joinsNext.endsAt _) (continues.endsAt_below ends) same
      exact stops.excludes later rest after tree inRest continues ends
        (List.append_cancel_left same)

end Tail

end Phrase.StopsAt

end Dimensional.Formula
