import Dimensional.Formula.Parse

/-!
What parsing does not see. Tokens may stand anywhere: a parser that is given the same kinds and
texts at other places gives the same tree, or the same error about a token at its place.
-/

set_option autoImplicit false

namespace Dimensional.Formula

/-- The token without its place. -/
def Token.unplaced (token : Token) : Token := { token with place := Place.start }

@[simp] theorem Token.kind_unplaced (token : Token) : token.unplaced.kind = token.kind := rfl

@[simp] theorem Token.text_unplaced (token : Token) : token.unplaced.text = token.text := rfl

/-- The error without the place of its token. -/
def ParseError.unplaced : ParseError → ParseError
  | .unexpected token => .unexpected token.unplaced
  | .expected kind found => .expected kind found.unplaced
  | .invalidNumber token => .invalidNumber token.unplaced
  | error => error

/-- An answer without the places of tokens. -/
def Parsed.unplaced : Parsed → Parsed
  | .error error => .error error.unplaced
  | .ok (tree, rest) => .ok (tree, rest.map Token.unplaced)

/-- The reader does not look at places. -/
def Blind (read : List Token → Parsed) : Prop :=
  ∀ tokens, read (tokens.map Token.unplaced) = Parsed.unplaced (read tokens)

namespace Parse

variable {read : List Token → Parsed}

theorem blind_chainFrom (operator? : TokenKind → Option Operator) (operands : Blind read)
    (fuel : Nat) : ∀ left height, Blind (chainFrom operator? read fuel left height) := by
  induction fuel with
  | zero => exact fun _ _ _ => rfl
  | succ fuel ih =>
    intro left height tokens
    cases tokens with
    | nil => rfl
    | cons token tokens =>
      simp only [List.map_cons, chainFrom, Token.kind_unplaced, operands tokens]
      cases operator? token.kind with
      | none => rfl
      | some operator =>
        cases read tokens with
        | error error => rfl
        | ok answer =>
          dsimp only [Parsed.unplaced]
          split
          · rfl
          · exact ih _ _ answer.2

theorem blind_chain (operator? : TokenKind → Option Operator) (operands : Blind read) :
    Blind (chain operator? read) := by
  intro tokens
  rw [chain, chain, operands tokens]
  cases read tokens with
  | error error => rfl
  | ok answer =>
    have loop := blind_chainFrom operator? operands answer.2.length answer.1 answer.1.depth answer.2
    simpa only [Parsed.unplaced, List.length_map] using loop

theorem blind_sum (operands : Blind read) : Blind (sum read) :=
  blind_chain additive? (blind_chain multiplicative? (blind_chain power? operands))

theorem blind_close (inner : Expr Float) : Blind (close inner) := by
  intro tokens
  cases tokens with
  | nil => rfl
  | cons token tokens =>
    by_cases closes : token.kind = .closeParen
    · simp [close, closes, Parsed.unplaced]
    · by_cases unknown : token.kind = .unknown
      · simp [close, unknown, Parsed.unplaced, ParseError.unplaced]
      · simp [close, closes, unknown, Parsed.unplaced, ParseError.unplaced]

theorem unplaced_refuse (token : Token) : (refuse token).unplaced = refuse token.unplaced := by
  unfold refuse
  rw [Token.kind_unplaced]
  split <;> rfl

theorem blind_operand (budget : Nat) : Blind (operand budget) := by
  induction budget using Nat.strongRecOn with
  | ind budget ih =>
    intro tokens
    cases tokens with
    | nil =>
      rw [List.map_nil, operand]
      rfl
    | cons token tokens =>
      rw [List.map_cons, operand.eq_def, operand.eq_def]
      simp only [Token.kind_unplaced, Token.text_unplaced]
      split
      · split <;> rfl
      · rfl
      · cases budget with
        | zero => rfl
        | succ left =>
          dsimp only
          rw [ih left (Nat.lt_succ_self left) tokens]
          cases operand left tokens <;> rfl
      · cases budget with
        | zero => rfl
        | succ left =>
          dsimp only
          rw [blind_sum (ih left (Nat.lt_succ_self left)) tokens]
          cases sum (operand left) tokens with
          | error error => rfl
          | ok answer => exact blind_close answer.1 answer.2
      · exact congrArg Except.error (unplaced_refuse token).symm

/-- The whole parse does not look at places. -/
theorem mapError_tokens (all : List Token) :
    tokens (all.map Token.unplaced) = (tokens all).mapError ParseError.unplaced := by
  rw [tokens, tokens, blind_sum (blind_operand _) all]
  cases sum (operand (nestingLimit - 1)) all with
  | error error => rfl
  | ok answer =>
    obtain ⟨tree, rest⟩ := answer
    cases rest with
    | nil => rfl
    | cons token rest =>
      by_cases ends : token.kind = .endOfInput
      · simp only [Parsed.unplaced, List.map_cons, Token.kind_unplaced, ends, ↓reduceIte]
        rfl
      · simp only [Parsed.unplaced, List.map_cons, Token.kind_unplaced, ends, ↓reduceIte]
        rfl

end Parse

end Dimensional.Formula
