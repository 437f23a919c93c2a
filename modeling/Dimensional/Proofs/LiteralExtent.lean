import Dimensional.Proofs.ErrorToken
import Dimensional.Proofs.Tiling

/-!
How far numbers and names reach. The token of a number or of a name is the longest that begins the
text at its place, and every place at which one begins and a token starts has such a token. Since
all numbers are readable, no parse error is about the value of a number.
-/

set_option autoImplicit false

namespace Dimensional.Formula

/-- The word is in the language and begins the text, and no longer one does both. -/
structure IsLongest (language : List Char → Prop) (text word : List Char) : Prop where
  belongs : language word
  begins : word <+: text
  longest : ∀ other, language other → other <+: text → other.length ≤ word.length

namespace Lexeme

/-- The kind at a place is that of any lexeme which begins there. -/
theorem Leads.kind_eq {text cs piece : List Char} {kind other : TokenKind}
    (leads : Leads text kind cs) (belongs : Belongs other piece) (begins : piece <+: text) :
    kind = other := by
  cases leads with
  | lexeme _ _ _ _ longest => exact (longest other piece belongs begins).1.symm
  | unknown c rest shape none => exact absurd begins (none other piece belongs)

/-- The longest lexeme of all is the longest of its own language. -/
theorem Leads.isLongest {text cs : List Char} {kind : TokenKind} {language : List Char → Prop}
    (leads : Leads text kind cs) (known : kind ≠ .unknown)
    (same : ∀ piece, Belongs kind piece ↔ language piece) : IsLongest language text cs := by
  cases leads with
  | lexeme _ _ belongs begins longest =>
    refine ⟨(same cs).1 belongs, begins, fun other inside begins => ?_⟩
    exact (longest kind other ((same other).2 inside) begins).2
  | unknown => exact absurd rfl known

end Lexeme

namespace Token

variable {text : String} {token : Token} (inside : token ∈ scan text)

include inside

theorem leads_text (known : token.kind ≠ .unknown) (more : token.kind ≠ .endOfInput) :
    Lexeme.Leads (token.remaining text) token.kind token.text.toList := by
  rcases leads_of_mem_scan inside with ⟨ends, -⟩ | ⟨lexeme, leads, -, spelt⟩
  · exact absurd ends more
  · rwa [spelt known, String.toList_ofList]

/-- Where a token starts and a lexeme begins, the token has the kind of the lexeme. -/
theorem kind_of_belongs {kind : TokenKind} {piece : List Char}
    (belongs : Lexeme.Belongs kind piece) (begins : piece <+: token.remaining text) :
    token.kind = kind := by
  rcases leads_of_mem_scan inside with ⟨-, none⟩ | ⟨lexeme, leads, -, -⟩
  · rw [none] at begins
    exact absurd (List.prefix_nil.1 begins) belongs.ne_nil
  · exact leads.kind_eq belongs begins

end Token

/-- Every number among the tokens has a value. -/
def NumbersRead (tokens : List Token) : Prop :=
  ∀ token ∈ tokens, token.kind = .number → (Parse.numberValue? token.text.toList).isSome

/-- The reader finds fault with no number. -/
def Understands (read : List Token → Parsed) : Prop :=
  ∀ tokens token, NumbersRead tokens → read tokens ≠ .error (.invalidNumber token)

theorem NumbersRead.of_append {front rest : List Token} (numbers : NumbersRead (front ++ rest)) :
    NumbersRead rest :=
  fun token inside => numbers token (List.mem_append_right _ inside)

theorem NumbersRead.tail {token : Token} {tokens : List Token}
    (numbers : NumbersRead (token :: tokens)) : NumbersRead tokens :=
  fun other inside => numbers other (List.mem_cons_of_mem _ inside)

section Chain

variable {tier : Tier} {budget : Nat} {read : List Token → Parsed}
  (operands : Faithful tier.below budget read) (understands : Understands read)

include operands understands

theorem chainFrom_understands (fuel : Nat) :
    ∀ left height, Understands (Parse.chainFrom tier.operator? read fuel left height) := by
  induction fuel with
  | zero => exact fun _ _ _ _ _ => nofun
  | succ fuel ih =>
    intro left height tokens token numbers failed
    cases tokens with
    | nil => cases failed
    | cons head tokens =>
      rw [Parse.chainFrom] at failed
      split at failed
      · cases failed
      · split at failed
        · next cause refused =>
          cases failed
          exact understands tokens token numbers.tail refused
        · next right after reads =>
          dsimp only at failed
          split at failed
          · cases failed
          · obtain ⟨front, _, rfl, _⟩ := operands tokens right after reads
            exact ih _ _ after token numbers.tail.of_append failed

variable (tier) in
theorem chain_understands : Understands (Parse.chain tier.operator? read) := by
  intro tokens token numbers failed
  rw [Parse.chain] at failed
  split at failed
  · next cause refused =>
    cases failed
    exact understands tokens token numbers refused
  · next left after reads =>
    obtain ⟨front, _, rfl, _⟩ := operands tokens left after reads
    exact chainFrom_understands operands understands _ _ _ after token numbers.of_append failed

end Chain

theorem sum_understands {budget : Nat} {read : List Token → Parsed}
    (operands : Faithful .operand budget read) (understands : Understands read) :
    Understands (Parse.sum read) := by
  have powers : Understands (Parse.chain Parse.power? read) :=
    chain_understands .power operands understands
  have products : Understands (Parse.chain Parse.multiplicative? _) :=
    chain_understands .multiplicative operands.powers powers
  exact chain_understands .additive operands.products products

theorem close_understands (inner : Expr Float) : Understands (Parse.close inner) := by
  intro tokens token _ failed
  cases tokens with
  | nil => cases failed
  | cons head tokens =>
    rw [Parse.close] at failed
    split at failed
    · cases failed
    · split at failed <;> cases failed

theorem operand_understands (budget : Nat) : Understands (Parse.operand budget) := by
  induction budget using Nat.strongRecOn with
  | ind budget ih =>
    intro tokens token numbers failed
    cases tokens with
    | nil =>
      rw [Parse.operand] at failed
      cases failed
    | cons head tokens =>
      rw [Parse.operand.eq_def] at failed
      dsimp only at failed
      split at failed
      · next kind =>
        split at failed
        · cases failed
        · next unread =>
          have readable := numbers head List.mem_cons_self kind
          rw [unread] at readable
          cases readable
      · cases failed
      · split at failed
        · cases failed
        · next left =>
          split at failed
          · next cause refused =>
            cases failed
            exact ih left (Nat.lt_succ_self left) tokens token numbers.tail refused
          · cases failed
      · split at failed
        · cases failed
        · next left =>
          have groups := sum_understands (operand_faithful left) (ih left (Nat.lt_succ_self left))
          split at failed
          · next cause refused =>
            cases failed
            exact groups tokens token numbers.tail refused
          · next inner rest reads =>
            obtain ⟨front, _, rfl, _⟩ :=
              sum_faithful (operand_faithful left) tokens inner rest reads
            exact close_understands inner rest token numbers.tail.of_append failed
      · rw [Parse.refuse] at failed
        split at failed <;> cases failed

theorem numbersRead_scan (text : String) : NumbersRead (Token.scan text) := by
  obtain ⟨last, scanned, ends, lexical⟩ := Token.scan_eq_sentence text
  intro token inside kind
  rw [scanned] at inside
  rcases List.mem_append.1 inside with before | after
  · exact Lexeme.numberValue?_isSome ((lexical token before).2 kind)
  · rw [List.mem_singleton.1 after, ends] at kind
    cases kind

theorem parse_ne_invalidNumber (text : String) (token : Token) :
    Expr.parse text ≠ .error (.invalidNumber token) := by
  intro failed
  rw [Expr.parse] at failed
  cases tokens_error failed with
  | sum refused =>
    exact sum_understands (operand_faithful _) (operand_understands _) _ token
      (numbersRead_scan text) refused
  | trailing _ _ _ _ _ cause => cases cause

open Lexeme (IsNumber) in
/-- A number token is the longest number, and an identifier token the longest name, that begins the
text at its place; where a token starts and a number or a name begins, it is such a token. Every
number token has a value, and no parse error is about a number without one. -/
theorem literals_of_scan (text : String) :
    (∀ token ∈ Token.scan text,
      (token.kind = .number →
        IsLongest IsNumber (token.remaining text) token.text.toList ∧
        ∃ value, Parse.numberValue? token.text.toList = some value) ∧
      (token.kind = .identifier → IsLongest IsName (token.remaining text) token.text.toList) ∧
      ((∃ piece, IsNumber piece ∧ piece <+: token.remaining text) → token.kind = .number) ∧
      ((∃ piece, IsName piece ∧ piece <+: token.remaining text) → token.kind = .identifier)) ∧
    ∀ token, Expr.parse text ≠ .error (.invalidNumber token) := by
  refine ⟨fun token inside => ⟨?_, ?_, ?_, ?_⟩, parse_ne_invalidNumber text⟩
  · intro kind
    have leads := Token.leads_text inside (by rw [kind]; nofun) (by rw [kind]; nofun)
    rw [kind] at leads
    exact ⟨leads.isLongest nofun fun piece => ⟨Lexeme.Belongs.isNumber, .number piece⟩,
      Option.isSome_iff_exists.1 (numbersRead_scan text token inside kind)⟩
  · intro kind
    have leads := Token.leads_text inside (by rw [kind]; nofun) (by rw [kind]; nofun)
    rw [kind] at leads
    exact leads.isLongest nofun fun piece => ⟨Lexeme.Belongs.isName, .identifier piece⟩
  · rintro ⟨piece, number, begins⟩
    exact Token.kind_of_belongs inside (.number piece number) begins
  · rintro ⟨piece, name, begins⟩
    exact Token.kind_of_belongs inside (.identifier piece name) begins

open Lexeme (IsNumber) in
/-- The caret is not part of the number, since no digits come after the sign. -/
theorem literals_of_scan_caret :
    let text := "1.5e+3^-x2"
    let number : Token := ⟨.number, "1.5e+3", ⟨0, 1, 1⟩⟩
    let name : Token := ⟨.identifier, "x2", ⟨8, 1, 9⟩⟩
    (number ∈ Token.scan text ∧ IsLongest IsNumber text.toList "1.5e+3".toList ∧
      (∃ value, Parse.numberValue? "1.5e+3".toList = some value) ∧ number.kind = .number) ∧
    name ∈ Token.scan text ∧ IsLongest IsName "x2".toList "x2".toList ∧
      name.kind = .identifier := by
  intro text number name
  have scanned : Token.scan "1.5e+3^-x2" =
      [number, ⟨.caret, "^", ⟨6, 1, 7⟩⟩, ⟨.minus, "-", ⟨7, 1, 8⟩⟩, name,
        ⟨.endOfInput, "", ⟨10, 1, 11⟩⟩] := by decide
  have first : number ∈ Token.scan "1.5e+3^-x2" := by
    rw [scanned]
    exact List.mem_cons_self
  have last : name ∈ Token.scan "1.5e+3^-x2" := by
    rw [scanned]
    exact List.mem_of_getElem? (i := 3) rfl
  obtain ⟨each, -⟩ := literals_of_scan "1.5e+3^-x2"
  obtain ⟨reads, -, numbers, -⟩ := each number first
  obtain ⟨-, spells, -, names⟩ := each name last
  obtain ⟨longest, value⟩ := reads rfl
  have whole := spells rfl
  exact ⟨⟨first, longest, value, numbers ⟨_, longest.belongs, longest.begins⟩⟩, last, whole,
    names ⟨_, whole.belongs, whole.begins⟩⟩

end Dimensional.Formula
