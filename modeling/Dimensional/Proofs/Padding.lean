import Mathlib.Data.List.Basic
import Dimensional.Proofs.Outcome
import Dimensional.Proofs.Tiling
import Dimensional.Proofs.Unplaced

/-!
Blanks between tokens. Where a scanner looks past the end of a lexeme, a blank is as good a reason
to stop as what was there before; so blanks that are put in where no lexeme is torn apart leave all
tokens as they are but for their places, and the parse with them.
-/

set_option autoImplicit false

namespace Dimensional.Formula

/-- The characters, before each the padding of its position, and the last padding after them. -/
def padFrom (padding : Nat → List Char) : Nat → List Char → List Char
  | position, [] => padding position
  | position, c :: cs => padding position ++ c :: padFrom padding (position + 1) cs

/-- The text with the padding put in. -/
def padded (padding : Nat → List Char) (text : String) : String :=
  String.ofList (padFrom padding 0 text.toList)

namespace Token

/-- How many characters of the text are the token. -/
def width (token : Token) : Nat := if token.kind = .unknown then 1 else token.text.length

/-- Whether the token starts before the position and ends after it. -/
def Spans (token : Token) (position : Nat) : Prop :=
  token.place.position < position ∧ position < token.place.position + token.width

end Token

/-- The padding is blank, and there is none inside a token of the text. -/
structure Pads (text : String) (padding : Nat → List Char) : Prop where
  blank : ∀ position, ∀ c ∈ padding position, isBlank c = true
  between : ∀ position, padding position ≠ [] → ∀ token ∈ Token.scan text, ¬token.Spans position

section PadFrom

variable {padding : Nat → List Char}

/-- Where there is no padding, nothing changes. -/
theorem padFrom_append {front : List Char} (rest : List Char) {position : Nat}
    (bare : ∀ i, position ≤ i → i < position + front.length → padding i = []) :
    padFrom padding position (front ++ rest) =
      front ++ padFrom padding (position + front.length) rest := by
  induction front generalizing position with
  | nil => rfl
  | cons c front ih =>
    have here : padding position = [] := bare position (Nat.le_refl _) (by simp)
    have later : padFrom padding (position + 1) (front ++ rest) =
        front ++ padFrom padding (position + 1 + front.length) rest := ih fun i low high =>
      bare i (by omega) (by simp only [List.length_cons]; omega)
    rw [List.cons_append, padFrom, here, List.nil_append, later, List.length_cons,
      Nat.add_right_comm]
    rfl

/-- What is put in is blank, so what begins the padded text without a blank begins the text. -/
theorem isPrefix_of_padFrom (blank : ∀ position, ∀ c ∈ padding position, isBlank c = true)
    {piece cs : List Char} (solid : ∀ c ∈ piece, isBlank c = false) {position : Nat}
    (begins : piece <+: padFrom padding position cs) : piece <+: cs := by
  induction cs generalizing piece position with
  | nil =>
    cases piece with
    | nil => exact List.nil_prefix
    | cons first piece =>
      have inside : first ∈ padding position := begins.subset List.mem_cons_self
      have solid := solid first List.mem_cons_self
      rw [blank position first inside] at solid
      cases solid
  | cons c cs ih =>
    cases piece with
    | nil => exact List.nil_prefix
    | cons first piece =>
      rw [padFrom] at begins
      cases here : padding position with
      | nil =>
        rw [here, List.nil_append, List.cons_prefix_cons] at begins
        rw [List.cons_prefix_cons]
        exact ⟨begins.1, ih (fun c inside => solid c (List.mem_cons_of_mem _ inside)) begins.2⟩
      | cons other others =>
        rw [here, List.cons_append, List.cons_prefix_cons] at begins
        have solid := solid first List.mem_cons_self
        rw [begins.1, blank position other (here ▸ List.mem_cons_self)] at solid
        cases solid

end PadFrom

/-- What leads a text leads another that it begins, if all else without a blank that begins the
other begins the text too. -/
theorem Lexeme.Leads.of_prefixes {text other cs : List Char} {kind : TokenKind}
    (leads : Leads text kind cs) (begins : cs <+: other)
    (prefixes : ∀ piece, (∀ c ∈ piece, isBlank c = false) → piece <+: other → piece <+: text) :
    Leads other kind cs := by
  cases leads with
  | lexeme _ _ belongs _ longest =>
    exact .lexeme _ _ belongs begins fun kind piece belongs begins =>
      longest kind piece belongs (prefixes piece belongs.solid begins)
  | unknown c rest _ none =>
    obtain ⟨tail, shape⟩ := begins
    exact .unknown c tail shape.symm fun kind piece belongs begins =>
      none kind piece belongs (prefixes piece belongs.solid begins)

namespace Token

theorem scanFrom_blanks {gap : List Char} (blank : ∀ c ∈ gap, isBlank c = true) (cs : List Char)
    (place : Place) : ∃ next, scanFrom place 0 (gap ++ cs) = scanFrom next 0 cs := by
  induction gap generalizing place with
  | nil => exact ⟨place, rfl⟩
  | cons c gap ih =>
    obtain ⟨here, later⟩ := List.forall_mem_cons.1 blank
    rw [List.cons_append, scanFrom_blank place c _ here]
    exact ih later (place.after c)

theorem width_ofLexeme (c : Char) (rest : List Char) (place : Place) :
    (ofLexeme (Lexeme.read c rest).1 (Lexeme.read c rest).2 place).width =
      (Lexeme.read c rest).2.length := by
  rw [width, kind_ofLexeme]
  split
  · next unknown => rw [Lexeme.read_unknown unknown, List.length_singleton]
  · next known => rw [text_ofLexeme _ _ _ known, String.length_ofList]

theorem unplaced_ofLexeme (kind : TokenKind) (lexeme : List Char) (place other : Place) :
    (ofLexeme kind lexeme place).unplaced = (ofLexeme kind lexeme other).unplaced := by
  cases kind <;> rfl

section Scan

variable {padding : Nat → List Char} (blank : ∀ position, ∀ c ∈ padding position, isBlank c = true)

include blank

/-- The scanner finds the same lexeme when blanks are put in after it. -/
theorem read_padFrom {c : Char} {cs : List Char} {position : Nat}
    (bare : ∀ i, position < i → i < position + (Lexeme.read c cs).2.length → padding i = []) :
    Lexeme.read c (padFrom padding (position + 1) cs) = Lexeme.read c cs := by
  have leads := Lexeme.leads_read c cs
  obtain ⟨first, more, lexeme⟩ := List.exists_cons_of_ne_nil leads.ne_nil
  have begins : (Lexeme.read c cs).2 <+: c :: padFrom padding (position + 1) cs := by
    have inside := Lexeme.read_isPrefix c cs
    rw [lexeme, List.cons_prefix_cons] at inside
    obtain ⟨rfl, tail, rfl⟩ := inside
    rw [lexeme, List.cons_prefix_cons]
    rw [lexeme, List.length_cons] at bare
    rw [padFrom_append tail fun i low high => bare i low (by omega)]
    exact ⟨rfl, List.prefix_append _ _⟩
  have padded := leads.of_prefixes begins fun piece solid begins => by
    cases piece with
    | nil => exact List.nil_prefix
    | cons head piece =>
      rw [List.cons_prefix_cons] at begins ⊢
      exact ⟨begins.1, isPrefix_of_padFrom blank (List.forall_mem_cons.1 solid).2 begins.2⟩
  obtain ⟨kind, text⟩ := (Lexeme.leads_read c (padFrom padding (position + 1) cs)).unique padded
  exact Prod.ext kind text

/-- The induction follows the scan of the text without padding; the other scan skips the padding of
each position that it comes to, and inside a lexeme there is none. -/
theorem scanFrom_padFrom (place : Place) (pending : Nat) (cs : List Char) :
    ∀ other, (∀ i, place.position ≤ i → i < place.position + pending → padding i = []) →
      (∀ position, padding position ≠ [] →
        ∀ token ∈ scanFrom place pending cs, ¬token.Spans position) →
      (scanFrom other pending (padFrom padding place.position cs)).map unplaced =
        (scanFrom place pending cs).map unplaced := by
  fun_induction scanFrom place pending cs with
  | case1 place pending =>
    intro other bare between
    cases pending with
    | zero =>
      obtain ⟨next, skipped⟩ := scanFrom_blanks (blank place.position) [] other
      rw [padFrom]
      rw [List.append_nil] at skipped
      rw [skipped, scanFrom_nil]
      rfl
    | succ pending =>
      rw [padFrom, bare place.position (Nat.le_refl _) (by omega), scanFrom_nil]
      rfl
  | case2 place pending c cs ih =>
    intro other bare between
    rw [padFrom, bare place.position (Nat.le_refl _) (by omega), List.nil_append, scanFrom_pending]
    have rest := ih (other.after c) (fun i low high => ?_) between
    · rwa [Place.position_after] at rest
    · rw [Place.position_after] at low high
      exact bare i (by omega) (by omega)
  | case3 place c cs isBlank ih =>
    intro other bare between
    obtain ⟨next, skipped⟩ := scanFrom_blanks (blank place.position)
      (c :: padFrom padding (place.position + 1) cs) other
    rw [padFrom, skipped, scanFrom_blank next c _ isBlank]
    have rest := ih (next.after c) (fun i low high => by omega) between
    rwa [Place.position_after] at rest
  | case4 place c cs solid kind lexeme read ih =>
    intro other bare between
    have wide : (ofLexeme kind lexeme place).width = lexeme.length := by
      have width := width_ofLexeme c cs place
      rwa [read] at width
    have inside : ∀ i, place.position < i → i < place.position + lexeme.length →
        padding i = [] := by
      intro i low high
      by_contra present
      apply between i present _ List.mem_cons_self
      rw [Spans, place_ofLexeme, wide]
      exact ⟨low, high⟩
    have same : Lexeme.read c (padFrom padding (place.position + 1) cs) = (kind, lexeme) :=
      (read_padFrom blank (by rwa [read])).trans read
    obtain ⟨next, skipped⟩ := scanFrom_blanks (blank place.position)
      (c :: padFrom padding (place.position + 1) cs) other
    have rest := ih (next.after c)
      (fun i low high => by
        rw [Place.position_after] at low high
        exact inside i (by omega) (by omega))
      fun position present token later =>
        between position present token (List.mem_cons_of_mem _ later)
    rw [Place.position_after] at rest
    rw [padFrom, skipped, scanFrom_lexeme next c _ (by simpa using solid), same, List.map_cons,
      List.map_cons, rest, unplaced_ofLexeme kind lexeme next place]

end Scan

theorem scan_padded {text : String} {padding : Nat → List Char} (pads : Pads text padding) :
    (scan (padded padding text)).map unplaced = (scan text).map unplaced := by
  rw [scan, padded, String.toList_ofList]
  exact scanFrom_padFrom pads.blank Place.start 0 text.toList Place.start (fun i _ high => by
    exact absurd high (Nat.not_lt_zero i)) pads.between

end Token

theorem mapError_eq_ok_iff {ε ε' β : Type} {action : Except ε β} {name : ε → ε'} {value : β} :
    action.mapError name = .ok value ↔ action = .ok value :=
  ⟨Except.mapError_ok, fun done => by rw [done]; rfl⟩

/-- Blanks that are put in between the tokens of a text leave their kinds and texts as they are, and
the parse gives the same tree, or the same error but for the place of a token. -/
theorem parse_of_padded (text : String) (padding : Nat → List Char) (pads : Pads text padding) :
    (Token.scan (padded padding text)).map (fun token => (token.kind, token.text)) =
      (Token.scan text).map (fun token => (token.kind, token.text)) ∧
    (∀ tree, Expr.parse (padded padding text) = .ok tree ↔ Expr.parse text = .ok tree) ∧
    (Expr.parse (padded padding text)).mapError ParseError.unplaced =
      (Expr.parse text).mapError ParseError.unplaced := by
  have scanned := Token.scan_padded pads
  have parsed : (Expr.parse (padded padding text)).mapError ParseError.unplaced =
      (Expr.parse text).mapError ParseError.unplaced := by
    rw [Expr.parse, Expr.parse, ← Parse.mapError_tokens, ← Parse.mapError_tokens, scanned]
  refine ⟨?_, fun tree => ?_, parsed⟩
  · have kinds := congrArg (List.map fun token : Token => (token.kind, token.text)) scanned
    simpa only [List.map_map, Function.comp_def, Token.kind_unplaced, Token.text_unplaced]
      using kinds
  · rw [← mapError_eq_ok_iff, parsed, mapError_eq_ok_iff]

/-- The exponent of `2e+x` lacks its digits, and so it does when blanks come before the `e`, where
the number ends, and before the `x`, two characters further on. -/
theorem parse_of_padded_exponent :
    let padding : Nat → List Char := fun position =>
      if position = 1 then [' '] else if position = 3 then ['\n', ' '] else []
    Pads "2e+x" padding ∧ padded padding "2e+x" = "2 e+\n x" ∧
    (Token.scan "2 e+\n x").map (fun token => (token.kind, token.text)) =
      (Token.scan "2e+x").map (fun token => (token.kind, token.text)) ∧
    (Expr.parse "2 e+\n x").mapError ParseError.unplaced =
      (Expr.parse "2e+x").mapError ParseError.unplaced := by
  intro padding
  have text : padded padding "2e+x" = "2 e+\n x" := by decide
  have scanned : Token.scan "2e+x" =
      [⟨.number, "2", ⟨0, 1, 1⟩⟩, ⟨.identifier, "e", ⟨1, 1, 2⟩⟩, ⟨.plus, "+", ⟨2, 1, 3⟩⟩,
        ⟨.identifier, "x", ⟨3, 1, 4⟩⟩, ⟨.endOfInput, "", ⟨4, 1, 5⟩⟩] := by decide
  have pads : Pads "2e+x" padding := by
    constructor
    · intro position c inside
      simp only [padding] at inside
      split at inside
      · rw [List.mem_singleton.1 inside]
        decide
      · split at inside
        · rcases List.mem_pair.1 inside with rfl | rfl <;> decide
        · cases inside
    · intro position present token inside
      have places : position = 1 ∨ position = 3 := by
        by_contra other
        rw [not_or] at other
        exact present (by simp only [padding, other, ↓reduceIte])
      rw [scanned] at inside
      simp only [List.mem_cons, List.not_mem_nil, or_false] at inside
      unfold Token.Spans
      rcases places with rfl | rfl <;> rcases inside with rfl | rfl | rfl | rfl | rfl <;> decide
  have same := parse_of_padded "2e+x" padding pads
  rw [text] at same
  exact ⟨pads, text, same.1, same.2.2⟩

end Dimensional.Formula
