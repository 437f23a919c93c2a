import Dimensional.Proofs.Parser
import Dimensional.Proofs.TokenPlace
import Dimensional.Proofs.ViablePrefix

/-!
The token that a parse error is about. Unless a limit is exceeded, a reader of tokens that fails
has read what can begin a phrase, and its error is about the first token with which no phrase goes
on: the parser looks no further ahead than that, and has overlooked nothing before it.
-/

set_option autoImplicit false

namespace Dimensional.Formula

open Parse (chainFrom)

namespace ParseError

/-- Whether the error names a limit of the parser, and no token. -/
inductive IsLimit : ParseError → Prop where
  | nesting : IsLimit .nestedTooDeeply
  | height : IsLimit .treeTooHigh

/-- Whether the error is about a token. That the input ends is an error about its end. -/
inductive IsAbout : ParseError → Token → Prop where
  | finish {token : Token} (ends : token.kind = .endOfInput) : IsAbout .unexpectedEnd token
  | unexpected {token : Token} : IsAbout (.unexpected token) token
  | expected {kind : TokenKind} {token : Token} : IsAbout (.expected kind token) token
  | invalidNumber {token : Token} : IsAbout (.invalidNumber token) token

/-- All errors about a token but that of an unexpected end say where it stands. -/
theorem IsAbout.message {error : ParseError} {token : Token} (about : error.IsAbout token) :
    error = .unexpectedEnd ∨ ∃ opening closing, error.message =
      opening ++ (" at line " ++ toString token.place.line ++ ", column " ++
        toString token.place.column) ++ closing := by
  have place : ParseError.placeText token = " at line " ++ toString token.place.line ++
      ", column " ++ toString token.place.column := rfl
  rw [← place]
  cases about with
  | finish ends => exact Or.inl rfl
  | unexpected =>
    right
    unfold ParseError.message
    dsimp only
    split
    · exact ⟨token.text, "", String.append_empty.symm⟩
    · exact ⟨"Unexpected token '" ++ token.text ++ "'", "", String.append_empty.symm⟩
  | @expected kind =>
    right
    unfold ParseError.message
    exact ⟨"Expected " ++ kind.name ++ ", got " ++ token.kind.name, "", String.append_empty.symm⟩
  | invalidNumber =>
    right
    unfold ParseError.message
    exact ⟨"Invalid number '" ++ token.text ++ "'", ": invalid float literal", rfl⟩

end ParseError

/-- The end of the input is still to come. -/
def Ended (tokens : List Token) : Prop := ∃ token ∈ tokens, token.kind = .endOfInput

theorem Ended.of_append {front rest : List Token} (ended : Ended (front ++ rest))
    (before : ∀ token ∈ front, token.kind ≠ .endOfInput) : Ended rest := by
  obtain ⟨token, inside, ends⟩ := ended
  rcases List.mem_append.1 inside with early | late
  · exact absurd ends (before token early)
  · exact ⟨token, late, ends⟩

theorem Ended.tail {token : Token} {tokens : List Token} (ended : Ended (token :: tokens))
    (more : token.kind ≠ .endOfInput) : Ended tokens := by
  have before : ∀ other ∈ [token], other.kind ≠ .endOfInput := List.forall_mem_singleton.2 more
  exact Ended.of_append ended before

/-- Whatever the reader accepts goes on as long as the phrase can. -/
def Exhausts (phrase : Phrase) (read : List Token → Parsed) : Prop :=
  ∀ tokens tree rest, read tokens = .ok (tree, rest) → phrase.EndsAt rest

/-- Where the reader fails, it is at the first token with which no phrase goes on. -/
def Pinpoints (phrase : Phrase) (read : List Token → Parsed) : Prop :=
  ∀ tokens error, Ended tokens → read tokens = .error error → ¬error.IsLimit →
    ∃ front stop rest, tokens = front ++ stop :: rest ∧ error.IsAbout stop ∧
      phrase.StopsAt front stop

/-- All that is known of a reader: what it accepts is a phrase within the limits and as much of it
as there is, and its failures are at the first token with which no phrase goes on. -/
structure Precise (phrase : Phrase) (budget : Nat) (read : List Token → Parsed) : Prop where
  faithful : Faithful phrase budget read
  exhausts : Exhausts phrase read
  pinpoints : Pinpoints phrase read

/-- A token that cannot go on with the last operand of a chain ends the chain, if it is no operator
of its tier. -/
theorem endsAt_chain {tier : Tier} {token : Token} {tokens : List Token}
    (ends : tier.below.EndsAt (token :: tokens)) (other : tier.operator? token.kind = none) :
    (Phrase.chain tier).EndsAt (token :: tokens) := by
  rintro head tail shape ⟨deeper, operator, tighter, joins⟩
  obtain ⟨rfl, rfl⟩ := List.cons.inj shape
  have apart : deeper ≠ tier := by
    rintro rfl
    rw [(operator?_eq_some_iff _ _ operator).2 joins] at other
    cases other
  cases tier with
  | additive =>
    cases deeper with
    | additive => exact apart rfl
    | multiplicative => exact ends token tokens rfl ⟨_, operator, Nat.le_refl _, joins⟩
    | power => exact ends token tokens rfl ⟨_, operator, by decide, joins⟩
  | multiplicative =>
    cases deeper with
    | additive => exact absurd tighter (by decide)
    | multiplicative => exact apart rfl
    | power => exact ends token tokens rfl ⟨_, operator, Nat.le_refl _, joins⟩
  | power =>
    cases deeper with
    | additive => exact absurd tighter (by decide)
    | multiplicative => exact absurd tighter (by decide)
    | power => exact apart rfl

section Chain

variable {tier : Tier} {budget : Nat} {read : List Token → Parsed}
  (operands : Precise tier.below budget read)

include operands

/-- Enough steps are allowed for, so the loop stops for want of an operator only. -/
theorem chainFrom_exhausts (fuel : Nat) :
    ∀ left height tokens tree rest, tokens.length ≤ fuel → tier.below.EndsAt tokens →
      chainFrom tier.operator? read fuel left height tokens = .ok (tree, rest) →
      (Phrase.chain tier).EndsAt rest := by
  induction fuel with
  | zero =>
    intro left height tokens tree rest room _ success
    obtain ⟨rfl, rfl⟩ := Prod.mk.inj (Except.ok.inj success)
    rw [List.eq_nil_of_length_eq_zero (Nat.le_zero.1 room)]
    exact Phrase.endsAt_nil _
  | succ fuel ih =>
    intro left height tokens tree rest room ends success
    cases tokens with
    | nil =>
      obtain ⟨rfl, rfl⟩ := Prod.mk.inj (Except.ok.inj success)
      exact Phrase.endsAt_nil _
    | cons token tokens =>
      rw [chainFrom] at success
      split at success
      · next other =>
        obtain ⟨rfl, rfl⟩ := Prod.mk.inj (Except.ok.inj success)
        exact endsAt_chain ends other
      · split at success
        · cases success
        · next right after reads =>
          dsimp only at success
          split at success
          · cases success
          · obtain ⟨front, _, rfl, _⟩ := operands.faithful tokens right after reads
            simp only [List.length_cons, List.length_append] at room
            exact ih _ _ after tree rest (by omega) (operands.exhausts _ right after reads) success

/-- The loop fails in an operand after some operator of the tier. -/
theorem chainFrom_pinpoints (fuel : Nat) :
    ∀ left height tokens error, Ended tokens →
      chainFrom tier.operator? read fuel left height tokens = .error error → ¬error.IsLimit →
      ∃ token operator front stop rest, tokens = token :: front ++ stop :: rest ∧
        Joins tier token.kind operator ∧ error.IsAbout stop ∧
        (Phrase.tail tier left).StopsAt (token :: front) stop := by
  induction fuel with
  | zero =>
    intro left height tokens error _ failed
    cases failed
  | succ fuel ih =>
    intro left height tokens error ended failed unlimited
    cases tokens with
    | nil => cases failed
    | cons token tokens =>
      rw [chainFrom] at failed
      split at failed
      · cases failed
      · next operator found =>
        have joins := (operator?_eq_some_iff tier token.kind operator).1 found
        have more : token.kind ≠ .endOfInput := by
          intro ends
          rw [ends] at joins
          cases joins
        split at failed
        · next cause refused =>
          cases failed
          obtain ⟨front, stop, rest, rfl, about, stops⟩ :=
            operands.pinpoints tokens error (ended.tail more) refused unlimited
          exact ⟨token, operator, front, stop, rest, rfl, joins, about, stops.operand joins⟩
        · next right after reads =>
          dsimp only at failed
          split at failed
          · cases failed
            exact absurd .height unlimited
          · obtain ⟨operand, nesting, rfl, derived, _⟩ := operands.faithful tokens right after reads
            have still := (ended.tail more).of_append derived.notEnd
            obtain ⟨next, following, front, stop, rest, rfl, joinsNext, about, stops⟩ :=
              ih _ _ after error still failed unlimited
            exact ⟨token, operator, operand ++ next :: front, stop, rest, by simp, joins, about,
              .step joins derived joinsNext stops⟩

theorem chain_precise : Precise (.chain tier) budget (Parse.chain tier.operator? read) where
  faithful := chain_faithful tier operands.faithful
  exhausts := by
    intro tokens tree rest success
    rw [Parse.chain] at success
    split at success
    · cases success
    · next left after reads =>
      exact chainFrom_exhausts operands after.length left left.depth after tree rest
        (Nat.le_refl _) (operands.exhausts tokens left after reads) success
  pinpoints := by
    intro tokens error ended failed unlimited
    rw [Parse.chain] at failed
    split at failed
    · next cause refused =>
      cases failed
      obtain ⟨front, stop, rest, shape, about, stops⟩ :=
        operands.pinpoints tokens error ended refused unlimited
      exact ⟨front, stop, rest, shape, about, stops.first⟩
    · next left after reads =>
      obtain ⟨operand, nesting, rfl, derived, _⟩ := operands.faithful tokens left after reads
      have still := ended.of_append derived.notEnd
      obtain ⟨token, operator, front, stop, rest, rfl, joins, about, stops⟩ :=
        chainFrom_pinpoints operands _ _ _ after error still failed unlimited
      exact ⟨operand ++ token :: front, stop, rest, by simp, about,
        .continued derived joins stops⟩

end Chain

theorem sum_precise {budget : Nat} {read : List Token → Parsed}
    (operands : Precise .operand budget read) :
    Precise (.chain .additive) budget (Parse.sum read) := by
  have powers : Precise (.chain .power) budget _ := chain_precise operands
  have products : Precise (.chain .multiplicative) budget _ := chain_precise powers
  exact chain_precise products

theorem close_error {inner : Expr Float} {tokens : List Token} {error : ParseError}
    (ended : Ended tokens) (failed : Parse.close inner tokens = .error error) :
    ∃ stop rest, tokens = stop :: rest ∧ error.IsAbout stop ∧ stop.kind ≠ .closeParen := by
  cases tokens with
  | nil =>
    obtain ⟨token, inside, _⟩ := ended
    cases inside
  | cons token tokens =>
    rw [Parse.close] at failed
    split at failed
    · cases failed
    · next other =>
      refine ⟨token, tokens, rfl, ?_, other⟩
      split at failed
      · cases failed
        exact .unexpected
      · cases failed
        exact .expected

/-- The ways in which an operand is refused. -/
inductive Refuses (budget : Nat) (token : Token) (tokens : List Token) (error : ParseError) :
    Prop where
  | limit (limit : error.IsLimit)
  | start (about : error.IsAbout token)
      (cannot : ∀ operand tree nesting, ¬Derives .operand (token :: operand) tree nesting)
  | negate (left : Nat) (kind : token.kind = .minus) (room : budget = left + 1)
      (operand : Parse.operand left tokens = .error error)
  | group (left : Nat) (kind : token.kind = .openParen) (room : budget = left + 1)
      (body : Parse.sum (Parse.operand left) tokens = .error error)
  | close (left : Nat) (inner : Expr Float) (rest : List Token) (kind : token.kind = .openParen)
      (room : budget = left + 1) (body : Parse.sum (Parse.operand left) tokens = .ok (inner, rest))
      (lacks : Parse.close inner rest = .error error)

theorem refuse_about (token : Token) : (Parse.refuse token).IsAbout token := by
  rw [Parse.refuse]
  split
  · next ends => exact .finish ends
  · exact .unexpected

theorem operand_error {budget : Nat} {token : Token} {tokens : List Token} {error : ParseError}
    (failed : Parse.operand budget (token :: tokens) = .error error) :
    Refuses budget token tokens error := by
  rw [Parse.operand.eq_def] at failed
  dsimp only at failed
  split at failed
  · next kind =>
    split at failed
    · cases failed
    · next unread =>
      cases failed
      refine .start .invalidNumber fun operand tree nesting derived => ?_
      obtain ⟨_, value, reads⟩ | other | other | other := derived.operand_kind
      · rw [unread] at reads
        cases reads
      all_goals
        rw [kind] at other
        cases other
  · cases failed
  · next kind =>
    split at failed
    · cases failed
      exact .limit .nesting
    · next left =>
      split at failed
      · next cause refused =>
        cases failed
        exact .negate left kind rfl refused
      · cases failed
  · next kind =>
    split at failed
    · cases failed
      exact .limit .nesting
    · next left =>
      split at failed
      · next cause refused =>
        cases failed
        exact .group left kind rfl refused
      · next inner rest reads => exact .close left inner rest kind rfl reads failed
  · next number identifier minus opens =>
    cases failed
    refine .start (refuse_about token) fun operand tree nesting derived => ?_
    obtain ⟨kind, _⟩ | kind | kind | kind := derived.operand_kind
    · exact number kind
    · exact identifier kind
    · exact minus kind
    · exact opens kind

/-- The induction is on the budget, as for what is accepted. -/
theorem operand_precise (budget : Nat) : Precise .operand budget (Parse.operand budget) := by
  induction budget using Nat.strongRecOn with
  | ind budget ih =>
    refine ⟨operand_faithful budget, fun _ _ _ _ => trivial, ?_⟩
    intro tokens error ended failed unlimited
    cases tokens with
    | nil =>
      obtain ⟨token, inside, _⟩ := ended
      cases inside
    | cons token tokens =>
      have more : token.kind = .minus ∨ token.kind = .openParen → Ended tokens := by
        rintro (kind | kind) <;> exact ended.tail (by rw [kind]; decide)
      cases operand_error failed with
      | limit limit => exact absurd limit unlimited
      | start about cannot => exact ⟨[], token, tokens, rfl, about, .start cannot⟩
      | negate left kind room operand =>
        subst room
        obtain ⟨front, stop, rest, rfl, about, stops⟩ :=
          (ih left (Nat.lt_succ_self left)).pinpoints tokens error (more (.inl kind)) operand
            unlimited
        exact ⟨token :: front, stop, rest, rfl, about, stops.negate kind⟩
      | group left kind room body =>
        subst room
        obtain ⟨front, stop, rest, rfl, about, stops⟩ :=
          (sum_precise (ih left (Nat.lt_succ_self left))).pinpoints tokens error
            (more (.inr kind)) body unlimited
        exact ⟨token :: front, stop, rest, rfl, about, stops.group kind⟩
      | close left inner rest kind room body lacks =>
        subst room
        -- The chain is read as far as it goes, so only the parenthesis could have followed.
        have groups := sum_precise (ih left (Nat.lt_succ_self left))
        have ends := groups.exhausts tokens inner rest body
        obtain ⟨front, nesting, rfl, derived, _⟩ := groups.faithful tokens inner rest body
        have still := (more (.inr kind)).of_append derived.notEnd
        obtain ⟨stop, rest, rfl, about, unclosed⟩ := close_error still lacks
        exact ⟨token :: front, stop, rest, rfl, about,
          .unclosed kind derived (ends.of_head []) unclosed⟩

/-- The ways in which the whole input is refused. -/
inductive Rejects (all : List Token) (error : ParseError) : Prop where
  | sum (failed : Parse.sum (Parse.operand (nestingLimit - 1)) all = .error error)
  | trailing (tree : Expr Float) (token : Token) (rest : List Token)
      (reads : Parse.sum (Parse.operand (nestingLimit - 1)) all = .ok (tree, token :: rest))
      (more : token.kind ≠ .endOfInput) (cause : error = .unexpected token)

theorem tokens_error {all : List Token} {error : ParseError}
    (failed : Parse.tokens all = .error error) : Rejects all error := by
  rw [Parse.tokens] at failed
  split at failed
  · next cause refused =>
    cases failed
    exact .sum refused
  · cases failed
  · next tree token rest reads =>
    split at failed
    · cases failed
    · next more =>
      cases failed
      exact .trailing tree token rest reads more rfl

theorem ended_scan (text : String) : Ended (Token.scan text) := by
  obtain ⟨last, scanned, ends, _⟩ := Token.scan_eq_sentence text
  exact ⟨last, by simp [scanned], ends⟩

/-- Where a whole text is refused, the tokens before the one that the error is about begin a
sentence, none goes on with that token, and they are no sentence if it is the end. -/
theorem impossible_of_parse {text : String} {error : ParseError}
    (failed : Expr.parse text = .error error) (unlimited : ¬error.IsLimit) :
    ∃ front stop rest, Token.scan text = front ++ stop :: rest ∧ error.IsAbout stop ∧
      (Phrase.chain .additive).Begins front ∧ ¬(Phrase.chain .additive).Begins (front ++ [stop]) ∧
      (stop.kind = .endOfInput →
        ∀ tree nesting, ¬Derives (.chain .additive) front tree nesting) := by
  have sums := sum_precise (operand_precise (nestingLimit - 1))
  rw [Expr.parse] at failed
  cases tokens_error failed with
  | sum refused =>
    obtain ⟨front, stop, rest, shape, about, stops⟩ :=
      sums.pinpoints _ error (ended_scan text) refused unlimited
    refine ⟨front, stop, rest, shape, about, stops.begins, stops.not_begins, ?_⟩
    intro ends tree nesting derived
    exact stops.excludes [] front [stop] tree nesting derived (endsAt_end ends .additive) rfl
  | trailing tree stop rest reads more cause =>
    have ends := sums.exhausts _ tree (stop :: rest) reads
    obtain ⟨front, nesting, shape, derived, _⟩ := sums.faithful _ tree (stop :: rest) reads
    refine ⟨front, stop, rest, shape, ?_, derived.begins, derived.not_begins (ends.of_head []), ?_⟩
    · rw [cause]
      exact .unexpected
    · intro finish
      exact absurd finish more

/-- A parse error that names no limit is about the first token that cannot stand where it does: the
tokens before it begin a sentence of the grammar, and no sentence begins with them and the token. If
it is the end of the input, they are all there is and no sentence. But for an unexpected end, the
message has the line and the column of the token's first character. -/
theorem parse_error_at_first_impossible (text : String) (error : ParseError)
    (failed : Expr.parse text = .error error) (nested : error ≠ .nestedTooDeeply)
    (high : error ≠ .treeTooHigh) :
    ∃ front stop rest before,
      Token.scan text = front ++ stop :: rest ∧ error.IsAbout stop ∧
      (Phrase.chain .additive).Begins front ∧ ¬(Phrase.chain .additive).Begins (front ++ [stop]) ∧
      (stop.kind = .endOfInput → front = Token.sentence text ∧
        ∀ tree nesting, ¬Derives (.chain .additive) front tree nesting) ∧
      stop.StandsAfter text.toList before ∧
      (error = .unexpectedEnd ∨ ∃ opening closing, error.message =
        opening ++ (" at line " ++ toString (lineAfter before) ++ ", column " ++
          toString (columnAfter before)) ++ closing) := by
  have unlimited : ¬error.IsLimit := by
    intro limit
    cases limit with
    | nesting => exact nested rfl
    | height => exact high rfl
  obtain ⟨front, stop, rest, shape, about, begins, impossible, unfinished⟩ :=
    impossible_of_parse failed unlimited
  obtain ⟨before, stands⟩ : ∃ before, stop.StandsAfter text.toList before :=
    Token.standsAfter_of_scan (by simp [shape])
  have place : stop.place = Place.following before := stands.place
  have message := about.message
  rw [place] at message
  refine ⟨front, stop, rest, before, shape, about, begins, impossible, ?_, stands, message⟩
  intro ends
  obtain ⟨more, tree, nesting, derived⟩ := begins
  have kinds : ∀ token ∈ front, token.kind ≠ .endOfInput := fun token inside =>
    derived.notEnd token (List.mem_append_left more inside)
  exact ⟨(sentence_of_front shape ends kinds).symm, unfinished ends⟩

/-- A group is open when a character comes that starts no token. A name or an operator could follow
what is before it, which is on two lines. -/
theorem parse_error_of_open_group :
    let text := "(a * b\n + c $"
    let stop : Token := ⟨.unknown, "Unexpected character '$'", ⟨12, 2, 6⟩⟩
    Expr.parse text = .error (.unexpected stop) ∧
    ∃ front rest before, Token.scan text = front ++ stop :: rest ∧
      (Phrase.chain .additive).Begins front ∧
      ¬(Phrase.chain .additive).Begins (front ++ [stop]) ∧
      stop.StandsAfter text.toList before ∧ lineAfter before = 2 ∧ columnAfter before = 6 := by
  have failed : Expr.parse "(a * b\n + c $" =
      .error (.unexpected ⟨.unknown, "Unexpected character '$'", ⟨12, 2, 6⟩⟩) := rfl
  intro text stop
  obtain ⟨front, _, rest, before, shape, about, begins, impossible, _, stands, _⟩ :=
    parse_error_at_first_impossible text (.unexpected stop) failed (by simp) (by simp)
  cases about
  have place : stop.place = Place.following before := stands.place
  injection place with _ line column
  exact ⟨failed, front, rest, before, shape, begins, impossible, stands, line.symm, column.symm⟩

end Dimensional.Formula
