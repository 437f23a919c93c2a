import Dimensional.Proofs.LongestLexeme
import Dimensional.Proofs.TokenPlace

/-!
A scan loses nothing. The lexemes of the tokens, each after the blanks that are skipped before it,
are the text; the cursor of the scan moves by one character at a time and never past the end, and no
lexeme reaches past it.
-/

set_option autoImplicit false

namespace Dimensional.Formula

namespace Lexeme

theorem Leads.ne_nil {text cs : List Char} {kind : TokenKind} (leads : Leads text kind cs) :
    cs ≠ [] := by
  cases leads with
  | lexeme _ _ belongs _ _ => exact belongs.ne_nil
  | unknown => exact List.cons_ne_nil _ _

theorem Leads.more {text cs : List Char} {kind : TokenKind} (leads : Leads text kind cs) :
    kind ≠ .endOfInput := by
  cases leads with
  | lexeme _ _ belongs _ _ => exact belongs.known.2
  | unknown => nofun

/-- Blanks lead no text, so what does has no blank in it. -/
theorem Leads.solid {c : Char} {rest cs : List Char} {kind : TokenKind}
    (leads : Leads (c :: rest) kind cs) (solid : isBlank c = false) :
    ∀ c ∈ cs, isBlank c = false := by
  cases leads with
  | lexeme _ _ belongs _ _ => exact belongs.solid
  | unknown first later shape _ =>
    obtain ⟨rfl, -⟩ := List.cons.inj shape
    exact List.forall_mem_singleton.2 solid

end Lexeme

namespace Token

@[simp] theorem place_ofLexeme (kind : TokenKind) (lexeme : List Char) (place : Place) :
    (ofLexeme kind lexeme place).place = place := by
  cases kind <;> rfl

/-- `Tiles before cs tokens`: after the characters `before` the text goes on with `cs`, which is the
lexemes of the tokens, each after some blanks, and some blanks before the end. -/
inductive Tiles : List Char → List Char → List Token → Prop where
  | finish (before gap : List Char) (blank : ∀ c ∈ gap, isBlank c = true) :
      Tiles before gap [⟨.endOfInput, "", Place.following (before ++ gap)⟩]
  | token (before gap lexeme rest : List Char) (token : Token) (tokens : List Token)
      (blank : ∀ c ∈ gap, isBlank c = true) (solid : ∀ c ∈ lexeme, isBlank c = false)
      (leads : Lexeme.Leads (lexeme ++ rest) token.kind lexeme)
      (spelt : token.kind ≠ .unknown → token.text = String.ofList lexeme)
      (place : token.place = Place.following (before ++ gap))
      (tiles : Tiles (before ++ gap ++ lexeme) rest tokens) :
      Tiles before (gap ++ (lexeme ++ rest)) (token :: tokens)

/-- Another blank is skipped before the first token. -/
theorem Tiles.blank {before cs : List Char} {c : Char} {tokens : List Token}
    (blank : isBlank c = true) (tiles : Tiles (before ++ [c]) cs tokens) :
    Tiles before (c :: cs) tokens := by
  cases tiles with
  | finish _ _ blanks =>
    rw [← List.append_cons]
    exact .finish before (c :: cs) (List.forall_mem_cons.2 ⟨blank, blanks⟩)
  | token _ gap lexeme rest token tokens blanks solid leads spelt place tiles =>
    rw [← List.append_cons] at place tiles
    exact .token before (c :: gap) lexeme rest token tokens
      (List.forall_mem_cons.2 ⟨blank, blanks⟩) solid leads spelt place tiles

theorem Tiles.lexeme {before lexeme rest : List Char} {kind : TokenKind} {tokens : List Token}
    (leads : Lexeme.Leads (lexeme ++ rest) kind lexeme) (solid : ∀ c ∈ lexeme, isBlank c = false)
    (tiles : Tiles (before ++ lexeme) rest tokens) :
    Tiles before (lexeme ++ rest) (ofLexeme kind lexeme (Place.following before) :: tokens) := by
  apply Tiles.token before [] lexeme rest
  · exact List.forall_mem_nil _
  · exact solid
  · rwa [kind_ofLexeme]
  · rw [kind_ofLexeme]
    exact text_ofLexeme kind lexeme _
  · rw [place_ofLexeme, List.append_nil]
  · rwa [List.append_nil]

/-- The first `pending` characters are the end of a lexeme. -/
theorem tiles_scanFrom (place : Place) (pending : Nat) (cs : List Char) :
    ∀ before, place = Place.following before → pending ≤ cs.length →
      Tiles (before ++ cs.take pending) (cs.drop pending) (scanFrom place pending cs) := by
  fun_induction scanFrom place pending cs with
  | case1 place pending =>
    rintro before rfl room
    rw [List.take_nil, List.drop_nil]
    have finish := Tiles.finish before [] (List.forall_mem_nil _)
    rwa [List.append_nil] at finish ⊢
  | case2 place pending c cs ih =>
    rintro before rfl room
    have rest := ih (before ++ [c]) (Place.after_following before c) (Nat.le_of_succ_le_succ room)
    simpa using rest
  | case3 place c cs blank ih =>
    rintro before rfl room
    have rest := ih (before ++ [c]) (Place.after_following before c) (Nat.zero_le _)
    simp only [List.take_zero, List.append_nil, List.drop_zero] at rest ⊢
    exact rest.blank blank
  | case4 place c cs solid kind lexeme read ih =>
    rintro before rfl room
    have leads := Lexeme.leads_read c cs
    have begins := Lexeme.read_isPrefix c cs
    simp only [read] at leads begins
    obtain ⟨first, more, rfl⟩ := List.exists_cons_of_ne_nil leads.ne_nil
    obtain ⟨rfl, tail, rfl⟩ := List.cons_prefix_cons.1 begins
    have rest := ih (before ++ [first]) (Place.after_following before first) (by simp)
    simp only [List.length_cons, Nat.add_sub_cancel, List.take_left, List.drop_left,
      ← List.append_cons] at rest
    have blankless := leads.solid (by simpa using solid)
    have tiles : Tiles before ((first :: more) ++ tail) _ := .lexeme leads blankless rest
    simpa using tiles

theorem tiles_scan (text : String) : Tiles [] text.toList (scan text) :=
  tiles_scanFrom Place.start 0 text.toList [] rfl (Nat.zero_le _)

section Tiles

variable {before cs : List Char} {tokens : List Token} (tiles : Tiles before cs tokens)

include tiles

theorem Tiles.least : ∀ token ∈ tokens, before.length ≤ token.place.position := by
  induction tiles with
  | finish before gap blank =>
    refine List.forall_mem_singleton.2 ?_
    rw [Place.following, List.length_append]
    exact Nat.le_add_right _ _
  | token before gap lexeme rest token tokens blank solid leads spelt place tiles ih =>
    refine List.forall_mem_cons.2 ⟨?_, fun later inside => ?_⟩
    · rw [place, Place.following, List.length_append]
      exact Nat.le_add_right _ _
    · have past := ih later inside
      simp only [List.length_append] at past
      omega

/-- Tokens stand one after another. -/
theorem Tiles.ordered :
    tokens.Pairwise fun first second => first.place.position < second.place.position := by
  induction tiles with
  | finish before gap blank => exact List.pairwise_singleton _ _
  | token before gap lexeme rest token tokens blank solid leads spelt place tiles ih =>
    refine List.pairwise_cons.2 ⟨fun later inside => ?_, ih⟩
    have past := tiles.least later inside
    have wide : 0 < lexeme.length := List.length_pos_iff.2 leads.ne_nil
    rw [List.length_append] at past
    rw [place, Place.following]
    dsimp only
    omega

/-- The last token, and only it, is the end, and stands where the text ends. -/
theorem Tiles.finishes :
    ∃ front last, tokens = front ++ [last] ∧ last.kind = .endOfInput ∧
      last.place.position = (before ++ cs).length ∧ ∀ token ∈ front, token.kind ≠ .endOfInput := by
  induction tiles with
  | finish before gap blank => exact ⟨[], _, rfl, rfl, rfl, List.forall_mem_nil _⟩
  | token before gap lexeme rest token tokens blank solid leads spelt place tiles ih =>
    obtain ⟨front, last, rfl, ends, position, others⟩ := ih
    refine ⟨token :: front, last, rfl, ends, ?_, List.forall_mem_cons.2 ⟨leads.more, others⟩⟩
    rw [position]
    simp only [List.append_assoc]

end Tiles

/-- The text from the first character of the token on. -/
def remaining (text : String) (token : Token) : List Char :=
  text.toList.drop token.place.position

/-- A token is the end of the text, or what stands at the front of the text that remains. -/
theorem leads_of_mem_scan {text : String} {token : Token} (inside : token ∈ scan text) :
    (token.kind = .endOfInput ∧ token.remaining text = []) ∨
      ∃ lexeme, Lexeme.Leads (token.remaining text) token.kind lexeme ∧
        (∀ c ∈ lexeme, isBlank c = false) ∧
        (token.kind ≠ .unknown → token.text = String.ofList lexeme) := by
  obtain ⟨before, stands⟩ := standsAfter_of_scan inside
  have place : token.place.position = before.length := by rw [stands.place]; rfl
  rw [remaining, place]
  cases stands with
  | finish shape => exact Or.inl ⟨rfl, by simp [shape]⟩
  | lexeme c rest shape solid =>
    right
    rw [shape, List.drop_left, kind_ofLexeme]
    have leads := Lexeme.leads_read c rest
    exact ⟨_, leads, leads.solid solid, text_ofLexeme _ _ _⟩

/-- The place of a token is told by the characters before it. -/
theorem place_of_mem_scan {text : String} {token : Token} (inside : token ∈ scan text) :
    token.place = Place.following (text.toList.take token.place.position) := by
  obtain ⟨before, stands⟩ := standsAfter_of_scan inside
  have front : text.toList.take before.length = before := by
    cases stands with
    | lexeme c rest shape solid => rw [shape, List.take_left]
    | finish shape => rw [shape, List.take_length]
  have position : token.place.position = before.length := by rw [stands.place]; rfl
  rw [position, front]
  exact stands.place

end Token

/-- Where a scan is: the place of the next character, how many characters from there on belong to a
lexeme already found, and the characters. -/
structure Cursor where
  place : Place
  pending : Nat
  rest : List Char

namespace Cursor

open Token (ofLexeme scanFrom)

def start (text : String) : Cursor := ⟨Place.start, 0, text.toList⟩

/-- The tokens that are made before the cursor moves. -/
def made : Cursor → List Token
  | ⟨place, _, []⟩ => [⟨.endOfInput, "", place⟩]
  | ⟨_, _ + 1, _ :: _⟩ => []
  | ⟨place, 0, c :: cs⟩ =>
    if isBlank c then [] else [ofLexeme (Lexeme.read c cs).1 (Lexeme.read c cs).2 place]

/-- The cursor moves by one character, unless the text ends. -/
def next? : Cursor → Option Cursor
  | ⟨_, _, []⟩ => none
  | ⟨place, pending + 1, c :: cs⟩ => some ⟨place.after c, pending, cs⟩
  | ⟨place, 0, c :: cs⟩ =>
    if isBlank c then some ⟨place.after c, 0, cs⟩
    else some ⟨place.after c, (Lexeme.read c cs).2.length - 1, cs⟩

def tokens (cursor : Cursor) : List Token := scanFrom cursor.place cursor.pending cursor.rest

/-- A scan is what its cursor makes on its way. -/
theorem tokens_eq (cursor : Cursor) :
    cursor.tokens = cursor.made ++ (cursor.next?.map tokens).getD [] := by
  obtain ⟨place, pending, rest⟩ := cursor
  cases rest with
  | nil => simp [tokens, made, next?]
  | cons c cs =>
    cases pending with
    | succ pending => rfl
    | zero =>
      cases blank : isBlank c with
      | true => simp [tokens, made, next?, blank, Token.scanFrom_blank]
      | false => simp [tokens, made, next?, blank, Token.scanFrom_lexeme]

/-- A step passes the next character; a lexeme that starts there is all there. -/
theorem steps {cursor next : Cursor} (moves : cursor.next? = some next) :
    ∃ c, cursor.rest = c :: next.rest ∧ next.place = cursor.place.after c ∧
      (cursor.pending ≤ cursor.rest.length → next.pending ≤ next.rest.length) := by
  obtain ⟨place, pending, rest⟩ := cursor
  cases rest with
  | nil => cases moves
  | cons c cs =>
    cases pending with
    | succ pending =>
      cases moves
      exact ⟨c, rfl, rfl, Nat.le_of_succ_le_succ⟩
    | zero =>
      rw [next?] at moves
      split at moves
      · cases moves
        exact ⟨c, rfl, rfl, fun _ => Nat.zero_le _⟩
      · cases moves
        have fits := (Lexeme.read_isPrefix c cs).length_le
        exact ⟨c, rfl, rfl, fun _ => Nat.sub_le_of_le_add fits⟩

/-- The cursors that the scan of a text goes through. -/
inductive Reached (text : String) : Cursor → Prop where
  | start : Reached text (start text)
  | next {cursor next : Cursor} (reached : Reached text cursor)
      (moves : cursor.next? = some next) : Reached text next

/-- The cursor stands in the text, at its place, and the pending characters are all there. -/
structure Within (text : List Char) (cursor : Cursor) : Prop where
  stands : ∃ before, text = before ++ cursor.rest ∧ cursor.place = Place.following before
  room : cursor.pending ≤ cursor.rest.length

theorem Within.next {text : List Char} {cursor next : Cursor} (within : Within text cursor)
    (moves : cursor.next? = some next) : Within text next := by
  obtain ⟨⟨before, shape, following⟩, room⟩ := within
  obtain ⟨c, rest, place, fits⟩ := steps moves
  refine ⟨⟨before ++ [c], ?_, ?_⟩, fits room⟩
  · rw [shape, rest, List.append_cons]
  · rw [place, following, Place.after_following]

theorem Reached.within {text : String} {cursor : Cursor} (reached : Reached text cursor) :
    Within text.toList cursor := by
  induction reached with
  | start => exact ⟨⟨[], rfl, rfl⟩, Nat.zero_le _⟩
  | next _ moves ih => exact ih.next moves

theorem next?_eq_none_iff (cursor : Cursor) : cursor.next? = none ↔ cursor.rest = [] := by
  obtain ⟨place, pending, rest⟩ := cursor
  cases rest with
  | nil => simp [next?]
  | cons c cs =>
    cases pending with
    | succ pending => simp [next?]
    | zero =>
      rw [next?]
      split <;> simp

end Cursor

/-- The lexemes of the tokens and the blanks before them are the text; only the last token is the
end, and stands at the text's. Tokens stand one after another, each in the line and the column that
the characters before it give; an unknown one where no lexeme begins. The cursor of the scan passes
one character after another up to the end, and the whole lexeme that it is in is in the text. -/
theorem tokens_of_scan (text : String) :
    Token.Tiles [] text.toList (Token.scan text) ∧
    (∃ front last, Token.scan text = front ++ [last] ∧ last.kind = .endOfInput ∧
      last.place.position = text.length ∧ ∀ token ∈ front, token.kind ≠ .endOfInput) ∧
    (Token.scan text).Pairwise
      (fun first second => first.place.position < second.place.position) ∧
    (∀ token ∈ Token.scan text,
      token.place.line = lineAfter (text.toList.take token.place.position) ∧
      token.place.column = columnAfter (text.toList.take token.place.position) ∧
      (token.kind = .unknown → ∃ c rest, token.remaining text = c :: rest ∧ isBlank c = false ∧
        ∀ kind piece, Lexeme.Belongs kind piece → ¬piece <+: c :: rest)) ∧
    ∀ cursor, Cursor.Reached text cursor →
      cursor.rest = text.toList.drop cursor.place.position ∧
      cursor.place.position + cursor.pending ≤ text.length ∧
      cursor.tokens = cursor.made ++ (cursor.next?.map Cursor.tokens).getD [] ∧
      (∀ next, cursor.next? = some next →
        next.place.position = cursor.place.position + 1) ∧
      (cursor.next? = none ↔ cursor.place.position = text.length) := by
  have tiles := Token.tiles_scan text
  refine ⟨tiles, tiles.finishes, tiles.ordered, fun token inside => ?_, fun cursor reached => ?_⟩
  · have place := Token.place_of_mem_scan inside
    refine ⟨congrArg Place.line place, congrArg Place.column place, fun kind => ?_⟩
    rcases Token.leads_of_mem_scan inside with ⟨ends, -⟩ | ⟨lexeme, leads, solid, -⟩
    · rw [kind] at ends
      cases ends
    · rw [kind] at leads
      cases leads with
      | lexeme _ _ belongs _ _ => exact absurd rfl belongs.known.1
      | unknown c rest shape none =>
        exact ⟨c, rest, shape, solid c List.mem_cons_self, shape ▸ none⟩
  · obtain ⟨⟨before, shape, place⟩, room⟩ := reached.within
    have position : cursor.place.position = before.length := by rw [place]; rfl
    have length : text.length = before.length + cursor.rest.length := by
      rw [← String.length_toList, shape, List.length_append]
    refine ⟨by rw [position, shape, List.drop_left], by omega, cursor.tokens_eq, ?_, ?_⟩
    · intro next moves
      obtain ⟨c, -, after, -⟩ := Cursor.steps moves
      rw [after, Place.position_after]
    · rw [cursor.next?_eq_none_iff, ← List.length_eq_zero_iff]
      omega

/-- A character with which no lexeme begins, on the second line; the cursor comes to it over the end
of the first. -/
theorem tokens_of_scan_second_line :
    let text := "a\n $"
    let stop : Token := ⟨.unknown, "Unexpected character '$'", ⟨3, 2, 2⟩⟩
    let lineEnd : Cursor := ⟨⟨1, 1, 2⟩, 0, ['\n', ' ', '$']⟩
    let next : Cursor := ⟨⟨2, 2, 1⟩, 0, [' ', '$']⟩
    (stop ∈ Token.scan text ∧ lineAfter ['a', '\n', ' '] = 2 ∧ columnAfter ['a', '\n', ' '] = 2 ∧
      ∀ kind piece, Lexeme.Belongs kind piece → ¬piece <+: ['$']) ∧
    Cursor.Reached text lineEnd ∧ lineEnd.rest = text.toList.drop 1 ∧
    lineEnd.next? = some next ∧ next.place.position = lineEnd.place.position + 1 := by
  intro text stop lineEnd next
  have scanned : Token.scan "a\n $" =
      [⟨.identifier, "a", ⟨0, 1, 1⟩⟩, stop, ⟨.endOfInput, "", ⟨4, 2, 3⟩⟩] := by decide
  have inside : stop ∈ Token.scan "a\n $" := by
    rw [scanned]
    exact List.mem_cons_of_mem _ List.mem_cons_self
  have reached : Cursor.Reached "a\n $" lineEnd := .next .start rfl
  have moves : lineEnd.next? = some next := rfl
  obtain ⟨-, -, -, each, cursors⟩ := tokens_of_scan "a\n $"
  obtain ⟨line, column, unknown⟩ := each stop inside
  obtain ⟨c, rest, shape, -, none⟩ := unknown rfl
  obtain ⟨remains, -, -, steps, -⟩ := cursors lineEnd reached
  have only : stop.remaining "a\n $" = ['$'] := by decide
  rw [← shape, only] at none
  exact ⟨⟨inside, line.symm, column.symm, none⟩, reached, remains, moves, steps next moves⟩

end Dimensional.Formula
