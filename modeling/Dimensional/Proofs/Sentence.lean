import Dimensional.Proofs.Literal

/-!
The tokens of a text before the end of the input. The end of the input closes every scan and occurs
nowhere else; the text of a number token is a number literal.
-/

set_option autoImplicit false

namespace Dimensional.Formula.Token

/-- The tokens of a text before the end of the input. -/
def sentence (text : String) : List Token :=
  (scan text).takeWhile fun token => token.kind != .endOfInput

/-- What the scanner makes of a lexeme. -/
def Lexical (token : Token) : Prop :=
  token.kind ≠ .endOfInput ∧ (token.kind = .number → Lexeme.IsNumber token.text.toList)

@[simp] theorem kind_ofLexeme (kind : TokenKind) (lexeme : List Char) (place : Place) :
    (ofLexeme kind lexeme place).kind = kind := by
  cases kind <;> rfl

theorem text_ofLexeme (kind : TokenKind) (lexeme : List Char) (place : Place)
    (known : kind ≠ .unknown) : (ofLexeme kind lexeme place).text = String.ofList lexeme := by
  unfold ofLexeme
  split
  · exact absurd rfl known
  · rfl

theorem symbolKind?_operator (c : Char) (kind : TokenKind) (symbol : symbolKind? c = some kind) :
    kind ≠ .endOfInput ∧ kind ≠ .number := by
  unfold symbolKind? at symbol
  split at symbol <;> cases symbol <;> exact ⟨by decide, by decide⟩

theorem lexical_ofLexeme (c : Char) (rest : List Char) (place : Place) :
    Lexical (ofLexeme (Lexeme.read c rest).1 (Lexeme.read c rest).2 place) := by
  unfold Lexeme.read
  split
  · next kind symbol =>
    obtain ⟨notEnd, notNumber⟩ := symbolKind?_operator c kind symbol
    exact ⟨by simpa using notEnd, fun number => absurd (by simpa using number) notNumber⟩
  · split
    · exact ⟨by simp, by simp⟩
    · split
      · next starts =>
        refine ⟨by simp, fun _ => ?_⟩
        rw [text_ofLexeme _ _ _ (by simp), String.toList_ofList]
        exact Lexeme.isNumber_number c rest starts
      · exact ⟨by simp, by simp⟩

/-- Each step of a scan either drops a character or makes one lexical token. -/
theorem scanFrom_shape (place : Place) (pending : Nat) (cs : List Char) :
    ∃ front last, scanFrom place pending cs = front ++ [last] ∧ last.kind = .endOfInput ∧
      ∀ token ∈ front, Lexical token := by
  fun_induction scanFrom place pending cs with
  | case1 place pending => exact ⟨[], _, rfl, rfl, by simp⟩
  | case2 place pending c cs ih => exact ih
  | case3 place c cs blank ih => exact ih
  | case4 place c cs solid kind lexeme read ih =>
    obtain ⟨front, last, shape, ends, lexical⟩ := ih
    refine ⟨ofLexeme kind lexeme place :: front, last, by rw [shape]; rfl, ends, ?_⟩
    intro token inside
    rcases List.mem_cons.1 inside with rfl | later
    · have made := lexical_ofLexeme c cs place
      rwa [read] at made
    · exact lexical token later

/-- A scan is the sentence and the end of the input. -/
theorem scan_eq_sentence (text : String) :
    ∃ last, scan text = sentence text ++ [last] ∧ last.kind = .endOfInput ∧
      ∀ token ∈ sentence text, Lexical token := by
  obtain ⟨front, last, shape, ends, lexical⟩ := scanFrom_shape Place.start 0 text.toList
  have before : ∀ token ∈ front, (token.kind != .endOfInput) = true := by
    intro token inside
    simpa using (lexical token inside).1
  have whole : sentence text = front := by
    rw [sentence, scan, shape, List.takeWhile_append_of_pos before]
    simp [ends]
  exact ⟨last, by rw [scan, shape, whole], ends, by rwa [whole]⟩

end Dimensional.Formula.Token
