import Dimensional.Formula.Token

/-!
Where tokens stand. The place of a token is told by the characters before it: how many they are, how
many of them are line feeds, and how many come after the last of these.
-/

set_option autoImplicit false

namespace Dimensional.Formula

/-- The line on which the next character stands. -/
def lineAfter (before : List Char) : Nat := before.count '\n' + 1

/-- The column in which the next character stands. -/
def columnAfter (before : List Char) : Nat := (before.reverse.takeWhile (· != '\n')).length + 1

/-- The place of the next character. -/
def Place.following (before : List Char) : Place :=
  ⟨before.length, lineAfter before, columnAfter before⟩

theorem Place.after_following (before : List Char) (c : Char) :
    (following before).after c = following (before ++ [c]) := by
  by_cases feed : c = '\n'
  · subst feed
    simp [after, following, lineAfter, columnAfter]
  · have other : (c != '\n') = true := by simpa using feed
    simp [after, following, lineAfter, columnAfter, feed, other]

namespace Token

/-- The token stands in a text after the characters `before`: the next character is the first of its
lexeme, or the text ends there. -/
inductive StandsAfter (cs before : List Char) : Token → Prop where
  | lexeme (c : Char) (rest : List Char) (shape : cs = before ++ c :: rest)
      (solid : isBlank c = false) :
      StandsAfter cs before
        (ofLexeme (Lexeme.read c rest).1 (Lexeme.read c rest).2 (Place.following before))
  | finish (shape : cs = before) : StandsAfter cs before ⟨.endOfInput, "", Place.following before⟩

theorem StandsAfter.place {cs before : List Char} {token : Token}
    (stands : token.StandsAfter cs before) : token.place = Place.following before := by
  cases stands with
  | lexeme c rest shape solid => cases (Lexeme.read c rest).1 <;> rfl
  | finish shape => rfl

/-- The scan keeps the place of the next character. -/
theorem standsAfter_of_scanFrom {text : List Char} (place : Place) (pending : Nat)
    (cs : List Char) :
    ∀ before, place = Place.following before → text = before ++ cs →
      ∀ token ∈ scanFrom place pending cs, ∃ front, token.StandsAfter text front := by
  fun_induction scanFrom place pending cs with
  | case1 place pending =>
    rintro before rfl shape token inside
    rw [List.append_nil] at shape
    rw [List.mem_singleton.1 inside]
    exact ⟨before, .finish shape⟩
  | case2 place pending c cs ih =>
    rintro before rfl shape
    exact ih (before ++ [c]) (Place.after_following before c) (by rw [shape, List.append_cons])
  | case3 place c cs blank ih =>
    rintro before rfl shape
    exact ih (before ++ [c]) (Place.after_following before c) (by rw [shape, List.append_cons])
  | case4 place c cs solid kind lexeme read ih =>
    rintro before rfl shape token inside
    rcases List.mem_cons.1 inside with rfl | later
    · have stands : StandsAfter text before _ := .lexeme c cs shape (by simpa using solid)
      rw [read] at stands
      exact ⟨before, stands⟩
    · exact ih (before ++ [c]) (Place.after_following before c) (by rw [shape, List.append_cons])
        token later

theorem standsAfter_of_scan {text : String} {token : Token} (inside : token ∈ scan text) :
    ∃ before, token.StandsAfter text.toList before :=
  standsAfter_of_scanFrom Place.start 0 text.toList [] rfl rfl token inside

end Token

end Dimensional.Formula
