import Dimensional.Proofs.Rendering

/-!
Rendering and reading back. A tree that can be written is read back from its text as long as its
operations nest no deeper than the reader allows, and refused beyond that. A tree with an invalid
node has a text that no expression has: it holds a character with which no lexeme starts.
-/

set_option autoImplicit false

namespace Dimensional.Formula

namespace Lexeme

/-- The character that opens an invalid node is in no lexeme. -/
theorem Belongs.not_mem {kind : TokenKind} {cs : List Char} (belongs : Belongs kind cs) :
    '<' ∉ cs := by
  intro inside
  cases belongs with
  | symbol _ c symbol =>
    cases List.mem_singleton.1 inside
    cases symbol
  | identifier _ name => exact absurd (isIdentifierPart_of_mem name _ inside) (by decide)
  | number _ number => exact absurd (number.isDecimalPart _ inside) (by decide)

end Lexeme

namespace Token

/-- The character that opens an invalid node is found wherever it stands. -/
theorem exists_unknown_of_scanFrom (place : Place) (pending : Nat) (cs : List Char)
    (inside : '<' ∈ cs.drop pending) :
    ∃ token ∈ scanFrom place pending cs, token.kind = .unknown := by
  fun_induction scanFrom place pending cs with
  | case1 place pending => simp at inside
  | case2 place pending c cs ih => exact ih inside
  | case3 place c cs blank ih =>
    apply ih
    have apart : '<' ≠ c := by
      rintro rfl
      exact absurd blank (by decide)
    simpa [apart] using inside
  | case4 place c cs solid kind lexeme read ih =>
    by_cases known : kind = .unknown
    · exact ⟨_, List.mem_cons_self, by simpa using known⟩
    · have later : '<' ∈ cs.drop (lexeme.length - 1) := by
        have absent : '<' ∉ (Lexeme.read c cs).2 := (Lexeme.belongs_read (by rwa [read])).not_mem
        obtain ⟨tail, shape⟩ := Lexeme.read_isPrefix c cs
        rw [read] at absent shape
        have remains : '<' ∈ tail :=
          (List.mem_append.1 (shape ▸ inside)).resolve_left absent
        cases lexeme with
        | nil =>
          have apart : '<' ≠ c := by
            rintro rfl
            exact known (congrArg Prod.fst read).symm
          simpa [apart] using inside
        | cons first more =>
          rw [← (List.cons.inj shape).2]
          simpa using remains
      obtain ⟨token, found, unknown⟩ := ih later
      exact ⟨token, List.mem_cons_of_mem _ found, unknown⟩

end Token

/-- A text with that character is not a formula. -/
theorem parse_error_of_mem {text : String} (inside : '<' ∈ text.toList) :
    ∃ error, Expr.parse text = .error error := by
  obtain ⟨token, found, unknown⟩ :=
    Token.exists_unknown_of_scanFrom Place.start 0 text.toList inside
  cases parsed : Expr.parse text with
  | error error => exact ⟨error, rfl⟩
  | ok tree =>
    obtain ⟨nesting, derived, -⟩ := derives_of_parse parsed
    obtain ⟨last, scanned, ends, -⟩ := Token.scan_eq_sentence text
    have either : token ∈ Token.sentence text ++ [last] := scanned ▸ found
    rcases List.mem_append.1 either with before | after
    · exact absurd unknown (derived.kinds token before).2
    · rw [List.mem_singleton.1 after, ends] at unknown
      cases unknown

namespace Expr

theorem mem_render_of_hasInvalid {tree : Expr Float} (invalid : tree.HasInvalid) :
    '<' ∈ tree.render.toList := by
  induction tree with
  | number value => exact invalid.elim
  | identifier name => exact invalid.elim
  | negate operand ih => simp [render, ih invalid]
  | binary left operator right ihLeft ihRight =>
    rcases invalid with inLeft | inRight
    · simp [render, ihLeft inLeft]
    · simp [render, ihRight inRight]
  | invalid text => simp [render]

theorem depth_le_cost {α : Type} (tree : Expr α) : tree.depth ≤ tree.cost + 1 := by
  induction tree with
  | negate operand ih =>
    simp only [depth, cost]
    omega
  | binary left operator right ihLeft ihRight =>
    simp only [depth, cost]
    omega
  | _ => exact Nat.le_refl 1

theorem operationsWithin_of_depth {α : Type} {limit : Nat} {tree : Expr α}
    (low : tree.depth ≤ limit) : tree.OperationsWithin limit := by
  induction tree with
  | negate operand ih =>
    simp only [depth] at low
    exact ih (by omega)
  | binary left operator right ihLeft ihRight =>
    refine ⟨low, ihLeft ?_, ihRight ?_⟩ <;>
    · simp only [depth] at low
      omega
  | _ => trivial

/-- The tokens of a rendered tree are an expression with the tree, as deep as its cost. -/
theorem derives_render {tree : Expr Float} (writable : tree.Writable) :
    Derives (.chain .additive) (Token.sentence tree.render) tree tree.cost :=
  (scans_render tree writable).sum.sentence

/-- A tree that can be written is read back from its text when its cost is within the limit of the
reader, and refused otherwise; the text of a tree with an invalid node is always refused. -/
theorem parse_render (tree : Expr Float) :
    (tree.Writable →
      (tree.cost ≤ 199 → parse tree.render = .ok tree) ∧
      (199 < tree.cost → ∃ error, parse tree.render = .error error)) ∧
    (tree.HasInvalid → ∃ error, parse tree.render = .error error) := by
  refine ⟨fun writable => ⟨?_, ?_⟩, fun invalid =>
    parse_error_of_mem (mem_render_of_hasInvalid invalid)⟩
  · intro shallow
    have low := depth_le_cost tree
    exact parse_of_derives (derives_render writable) shallow
      (operationsWithin_of_depth (by simp only [heightLimit]; omega))
  · intro deep
    cases parsed : parse tree.render with
    | error error => exact ⟨error, rfl⟩
    | ok other =>
      obtain ⟨nesting, derived, shallow, -⟩ := derives_of_parse parsed
      have ends : (Phrase.chain .additive).EndsAt [] := by rintro token tokens ⟨⟩
      have same := ((derives_render writable).unique derived ends ends rfl).2.2
      simp only [nestingLimit] at shallow
      omega

/-- A number before a power, and names under as many minus signs as can be read, and one more. -/
theorem parse_render_at_the_limit :
    let root : Expr Float := .binary (.number 2.5) .power (.number 0.5)
    let negations := fun count : Nat =>
      Nat.repeat Expr.negate count (.identifier "x_1" : Expr Float)
    parse root.render = .ok root ∧
      parse (negations 99).render = .ok (negations 99) ∧
      (∃ error, parse (negations 100).render = .error error) ∧
      ∃ error, parse (Expr.negate (.invalid "x")).render = .error error := by
  intro root negations
  have numbers : root.Writable :=
    ⟨⟨by decide +kernel, by decide +kernel⟩, ⟨by decide +kernel, by decide +kernel⟩⟩
  have writable : ∀ count, (negations count).Writable := by
    intro count
    induction count with
    | zero =>
      have digit : '1'.isAlphanum = true := by decide
      exact ⟨'x', ['_', '1'], rfl, Or.inl (by decide), by simp [digit]⟩
    | succ count ih => exact ih
  exact ⟨((parse_render root).1 numbers).1 (by decide),
    ((parse_render (negations 99)).1 (writable 99)).1 (by decide),
    ((parse_render (negations 100)).1 (writable 100)).2 (by decide),
    (parse_render _).2 trivial⟩

end Expr

end Dimensional.Formula
