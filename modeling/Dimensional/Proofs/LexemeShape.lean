import Dimensional.Proofs.Sentence

/-!
What lexemes look like: symbols, names and numbers. The first character of each decides which it is,
and none has a blank in it.
-/

set_option autoImplicit false

namespace Dimensional.Formula

/-- Letters, digits and underscores, with no digit in front. -/
def IsName (name : List Char) : Prop :=
  ∃ first rest, name = first :: rest ∧ (first.isAlpha = true ∨ first = '_') ∧
    ∀ c ∈ rest, c.isAlphanum = true ∨ c = '_'

/-- A property of ASCII characters is checked one by one. -/
theorem ascii_forall (property : Char → Prop)
    (each : ∀ code < 128, property (Char.ofNat code)) (c : Char) (ascii : c.toNat < 128) :
    property c := by
  have checked := each c.toNat ascii
  rwa [Char.ofNat_toNat] at checked

/-- No lexeme but a number starts with a digit. -/
theorem kinds_of_isDigit {c : Char} (digit : Number.isDigit c = true) :
    symbolKind? c = none ∧ isIdentifierStart c = false ∧ isBlank c = false := by
  have ascii : c.toNat < 128 := by
    have below : c.toNat ≤ '9'.toNat := (of_decide_eq_true digit).2
    exact Nat.lt_of_le_of_lt below (by decide)
  exact ascii_forall (fun c => Number.isDigit c = true →
    symbolKind? c = none ∧ isIdentifierStart c = false ∧ isBlank c = false)
    (by decide +kernel) c ascii digit

/-- No lexeme but a name starts as names do. -/
theorem kinds_of_isName {c : Char} (first : c.isAlpha = true ∨ c = '_') :
    symbolKind? c = none ∧ isIdentifierStart c = true ∧ isBlank c = false := by
  have ascii : c.toNat < 128 := by
    rcases first with letter | rfl
    · unfold Char.isAlpha Char.isUpper Char.isLower at letter
      simp only [Bool.or_eq_true, Bool.and_eq_true, decide_eq_true_eq, ge_iff_le,
        UInt32.le_iff_toNat_le] at letter
      change (65 ≤ c.toNat ∧ c.toNat ≤ 90) ∨ (97 ≤ c.toNat ∧ c.toNat ≤ 122) at letter
      omega
    · decide
  exact ascii_forall (fun c => c.isAlpha = true ∨ c = '_' →
    symbolKind? c = none ∧ isIdentifierStart c = true ∧ isBlank c = false)
    (by decide +kernel) c ascii first

namespace Lexeme

open Number (isDigit)

theorem isIdentifierPart_of_isName {c : Char} (later : c.isAlphanum = true ∨ c = '_') :
    isIdentifierPart c = true := by
  rcases later with letter | rfl
  · simp only [Char.isAlphanum, Bool.or_eq_true] at letter
    rcases letter with alpha | digit
    · simp [isIdentifierPart, alpha]
    · have same : Number.isDigit c = true := by
        simpa [Char.isDigit, Number.isDigit, Char.le_def] using digit
      simp [isIdentifierPart, same]
  · decide

theorem isIdentifierPart_iff (c : Char) :
    isIdentifierPart c = true ↔ c.isAlphanum = true ∨ c = '_' := by
  refine ⟨fun part => ?_, isIdentifierPart_of_isName⟩
  simp only [isIdentifierPart, Bool.or_eq_true, beq_iff_eq] at part
  simp only [Char.isAlphanum, Bool.or_eq_true]
  rcases part with (letter | digit) | underscore
  · exact Or.inl (Or.inl letter)
  · exact Or.inl (Or.inr (by simpa [Char.isDigit, isDigit, Char.le_def] using digit))
  · exact Or.inr underscore

theorem isIdentifierPart_of_mem {cs : List Char} (name : IsName cs) :
    ∀ c ∈ cs, isIdentifierPart c = true := by
  obtain ⟨first, later, rfl, start, parts⟩ := name
  intro c inside
  rw [isIdentifierPart_iff]
  rcases List.mem_cons.1 inside with rfl | after
  · exact start.imp_left fun letter => by simp [Char.isAlphanum, letter]
  · exact parts c after

theorem isBlank_of_symbolKind? {c : Char} {kind : TokenKind} (symbol : symbolKind? c = some kind) :
    isBlank c = false ∧ kind ≠ .unknown := by
  unfold symbolKind? at symbol
  split at symbol <;> cases symbol <;> decide

/-- What lexemes look like: a symbol, a name or a number. None is unknown, and none is an end. -/
inductive Belongs : TokenKind → List Char → Prop where
  | symbol (kind : TokenKind) (c : Char) (symbol : symbolKind? c = some kind) : Belongs kind [c]
  | identifier (cs : List Char) (name : IsName cs) : Belongs .identifier cs
  | number (cs : List Char) (number : IsNumber cs) : Belongs .number cs

theorem Belongs.isNumber {cs : List Char} (belongs : Belongs .number cs) : IsNumber cs := by
  cases belongs with
  | symbol _ c symbol => exact absurd rfl (Token.symbolKind?_operator c .number symbol).2
  | number _ number => exact number

theorem symbolKind?_ne_identifier (c : Char) : symbolKind? c ≠ some .identifier := by
  unfold symbolKind?
  split <;> nofun

theorem Belongs.isName {cs : List Char} (belongs : Belongs .identifier cs) : IsName cs := by
  cases belongs with
  | symbol _ c symbol => exact absurd symbol (symbolKind?_ne_identifier c)
  | identifier _ name => exact name

theorem Belongs.ne_nil {kind : TokenKind} {cs : List Char} (belongs : Belongs kind cs) :
    cs ≠ [] := by
  cases belongs with
  | symbol => exact List.cons_ne_nil _ _
  | identifier _ name =>
    obtain ⟨first, rest, rfl, -⟩ := name
    exact List.cons_ne_nil _ _
  | number _ number =>
    obtain ⟨base, power, decimal, -, rfl⟩ := number
    obtain ⟨c, rest, rfl, -⟩ := isDecimal_head decimal
    exact List.cons_ne_nil _ _

theorem Belongs.known {kind : TokenKind} {cs : List Char} (belongs : Belongs kind cs) :
    kind ≠ .unknown ∧ kind ≠ .endOfInput := by
  cases belongs with
  | symbol _ c symbol =>
    exact ⟨(isBlank_of_symbolKind? symbol).2, (Token.symbolKind?_operator c kind symbol).1⟩
  | identifier => exact ⟨nofun, nofun⟩
  | number => exact ⟨nofun, nofun⟩

theorem isBlank_of_isIdentifierPart {c : Char} (part : isIdentifierPart c = true) :
    isBlank c = false := by
  simp only [isIdentifierPart, Bool.or_eq_true, beq_iff_eq] at part
  rcases part with (letter | digit) | underscore
  · exact (kinds_of_isName (Or.inl letter)).2.2
  · exact (kinds_of_isDigit digit).2.2
  · exact (kinds_of_isName (Or.inr underscore)).2.2

theorem isBlank_of_isDecimalPart {c : Char} (part : isDecimalPart c = true) :
    isBlank c = false := by
  simp only [isDecimalPart, isExponentMark, Bool.or_eq_true, beq_iff_eq] at part
  rcases part with (((digit | rfl) | rfl) | rfl) | (rfl | rfl)
  · exact (kinds_of_isDigit digit).2.2
  all_goals decide

/-- No lexeme has a blank in it. -/
theorem Belongs.solid {kind : TokenKind} {cs : List Char} (belongs : Belongs kind cs) :
    ∀ c ∈ cs, isBlank c = false := by
  intro c inside
  cases belongs with
  | symbol _ first symbol =>
    rw [List.mem_singleton.1 inside]
    exact (isBlank_of_symbolKind? symbol).1
  | identifier _ name => exact isBlank_of_isIdentifierPart (isIdentifierPart_of_mem name c inside)
  | number _ number =>
    rcases number.isDecimalPart c inside with mark | part
    · rw [isPowerMark, beq_iff_eq] at mark
      rw [mark]
      decide
    · exact isBlank_of_isDecimalPart part

end Lexeme

end Dimensional.Formula
