import Dimensional.Formula.Parse

/-!
Number literals as a language: digits with an optional fraction or a fraction alone, an optional
exponent, an optional power. The lexeme of a number token is in it, and every member has a value.
-/

set_option autoImplicit false

namespace Dimensional.Formula.Lexeme

open Number (isDigit)

/-- One digit or more. -/
def IsRun (cs : List Char) : Prop := cs ≠ [] ∧ ∀ c ∈ cs, isDigit c = true

def IsSign (cs : List Char) : Prop := cs = [] ∨ cs = ['+'] ∨ cs = ['-']

/-- Nothing, or a point with digits after it. -/
def IsFraction (cs : List Char) : Prop := cs = [] ∨ ∃ run, IsRun run ∧ cs = '.' :: run

/-- Nothing, or a mark with an optional sign and digits after it. -/
def IsSuffix (isMark : Char → Bool) (cs : List Char) : Prop :=
  cs = [] ∨ ∃ mark sgn run, isMark mark = true ∧ IsSign sgn ∧ IsRun run ∧
    cs = mark :: (sgn ++ run)

def isExponentMark (c : Char) : Bool := c == 'e' || c == 'E'

def isPowerMark (c : Char) : Bool := c == '^'

/-- An unsigned decimal without a power. -/
inductive IsDecimal : List Char → Prop where
  | parts (whole point scale : List Char) (digits : ∀ c ∈ whole, isDigit c = true)
      (fraction : IsFraction point) (visible : whole ≠ [] ∨ point ≠ [])
      (exponent : IsSuffix isExponentMark scale) : IsDecimal (whole ++ (point ++ scale))

/-- A decimal with an optional power. -/
def IsNumber (cs : List Char) : Prop :=
  ∃ base power, IsDecimal base ∧ IsSuffix isPowerMark power ∧ cs = base ++ power

theorem isDigit_of_mem_digits {cs : List Char} {c : Char} (inside : c ∈ digits cs) :
    isDigit c = true := by
  have all := List.all_takeWhile (p := isDigit) (l := cs)
  exact List.all_eq_true.1 all c inside

theorem isRun_digits {cs : List Char} (some : digits cs ≠ []) : IsRun (digits cs) :=
  ⟨some, fun _ inside => isDigit_of_mem_digits inside⟩

theorem isSign_sign (cs : List Char) : IsSign (sign cs) := by
  unfold sign
  split
  · exact Or.inr (Or.inl rfl)
  · exact Or.inr (Or.inr rfl)
  · exact Or.inl rfl

theorem isFraction_fraction (cs : List Char) : IsFraction (fraction cs) := by
  unfold fraction
  split
  · next rest =>
    by_cases absent : digits rest = []
    · exact Or.inl (by simp [absent])
    · exact Or.inr ⟨digits rest, isRun_digits absent, by simp [absent]⟩
  · exact Or.inl rfl

theorem isSuffix_suffix (isMark : Char → Bool) (cs : List Char) :
    IsSuffix isMark (suffix isMark cs) := by
  cases cs with
  | nil => exact Or.inl rfl
  | cons c rest =>
    simp only [suffix]
    split
    · next complete =>
      simp only [Bool.and_eq_true, Bool.not_eq_true', List.isEmpty_eq_false_iff] at complete
      exact Or.inr ⟨c, sign rest, _, complete.1, isSign_sign rest, isRun_digits complete.2, rfl⟩
    · exact Or.inl rfl

theorem isSuffix_exponent (cs : List Char) : IsSuffix isExponentMark (exponent cs) :=
  isSuffix_suffix _ cs

theorem isSuffix_power (cs : List Char) : IsSuffix isPowerMark (power cs) :=
  isSuffix_suffix _ cs

/-- What the scanner takes for a number is a number. -/
theorem isNumber_number (c : Char) (rest : List Char) (starts : startsNumber c rest = true) :
    IsNumber (number (c :: rest)) := by
  let whole := digits (c :: rest)
  let point := fraction ((c :: rest).drop whole.length)
  have visible : whole ≠ [] ∨ point ≠ [] := by
    by_cases digit : isDigit c = true
    · exact Or.inl (by simp [whole, digits, digit])
    · simp only [startsNumber, digit, Bool.false_or, Bool.and_eq_true, beq_iff_eq,
        Bool.not_eq_true', List.isEmpty_eq_false_iff] at starts
      obtain ⟨rfl, present⟩ := starts
      exact Or.inr (by simpa [point, whole, digits, digit, fraction] using present)
  let after := ((c :: rest).drop whole.length).drop point.length
  have base : IsDecimal (whole ++ (point ++ exponent after)) :=
    .parts _ _ _ (fun _ => isDigit_of_mem_digits) (isFraction_fraction _) visible
      (isSuffix_exponent after)
  refine ⟨_, power (after.drop (exponent after).length), base, isSuffix_power _, ?_⟩
  simp only [number, List.append_assoc, whole, point, after]

/-- Digits stop at the end, or at a character that is not one. -/
def StopsDigits (cs : List Char) : Prop := ∀ c rest, cs = c :: rest → isDigit c = false

theorem stopsDigits_nil : StopsDigits [] := by
  rintro c rest ⟨⟩

theorem stopsDigits_point (cs : List Char) : StopsDigits ('.' :: cs) := by
  rintro c rest ⟨⟩
  decide

theorem takeWhile_digits {run tail : List Char} (all : ∀ c ∈ run, isDigit c = true)
    (stops : StopsDigits tail) :
    (run ++ tail).takeWhile isDigit = run ∧ (run ++ tail).dropWhile isDigit = tail := by
  rw [List.takeWhile_append_of_pos all, List.dropWhile_append_of_pos all]
  cases tail with
  | nil => simp
  | cons c rest => simp [stops c rest rfl]

theorem IsSuffix.stopsDigits {isMark : Char → Bool} {cs : List Char} (suffix : IsSuffix isMark cs)
    (marks : ∀ c, isMark c = true → isDigit c = false) : StopsDigits cs := by
  rintro c rest rfl
  rcases suffix with absent | ⟨mark, sgn, run, isMark, _, _, shape⟩
  · cases absent
  · obtain ⟨rfl, _⟩ := List.cons.inj shape
    exact marks c isMark

theorem isDigit_of_isExponentMark (c : Char) (mark : isExponentMark c = true) :
    isDigit c = false := by
  simp only [isExponentMark, Bool.or_eq_true, beq_iff_eq] at mark
  rcases mark with rfl | rfl <;> decide

/-- There is no sign where a digit or a point comes first. -/
theorem splitSign_unsigned {c : Char} (first : isDigit c = true ∨ c = '.') (rest : List Char) :
    Number.splitSign (c :: rest) = (false, c :: rest) := by
  have notMinus : c ≠ '-' := by rintro rfl; exact absurd first (by decide)
  have notPlus : c ≠ '+' := by rintro rfl; exact absurd first (by decide)
  rw [Number.splitSign]
  · exact fun _ equal => notMinus (List.cons.inj equal).1
  · exact fun _ equal => notPlus (List.cons.inj equal).1

theorem IsRun.splitSign {run : List Char} (digits : IsRun run) :
    Number.splitSign run = (false, run) := by
  obtain ⟨c, rest, rfl⟩ := List.exists_cons_of_ne_nil digits.1
  exact splitSign_unsigned (Or.inl (digits.2 c List.mem_cons_self)) rest

/-- The sign before a run of digits is read as such, and the run is what follows it. -/
theorem splitSign_run {sgn run : List Char} (signed : IsSign sgn) (digits : IsRun run) :
    (Number.splitSign (sgn ++ run)).2 = run := by
  rcases signed with rfl | rfl | rfl
  · rw [List.nil_append, digits.splitSign]
  · rfl
  · rfl

theorem readExponent?_isSome {cs : List Char} (exponent : IsSuffix isExponentMark cs) :
    (Number.readExponent? cs).isSome := by
  rcases exponent with rfl | ⟨mark, sgn, run, isMark, signed, digits, rfl⟩
  · rfl
  · have nonempty : run.isEmpty = false := by simpa using digits.1
    have all : run.all isDigit = true := List.all_eq_true.2 digits.2
    simp only [isExponentMark, Bool.or_eq_true, beq_iff_eq] at isMark
    simp [Number.readExponent?, isMark, splitSign_run signed digits, nonempty, all]

theorem readDecimal?_whole {cs : List Char} (some : cs.takeWhile isDigit ≠ [])
    (noPoint : ∀ rest, cs.dropWhile isDigit ≠ '.' :: rest)
    (readable : (Number.readExponent? (cs.dropWhile isDigit)).isSome) :
    (Number.readDecimal? cs).isSome := by
  unfold Number.readDecimal?
  dsimp only
  split
  · next rest after => exact absurd after (noPoint rest)
  · simpa [some] using readable

theorem readDecimal?_fraction {cs rest : List Char} (after : cs.dropWhile isDigit = '.' :: rest)
    (some : rest.takeWhile isDigit ≠ [])
    (readable : (Number.readExponent? (rest.dropWhile isDigit)).isSome) :
    (Number.readDecimal? cs).isSome := by
  unfold Number.readDecimal?
  simp only [after]
  simpa [some] using readable

/-- What a decimal has after its whole part is split into its fraction and its exponent. -/
theorem readDecimal?_isSome {cs : List Char} (decimal : IsDecimal cs) :
    (Number.readDecimal? cs).isSome := by
  obtain ⟨whole, point, scale, digits, fraction, visible, exponent⟩ := decimal
  have readable := readExponent?_isSome exponent
  have scaleStops := exponent.stopsDigits isDigit_of_isExponentMark
  rcases fraction with rfl | ⟨run, isRun, rfl⟩
  · obtain ⟨front, back⟩ := takeWhile_digits digits scaleStops
    have some : whole ≠ [] := visible.resolve_right (fun absent => absent rfl)
    rw [List.nil_append]
    apply readDecimal?_whole
    · rwa [front]
    · rw [back]
      rintro rest rfl
      rcases exponent with absent | ⟨mark, _, _, isMark, _, _, shape⟩
      · cases absent
      · obtain ⟨rfl, _⟩ := List.cons.inj shape
        exact absurd isMark (by decide)
    · rwa [back]
  · obtain ⟨_, back⟩ := takeWhile_digits digits (stopsDigits_point (run ++ scale))
    obtain ⟨frontRun, backRun⟩ := takeWhile_digits isRun.2 scaleStops
    apply readDecimal?_fraction back
    · rw [frontRun]
      exact isRun.1
    · rwa [backRun]

theorem readUnsigned?_isSome {cs : List Char} (decimal : IsDecimal cs) :
    (Number.readUnsigned? cs).isSome := by
  unfold Number.readUnsigned?
  dsimp only
  split
  · rfl
  · split
    · rfl
    · simpa using readDecimal?_isSome decimal

theorem IsRun.isDecimal {cs : List Char} (run : IsRun cs) : IsDecimal cs := by
  have decimal := IsDecimal.parts cs [] [] run.2 (Or.inl rfl) (Or.inl run.1) (Or.inl rfl)
  simpa only [List.append_nil] using decimal

theorem isDecimal_head {cs : List Char} (decimal : IsDecimal cs) :
    ∃ c rest, cs = c :: rest ∧ (isDigit c = true ∨ c = '.') := by
  obtain ⟨whole, point, scale, digits, fraction, visible, -⟩ := decimal
  cases whole with
  | cons c rest => exact ⟨c, _, rfl, Or.inl (digits c List.mem_cons_self)⟩
  | nil =>
    rcases fraction with rfl | ⟨run, _, rfl⟩
    · exact absurd rfl (visible.resolve_left (fun absent => absent rfl))
    · exact ⟨'.', _, rfl, Or.inr rfl⟩

theorem read?_isSome_of_isDecimal {cs : List Char} (decimal : IsDecimal cs) :
    (Number.read? cs).isSome := by
  obtain ⟨c, rest, rfl, first⟩ := isDecimal_head decimal
  simpa only [Number.read?, splitSign_unsigned first, Option.isSome_map] using
    readUnsigned?_isSome decimal

theorem read?_isSome_of_signed {sgn run : List Char} (signed : IsSign sgn) (digits : IsRun run) :
    (Number.read? (sgn ++ run)).isSome := by
  simpa only [Number.read?, splitSign_run signed digits, Option.isSome_map] using
    readUnsigned?_isSome digits.isDecimal

/-- A minus sign before digits negates what they are read as. -/
theorem read?_minus {run : List Char} (digits : IsRun run) :
    Number.read? ('-' :: run) = (Number.read? run).map fun magnitude => -magnitude := by
  have signed : Number.splitSign ('-' :: run) = (true, run) := rfl
  simp only [Number.read?, signed, digits.splitSign]
  cases Number.readUnsigned? run <;> rfl

/-- The characters of decimals. -/
def isDecimalPart (c : Char) : Bool :=
  isDigit c || c == '.' || c == '+' || c == '-' || isExponentMark c

theorem IsRun.isDecimalPart {cs : List Char} (run : IsRun cs) :
    ∀ c ∈ cs, isDecimalPart c = true := fun c inside => by
  simp [Lexeme.isDecimalPart, run.2 c inside]

theorem IsSign.isDecimalPart {cs : List Char} (signed : IsSign cs) :
    ∀ c ∈ cs, isDecimalPart c = true := by
  rcases signed with rfl | rfl | rfl
  · exact fun _ => nofun
  · exact List.forall_mem_singleton.2 (by decide)
  · exact List.forall_mem_singleton.2 (by decide)

theorem IsFraction.isDecimalPart {cs : List Char} (fraction : IsFraction cs) :
    ∀ c ∈ cs, isDecimalPart c = true := by
  rcases fraction with rfl | ⟨run, isRun, rfl⟩
  · simp
  · simpa [Lexeme.isDecimalPart] using isRun.isDecimalPart

/-- A mark brings only itself. -/
theorem IsSuffix.isDecimalPart {isMark : Char → Bool} {cs : List Char}
    (suffix : IsSuffix isMark cs) : ∀ c ∈ cs, isMark c = true ∨ isDecimalPart c = true := by
  rcases suffix with rfl | ⟨mark, sgn, run, marked, signed, isRun, rfl⟩
  · simp
  · intro c inside
    rcases List.mem_cons.1 inside with rfl | later
    · exact Or.inl marked
    · rcases List.mem_append.1 later with sign | digit
      · exact Or.inr (signed.isDecimalPart c sign)
      · exact Or.inr (isRun.isDecimalPart c digit)

theorem IsDecimal.isDecimalPart {cs : List Char} (decimal : IsDecimal cs) :
    ∀ c ∈ cs, isDecimalPart c = true := by
  obtain ⟨whole, point, scale, digits, fraction, -, exponent⟩ := decimal
  intro c inside
  simp only [List.mem_append] at inside
  rcases inside with front | middle | back
  · simp [Lexeme.isDecimalPart, digits c front]
  · exact fraction.isDecimalPart c middle
  · rcases exponent.isDecimalPart c back with mark | part
    · simp [Lexeme.isDecimalPart, mark]
    · exact part

theorem IsNumber.isDecimalPart {cs : List Char} (number : IsNumber cs) :
    ∀ c ∈ cs, isPowerMark c = true ∨ isDecimalPart c = true := by
  obtain ⟨base, power, decimal, powered, rfl⟩ := number
  intro c inside
  rcases List.mem_append.1 inside with front | back
  · exact Or.inr (decimal.isDecimalPart c front)
  · exact powered.isDecimalPart c back

theorem IsDecimal.noCaret {cs : List Char} (decimal : IsDecimal cs) : '^' ∉ cs := fun inside =>
  absurd (decimal.isDecimalPart _ inside) (by decide)

/-- The caret splits a number into its decimal and its power. -/
theorem split_caret {base power : List Char} (decimal : IsDecimal base)
    (suffix : IsSuffix isPowerMark power) :
    (base ++ power).takeWhile (· != '^') = base ∧ (base ++ power).dropWhile (· != '^') = power := by
  have before : ∀ c ∈ base, (c != '^') = true := by
    rintro c inside
    simpa using fun equal : c = '^' => decimal.noCaret (equal ▸ inside)
  rw [List.takeWhile_append_of_pos before, List.dropWhile_append_of_pos before]
  rcases suffix with rfl | ⟨mark, sgn, run, isMark, _, _, rfl⟩
  · simp
  · simp only [isPowerMark, beq_iff_eq] at isMark
    simp [isMark]

theorem IsDecimal.isNumber {cs : List Char} (decimal : IsDecimal cs) : IsNumber cs :=
  ⟨cs, [], decimal, Or.inl rfl, (List.append_nil cs).symm⟩

theorem IsDecimal.numberValue? {cs : List Char} (decimal : IsDecimal cs) :
    Parse.numberValue? cs = Number.read? cs := by
  have noPower : IsSuffix isPowerMark [] := Or.inl rfl
  obtain ⟨front, back⟩ := split_caret decimal noPower
  rw [List.append_nil] at front back
  simp only [Parse.numberValue?, front, back]

/-- A decimal and the power after it are read apart. -/
theorem IsDecimal.numberValue?_power {base power : List Char} (decimal : IsDecimal base)
    (powered : IsSuffix isPowerMark ('^' :: power)) :
    Parse.numberValue? (base ++ '^' :: power) =
      (Number.read? base).bind fun value => (Number.read? power).map (Float.pow value) := by
  obtain ⟨front, back⟩ := split_caret decimal powered
  simp only [Parse.numberValue?, front, back]

/-- Every number has a value. -/
theorem numberValue?_isSome {cs : List Char} (number : IsNumber cs) :
    (Parse.numberValue? cs).isSome := by
  obtain ⟨base, power, decimal, suffix, rfl⟩ := number
  obtain ⟨front, back⟩ := split_caret decimal suffix
  have readable := read?_isSome_of_isDecimal decimal
  simp only [Parse.numberValue?, front, back]
  rcases suffix with rfl | ⟨mark, sgn, run, _, signed, isRun, rfl⟩
  · exact readable
  · obtain ⟨value, reads⟩ := Option.isSome_iff_exists.1 readable
    simpa only [reads, Option.bind_some, Option.isSome_map] using
      read?_isSome_of_signed signed isRun

end Dimensional.Formula.Lexeme
