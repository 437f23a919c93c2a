import Dimensional.Proofs.LexemeShape

/-!
Lexemes as languages. At each place the scanner takes the longest lexeme that begins the text there;
no choice of a shorter whole part, fraction or exponent makes a number longer. A character is
unknown only where no lexeme begins.
-/

set_option autoImplicit false

namespace Dimensional.Formula.Lexeme

open Number (isDigit)

theorem append_isPrefix {front back cs : List Char} (first : front <+: cs)
    (second : back <+: cs.drop front.length) : front ++ back <+: cs := by
  obtain ⟨tail, rfl⟩ := first
  rw [List.drop_left] at second
  exact (List.prefix_append_right_inj front).2 second

theorem digits_isPrefix (cs : List Char) : digits cs <+: cs := List.takeWhile_prefix _

theorem fraction_isPrefix (cs : List Char) : fraction cs <+: cs := by
  unfold fraction
  split
  · next rest =>
    split
    · exact List.nil_prefix
    · exact (List.prefix_cons_inj _).2 (digits_isPrefix rest)
  · exact List.nil_prefix

theorem sign_isPrefix (cs : List Char) : sign cs <+: cs := by
  unfold sign
  split
  · exact (List.prefix_cons_inj _).2 List.nil_prefix
  · exact (List.prefix_cons_inj _).2 List.nil_prefix
  · exact List.nil_prefix

theorem suffix_isPrefix (isMark : Char → Bool) (cs : List Char) : suffix isMark cs <+: cs := by
  cases cs with
  | nil => exact List.nil_prefix
  | cons c rest =>
    simp only [suffix]
    split
    · exact (List.prefix_cons_inj c).2
        (append_isPrefix (sign_isPrefix rest) (digits_isPrefix _))
    · exact List.nil_prefix

theorem number_isPrefix (cs : List Char) : number cs <+: cs :=
  append_isPrefix (digits_isPrefix cs) <| append_isPrefix (fraction_isPrefix _) <|
    append_isPrefix (suffix_isPrefix _ _) (suffix_isPrefix _ _)

/-- A lexeme is taken from the front of the text. -/
theorem read_isPrefix (c : Char) (rest : List Char) : (read c rest).2 <+: c :: rest := by
  have first : [c] <+: c :: rest := (List.prefix_cons_inj c).2 List.nil_prefix
  unfold read
  split
  · exact first
  · split
    · exact List.takeWhile_prefix _
    · split
      · exact number_isPrefix (c :: rest)
      · exact first

/-- What stands at the front of a text: the longest lexeme, with its kind, or one character with
which no lexeme begins. -/
inductive Leads (text : List Char) : TokenKind → List Char → Prop where
  | lexeme (kind : TokenKind) (cs : List Char) (belongs : Belongs kind cs) (begins : cs <+: text)
      (longest : ∀ other piece, Belongs other piece → piece <+: text →
        other = kind ∧ piece.length ≤ cs.length) : Leads text kind cs
  | unknown (c : Char) (rest : List Char) (shape : text = c :: rest)
      (none : ∀ kind piece, Belongs kind piece → ¬piece <+: text) : Leads text .unknown [c]

/-- What the scanner takes of `text`, where `piece` and then `more` begin it: the piece itself, so
that the rest is still to come, or no less than the piece, when nothing else is to come. -/
inductive Covers (text taken piece more : List Char) : Prop where
  | same (equal : piece = taken) (continues : more <+: text.drop taken.length)
  | last (none : more = []) (least : piece.length ≤ taken.length)

theorem Covers.length_le {text taken piece more next : List Char}
    (covers : Covers text taken piece more)
    (continues : more <+: text.drop taken.length → more.length ≤ next.length) :
    (piece ++ more).length ≤ (taken ++ next).length := by
  rw [List.length_append, List.length_append]
  cases covers with
  | same equal rest =>
    subst equal
    exact Nat.add_le_add_left (continues rest) _
  | last none least =>
    subst none
    exact Nat.le_trans least (Nat.le_add_right _ _)

/-- A run of digits is as long as it can be, or all that is left. -/
theorem covers_digits {text piece more : List Char} (all : ∀ c ∈ piece, isDigit c = true)
    (stops : StopsDigits more) (begins : piece ++ more <+: text) :
    Covers text (digits text) piece more := by
  obtain ⟨tail, rfl⟩ := begins
  cases more with
  | nil =>
    refine .last rfl ?_
    rw [List.append_nil, digits, List.takeWhile_append_of_pos all, List.length_append]
    exact Nat.le_add_right _ _
  | cons c more =>
    have stops : StopsDigits (c :: more ++ tail) := by
      rintro head later shape
      exact stops head more (by rw [(List.cons.inj shape).1])
    have taken : digits (piece ++ (c :: more) ++ tail) = piece := by
      rw [List.append_assoc]
      exact (takeWhile_digits all stops).1
    refine .same taken.symm ?_
    rw [taken, List.append_assoc, List.drop_left]
    exact List.prefix_append _ _

/-- What stands before both the piece and what is taken makes no difference. -/
theorem Covers.prepend {text taken piece more : List Char} (covers : Covers text taken piece more)
    (front : List Char) : Covers (front ++ text) (front ++ taken) (front ++ piece) more := by
  cases covers with
  | same equal continues =>
    refine .same (congrArg _ equal) ?_
    rwa [List.length_append, List.drop_length_add_append]
  | last none least =>
    refine .last none ?_
    rw [List.length_append, List.length_append]
    exact Nat.add_le_add_left least _

/-- Nothing is taken where what follows does not allow for it. -/
theorem covers_nil {text more : List Char} {take : List Char → List Char}
    (nothing : ∀ c rest, more = c :: rest → ∀ tail, take (c :: tail) = [])
    (begins : more <+: text) : Covers text (take text) [] more := by
  cases more with
  | nil => exact .last rfl (Nat.zero_le _)
  | cons c more =>
    obtain ⟨tail, rfl⟩ := begins
    have taken : take (c :: more ++ tail) = [] := nothing c more rfl _
    refine .same taken.symm ?_
    rw [taken]
    exact List.prefix_append _ _

theorem digits_ne_nil {run rest : List Char} (isRun : IsRun run) : digits (run ++ rest) ≠ [] := by
  obtain ⟨c, later, rfl⟩ := List.exists_cons_of_ne_nil isRun.1
  simp [digits, isRun.2 c List.mem_cons_self]

theorem covers_fraction {text piece more : List Char} (fractional : IsFraction piece)
    (stops : StopsDigits more) (noPoint : ∀ rest, more ≠ '.' :: rest)
    (begins : piece ++ more <+: text) : Covers text (fraction text) piece more := by
  rcases fractional with rfl | ⟨run, isRun, rfl⟩
  · refine covers_nil (fun c rest shape tail => ?_) begins
    rw [fraction]
    rintro _ equal
    exact noPoint rest (by rw [shape, (List.cons.inj equal).1])
  · obtain ⟨tail, rfl⟩ := begins
    have present : digits (run ++ (more ++ tail)) ≠ [] := digits_ne_nil isRun
    have taken : fraction ('.' :: (run ++ (more ++ tail))) =
        ['.'] ++ digits (run ++ (more ++ tail)) := by
      simp [fraction, present]
    have covers : Covers (run ++ (more ++ tail)) _ run more :=
      covers_digits isRun.2 stops ⟨tail, List.append_assoc _ _ _⟩
    rw [List.append_assoc, List.cons_append, taken]
    exact covers.prepend ['.']

/-- A sign is taken as it stands, since digits follow it. -/
theorem sign_append {sgn run : List Char} (signed : IsSign sgn) (isRun : IsRun run)
    (rest : List Char) : sign (sgn ++ (run ++ rest)) = sgn := by
  rcases signed with rfl | rfl | rfl
  · obtain ⟨c, later, rfl⟩ := List.exists_cons_of_ne_nil isRun.1
    have digit := isRun.2 c List.mem_cons_self
    have notMinus : c ≠ '-' := by rintro rfl; exact absurd digit (by decide)
    have notPlus : c ≠ '+' := by rintro rfl; exact absurd digit (by decide)
    rw [List.nil_append, List.cons_append, sign]
    · exact fun _ equal => notPlus (List.cons.inj equal).1
    · exact fun _ equal => notMinus (List.cons.inj equal).1
  · rfl
  · rfl

theorem covers_suffix {isMark : Char → Bool} {text piece more : List Char}
    (suffixed : IsSuffix isMark piece) (stops : StopsDigits more)
    (noMark : ∀ c rest, more = c :: rest → isMark c = false) (begins : piece ++ more <+: text) :
    Covers text (suffix isMark text) piece more := by
  rcases suffixed with rfl | ⟨mark, sgn, run, marked, signed, isRun, rfl⟩
  · refine covers_nil (fun c rest shape tail => ?_) begins
    simp [suffix, noMark c rest shape]
  · obtain ⟨tail, rfl⟩ := begins
    have present : digits (run ++ (more ++ tail)) ≠ [] := digits_ne_nil isRun
    have taken : suffix isMark (mark :: (sgn ++ (run ++ (more ++ tail)))) =
        mark :: sgn ++ digits (run ++ (more ++ tail)) := by
      simp [suffix, sign_append signed isRun, marked, present]
    have covers : Covers (run ++ (more ++ tail)) _ run more :=
      covers_digits isRun.2 stops ⟨tail, List.append_assoc _ _ _⟩
    have shape : mark :: (sgn ++ run) ++ more ++ tail =
        mark :: (sgn ++ (run ++ (more ++ tail))) := by
      simp
    rw [shape, taken]
    exact covers.prepend (mark :: sgn)

theorem length_le_suffix {isMark : Char → Bool} {text piece : List Char}
    (suffixed : IsSuffix isMark piece) (begins : piece <+: text) :
    piece.length ≤ (suffix isMark text).length := by
  rw [← List.append_nil piece] at begins
  cases covers_suffix suffixed stopsDigits_nil (fun _ _ => nofun) begins with
  | same equal _ => exact Nat.le_of_eq (congrArg _ equal)
  | last _ least => exact least

theorem IsSuffix.mark_of_cons {isMark : Char → Bool} {c : Char} {rest : List Char}
    (suffixed : IsSuffix isMark (c :: rest)) : isMark c = true := by
  rcases suffixed with absent | ⟨mark, sgn, run, marked, _, _, shape⟩
  · cases absent
  · rwa [(List.cons.inj shape).1]

/-- What follows the digits of a number starts with a mark. -/
theorem mark_of_suffixes {scale power : List Char} (exponent : IsSuffix isExponentMark scale)
    (powered : IsSuffix isPowerMark power) {c : Char} {rest : List Char}
    (shape : scale ++ power = c :: rest) : c = 'e' ∨ c = 'E' ∨ c = '^' := by
  cases scale with
  | nil =>
    rw [List.nil_append] at shape
    subst shape
    exact Or.inr (Or.inr (by simpa [isPowerMark] using powered.mark_of_cons))
  | cons mark scale =>
    obtain ⟨rfl, -⟩ := List.cons.inj shape
    have marked := exponent.mark_of_cons
    simp only [isExponentMark, Bool.or_eq_true, beq_iff_eq] at marked
    rcases marked with small | large
    · exact Or.inl small
    · exact Or.inr (Or.inl large)

/-- No number that begins the text is longer than the one that is taken: each part of it is covered,
since what follows a part cannot be read as more of it. -/
theorem length_le_of_isNumber {text piece : List Char} (isNumber : IsNumber piece)
    (begins : piece <+: text) : piece.length ≤ (number text).length := by
  obtain ⟨_, power, ⟨whole, point, scale, digits, fractional, -, exponent⟩, powered, rfl⟩ :=
    isNumber
  rw [List.append_assoc, List.append_assoc] at begins ⊢
  have marks : ∀ c rest, scale ++ power = c :: rest → c = 'e' ∨ c = 'E' ∨ c = '^' :=
    fun _ _ shape => mark_of_suffixes exponent powered shape
  have afterPoint : StopsDigits (scale ++ power) := by
    intro c rest shape
    rcases marks c rest shape with rfl | rfl | rfl <;> decide
  have afterWhole : StopsDigits (point ++ (scale ++ power)) := by
    rcases fractional with rfl | ⟨run, -, rfl⟩
    · exact afterPoint
    · exact stopsDigits_point _
  have noPoint : ∀ rest, scale ++ power ≠ '.' :: rest := by
    intro rest shape
    rcases marks '.' rest shape with equal | equal | equal <;> cases equal
  have afterScale : ∀ c rest, power = c :: rest → c = '^' := by
    rintro c rest rfl
    simpa [isPowerMark] using powered.mark_of_cons
  refine (covers_digits digits afterWhole begins).length_le fun begins => ?_
  refine (covers_fraction fractional afterPoint noPoint begins).length_le fun begins => ?_
  have stops : StopsDigits power := fun c rest shape => by
    rw [afterScale c rest shape]
    decide
  refine (covers_suffix exponent stops (fun c rest shape => ?_) begins).length_le fun begins => ?_
  · rw [afterScale c rest shape]
    decide
  · exact length_le_suffix powered begins

/-- A number starts where one begins the text. -/
theorem startsNumber_of_isNumber {c : Char} {rest piece : List Char} (isNumber : IsNumber piece)
    (begins : piece <+: c :: rest) : startsNumber c rest = true := by
  obtain ⟨_, power, ⟨whole, point, scale, digits, fractional, visible, -⟩, -, rfl⟩ := isNumber
  obtain ⟨tail, shape⟩ := begins
  cases whole with
  | cons first whole =>
    obtain ⟨rfl, -⟩ := List.cons.inj shape
    simp [startsNumber, digits first List.mem_cons_self]
  | nil =>
    rcases fractional with rfl | ⟨run, isRun, rfl⟩
    · exact absurd rfl (visible.resolve_left (fun absent => absent rfl))
    · simp only [List.nil_append, List.cons_append, List.append_assoc] at shape
      obtain ⟨rfl, rfl⟩ := List.cons.inj shape
      simp [startsNumber, digits_ne_nil isRun]

theorem isName_takeWhile {c : Char} {rest : List Char} (starts : isIdentifierStart c = true) :
    IsName ((c :: rest).takeWhile isIdentifierPart) := by
  simp only [isIdentifierStart, Bool.or_eq_true, beq_iff_eq] at starts
  have part : isIdentifierPart c = true :=
    (isIdentifierPart_iff c).2 (starts.imp_left fun letter => by simp [Char.isAlphanum, letter])
  refine ⟨c, rest.takeWhile isIdentifierPart, by simp [part], starts, fun later inside => ?_⟩
  have all := List.all_takeWhile (p := isIdentifierPart) (l := rest)
  exact (isIdentifierPart_iff later).1 (List.all_eq_true.1 all later inside)

theorem isName_head {c : Char} {rest piece : List Char} (name : IsName piece)
    (begins : piece <+: c :: rest) : c.isAlpha = true ∨ c = '_' := by
  obtain ⟨first, later, rfl, start, -⟩ := name
  obtain ⟨tail, shape⟩ := begins
  obtain ⟨rfl, -⟩ := List.cons.inj shape
  exact start

/-- No symbol and no name starts as a number does. -/
theorem kinds_of_startsNumber {c : Char} {rest : List Char} (starts : startsNumber c rest = true) :
    symbolKind? c = none ∧ isIdentifierStart c = false := by
  simp only [startsNumber, Bool.or_eq_true, Bool.and_eq_true, beq_iff_eq] at starts
  rcases starts with digit | ⟨rfl, -⟩
  · exact ⟨(kinds_of_isDigit digit).1, (kinds_of_isDigit digit).2.1⟩
  · decide

/-- The scanner's kind is that of every lexeme that begins the text, and it takes no less. -/
theorem read_of_belongs {c : Char} {rest piece : List Char} {kind : TokenKind}
    (belongs : Belongs kind piece) (begins : piece <+: c :: rest) :
    (read c rest).1 = kind ∧ piece.length ≤ (read c rest).2.length := by
  cases belongs with
  | symbol _ first symbol =>
    obtain ⟨tail, shape⟩ := begins
    obtain ⟨rfl, -⟩ := List.cons.inj shape
    simp [read, symbol]
  | identifier _ name =>
    obtain ⟨noSymbol, starts, -⟩ := kinds_of_isName (isName_head name begins)
    have taken : read c rest = (.identifier, (c :: rest).takeWhile isIdentifierPart) := by
      simp [read, noSymbol, starts]
    rw [taken]
    refine ⟨rfl, ?_⟩
    obtain ⟨tail, shape⟩ := begins
    rw [← shape, List.takeWhile_append_of_pos (isIdentifierPart_of_mem name), List.length_append]
    exact Nat.le_add_right _ _
  | number _ number =>
    have starts := startsNumber_of_isNumber number begins
    obtain ⟨noSymbol, noName⟩ := kinds_of_startsNumber starts
    have taken : read c rest = (.number, Lexeme.number (c :: rest)) := by
      simp [read, noSymbol, noName, starts]
    rw [taken]
    exact ⟨rfl, length_le_of_isNumber number begins⟩

/-- What the scanner takes belongs to its kind. -/
theorem belongs_read {c : Char} {rest : List Char} (known : (read c rest).1 ≠ .unknown) :
    Belongs (read c rest).1 (read c rest).2 := by
  unfold read at known ⊢
  split at known
  · next kind symbol => exact .symbol kind c symbol
  · split at known
    · next starts =>
      rw [if_pos starts]
      exact .identifier _ (isName_takeWhile starts)
    · next noName =>
      split at known
      · next starts =>
        rw [if_neg noName, if_pos starts]
        exact .number _ (isNumber_number c rest starts)
      · exact absurd rfl known

/-- Whether no lexeme of the kind goes on after `cs` with the first character of `rest`. -/
def EndsBefore (kind : TokenKind) (cs rest : List Char) : Prop :=
  ∀ first later more, rest = first :: later → ¬Belongs kind (cs ++ first :: more)

/-- A lexeme that cannot go on is taken as it stands. -/
theorem read_append {kind : TokenKind} {c : Char} {cs rest : List Char}
    (belongs : Belongs kind (c :: cs)) (ends : EndsBefore kind (c :: cs) rest) :
    read c (cs ++ rest) = (kind, c :: cs) := by
  have begins : c :: cs <+: c :: (cs ++ rest) := List.prefix_append (c :: cs) rest
  obtain ⟨same, least⟩ := read_of_belongs belongs begins
  have taken : Belongs kind (read c (cs ++ rest)).2 := by
    have known : (read c (cs ++ rest)).1 ≠ .unknown := by
      rw [same]
      exact belongs.known.1
    have taken := belongs_read known
    rwa [same] at taken
  have within := read_isPrefix c (cs ++ rest)
  obtain ⟨more, shape⟩ := List.prefix_of_prefix_length_le begins within least
  rw [← shape] at taken within
  cases more with
  | nil => exact Prod.ext same (shape.symm.trans (List.append_nil _))
  | cons first more =>
    obtain ⟨tail, whole⟩ := (List.prefix_append_right_inj (c :: cs)).1 within
    exact absurd taken (ends first (more ++ tail) more whole.symm)

theorem read_unknown {c : Char} {rest : List Char} (unknown : (read c rest).1 = .unknown) :
    (read c rest).2 = [c] := by
  unfold read at unknown ⊢
  split at unknown
  · rfl
  · next symbol =>
    split at unknown
    · cases unknown
    · next noName =>
      split at unknown
      · cases unknown
      · next noNumber => rw [if_neg noName, if_neg noNumber]

theorem leads_read (c : Char) (rest : List Char) :
    Leads (c :: rest) (read c rest).1 (read c rest).2 := by
  by_cases known : (read c rest).1 = .unknown
  · rw [known, read_unknown known]
    refine .unknown c rest rfl fun kind piece belongs begins => ?_
    exact belongs.known.1 ((read_of_belongs belongs begins).1.symm.trans known)
  · refine .lexeme _ _ (belongs_read known) (read_isPrefix c rest) ?_
    intro other piece belongs begins
    exact (read_of_belongs belongs begins).imp_left Eq.symm

/-- What stands at the front of a text is determined by it. -/
theorem Leads.unique {text first second : List Char} {kind other : TokenKind}
    (leads : Leads text kind first) (again : Leads text other second) :
    kind = other ∧ first = second := by
  cases leads with
  | lexeme _ _ belongs begins longest =>
    cases again with
    | lexeme _ _ belongs' begins' longest' =>
      have least := (longest' kind first belongs begins).2
      obtain ⟨same, most⟩ := longest other second belongs' begins'
      have shorter := List.prefix_of_prefix_length_le begins begins' least
      exact ⟨same.symm, shorter.eq_of_length_le most⟩
    | unknown c rest shape none => exact absurd begins (none kind first belongs)
  | unknown c rest shape none =>
    cases again with
    | lexeme _ _ belongs begins longest => exact absurd begins (none other second belongs)
    | unknown c' rest' shape' none' =>
      obtain ⟨rfl, -⟩ := List.cons.inj (shape.symm.trans shape')
      exact ⟨rfl, rfl⟩

end Dimensional.Formula.Lexeme
