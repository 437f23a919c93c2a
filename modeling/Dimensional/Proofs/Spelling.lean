import Mathlib
import Dimensional.Number.Style
import Dimensional.Proofs.Literal
import Dimensional.Proofs.Shortest

/-!
Numbers written out in full. The plain text of a decimal is digits with an optional fraction, which
spell a decimal of the same value; so the plain text of a finite double whose sign is clear is read
as the double itself.
-/

set_option autoImplicit false

namespace Dimensional

open Formula.Lexeme (IsRun IsDecimal splitSign_unsigned takeWhile_digits stopsDigits_nil
  stopsDigits_point)
open Number (isDigit ofDigits)

namespace Number

/-- Digits with an optional fraction, and the decimal that they spell. -/
inductive Spells : List Char → Decimal → Prop where
  | whole (run : List Char) (digits : IsRun run) : Spells run ⟨ofDigits run, 0⟩
  | fraction (whole run : List Char) (digits : IsRun whole) (places : IsRun run) :
      Spells (whole ++ '.' :: run) ⟨ofDigits (whole ++ run), -(run.length : Int)⟩

theorem isDigit_of_mem_toDigits {n : Nat} {c : Char} (inside : c ∈ Nat.toDigits 10 n) :
    isDigit c = true := by
  have digit := Nat.isDigit_of_mem_toDigits (by decide) (by decide) inside
  simpa [Char.isDigit, isDigit, Char.le_def] using digit

theorem isRun_toDigits (n : Nat) : IsRun (Nat.toDigits 10 n) :=
  ⟨Nat.toDigits_ne_nil, fun _ => isDigit_of_mem_toDigits⟩

theorem isDigit_of_mem_replicate {count : Nat} {c : Char} (inside : c ∈ List.replicate count '0') :
    isDigit c = true := by
  rw [List.eq_of_mem_replicate inside]
  decide

theorem ofDigits_toDigits (n : Nat) : ofDigits (Nat.toDigits 10 n) = n :=
  Nat.ofDigitChars_ten_toDigits

theorem ofDigits_append (front back : List Char) :
    ofDigits (front ++ back) = 10 ^ back.length * ofDigits front + ofDigits back := by
  have shifted : Nat.ofDigitChars 10 back (ofDigits front) =
      10 ^ back.length * ofDigits front + ofDigits back := Nat.ofDigitChars_eq_ofDigitChars_zero
  rw [← shifted]
  exact Nat.ofDigitChars_append 0

theorem ofDigits_replicate (count : Nat) : ofDigits (List.replicate count '0') = 0 := by
  have zeros : ofDigits (List.replicate count '0') = 10 ^ count * 0 :=
    Nat.ofDigitChars_replicate_zero
  rw [zeros, Nat.mul_zero]

end Number

namespace Decimal

open Number

variable {d : Decimal}

theorem isRun_digits (d : Decimal) : IsRun d.digits := Number.isRun_toDigits d.significand

theorem ofDigits_digits (d : Decimal) : ofDigits d.digits = d.significand :=
  Number.ofDigits_toDigits d.significand

theorem scale_eq (d : Decimal) : d.scale = d.digits.length + d.exponent := rfl

/-- Zeros stand in for a positive exponent. -/
theorem spells_whole (whole : 0 ≤ d.exponent) :
    ∃ spelled, Spells (d.digits ++ List.replicate d.exponent.toNat '0') spelled ∧
      spelled.value = d.value := by
  have run := isRun_digits d
  refine ⟨_, .whole _ ⟨?_, ?_⟩, ?_⟩
  · simp [run.1]
  · intro c inside
    rcases List.mem_append.1 inside with digit | zero
    · exact run.2 c digit
    · exact isDigit_of_mem_replicate zero
  · obtain ⟨places, exponent⟩ := Int.eq_ofNat_of_zero_le whole
    rw [ofDigits_append, ofDigits_replicate, ofDigits_digits, List.length_replicate, value, value,
      exponent]
    simp [mul_comm]

/-- The point stands among the digits. -/
theorem spells_inside (fractional : d.exponent < 0) (inside : 0 < d.scale) :
    Spells (d.digits.take d.scale.toNat ++ '.' :: d.digits.drop d.scale.toNat) d := by
  have run := isRun_digits d
  have count := scale_eq d
  have before : d.digits.take d.scale.toNat ≠ [] := by
    rw [Ne, List.take_eq_nil_iff, not_or]
    exact ⟨by omega, run.1⟩
  have after : d.digits.drop d.scale.toNat ≠ [] := by
    rw [Ne, List.drop_eq_nil_iff]
    omega
  have spelled := Spells.fraction (d.digits.take d.scale.toNat) (d.digits.drop d.scale.toNat)
    ⟨before, fun c front => run.2 c (List.mem_of_mem_take front)⟩
    ⟨after, fun c back => run.2 c (List.mem_of_mem_drop back)⟩
  have places : -((d.digits.drop d.scale.toNat).length : Int) = d.exponent := by
    rw [List.length_drop]
    omega
  rwa [List.take_append_drop, ofDigits_digits, places] at spelled

/-- Zeros stand between the point and the digits. -/
theorem spells_outside (outside : d.scale ≤ 0) :
    Spells ('0' :: '.' :: (List.replicate (-d.scale).toNat '0' ++ d.digits)) d := by
  have run := isRun_digits d
  have count := scale_eq d
  have spelled := Spells.fraction ['0'] (List.replicate (-d.scale).toNat '0' ++ d.digits)
    ⟨by simp, by simp [isDigit]⟩ ⟨by simp [run.1], by
      intro c inside
      rcases List.mem_append.1 inside with zero | digit
      · exact isDigit_of_mem_replicate zero
      · exact run.2 c digit⟩
  have places : -((List.replicate (-d.scale).toNat '0' ++ d.digits).length : Int) =
      d.exponent := by
    rw [List.length_append, List.length_replicate]
    omega
  have digits : ofDigits (['0'] ++ (List.replicate (-d.scale).toNat '0' ++ d.digits)) =
      d.significand := by
    rw [ofDigits_append, ofDigits_append, ofDigits_replicate, ofDigits_digits]
    simp [ofDigits]
  rwa [digits, places] at spelled

/-- A decimal written out in full keeps its value. -/
theorem spells_positionalText (d : Decimal) :
    ∃ spelled, Spells (d.positionalText false) spelled ∧ spelled.value = d.value := by
  unfold positionalText
  dsimp only
  split
  · next whole => simpa using spells_whole whole
  · next fractional =>
    split
    · next inside => exact ⟨d, spells_inside (by omega) inside, rfl⟩
    · next outside => exact ⟨d, spells_outside (by omega), rfl⟩

end Decimal

namespace Number

/-- What spells a decimal is read as it. -/
theorem Spells.readDecimal? {cs : List Char} {d : Decimal} (spells : Spells cs d) :
    readDecimal? cs = some d := by
  cases spells with
  | whole run digits =>
    obtain ⟨front, back⟩ := takeWhile_digits digits.2 stopsDigits_nil
    rw [List.append_nil] at front back
    simp [Number.readDecimal?, front, back, digits.1, readExponent?]
  | fraction whole run digits places =>
    obtain ⟨front, back⟩ := takeWhile_digits digits.2 (stopsDigits_point run)
    obtain ⟨frontRun, backRun⟩ := takeWhile_digits places.2 stopsDigits_nil
    rw [List.append_nil] at frontRun backRun
    simp [Number.readDecimal?, front, back, frontRun, backRun, digits.1, readExponent?]

/-- What spells a decimal starts with a digit. -/
theorem Spells.head {cs : List Char} {d : Decimal} (spells : Spells cs d) :
    ∃ c rest, cs = c :: rest ∧ isDigit c = true := by
  have first : ∀ {run : List Char}, IsRun run → ∀ tail,
      ∃ c rest, run ++ tail = c :: rest ∧ isDigit c = true := by
    intro run digits tail
    cases run with
    | nil => exact absurd rfl digits.1
    | cons c rest => exact ⟨c, rest ++ tail, rfl, digits.2 c List.mem_cons_self⟩
  cases spells with
  | whole run digits => simpa using first digits []
  | fraction whole run digits places => exact first digits ('.' :: run)

theorem toLower_of_isDigit {c : Char} (digit : isDigit c = true) : c.toLower = c := by
  have below : c.val ≤ '9'.val := (of_decide_eq_true digit).2
  unfold Char.toLower
  split
  · next upper =>
    have above : 'A'.val ≤ c.val := upper.1
    exact absurd (UInt32.le_trans above below) (by decide)
  · rfl

/-- The words for infinity and for no number start with a letter. -/
theorem readUnsigned?_of_isDigit {c : Char} (digit : isDigit c = true) (rest : List Char) :
    readUnsigned? (c :: rest) = (readDecimal? (c :: rest)).map Decimal.toFloat := by
  have noWord : ∀ first tail, isDigit first = false →
      String.ofList ((c :: rest).map Char.toLower) ≠ String.ofList (first :: tail) := by
    intro first tail letter same
    have heads := (List.cons.inj (String.ofList_injective same)).1
    rw [toLower_of_isDigit digit] at heads
    rw [← heads, digit] at letter
    cases letter
  have notInf : String.ofList ((c :: rest).map Char.toLower) ≠ "inf" :=
    noWord 'i' ['n', 'f'] (by decide)
  have notInfinity : String.ofList ((c :: rest).map Char.toLower) ≠ "infinity" :=
    noWord 'i' ['n', 'f', 'i', 'n', 'i', 't', 'y'] (by decide)
  have notNan : String.ofList ((c :: rest).map Char.toLower) ≠ "nan" :=
    noWord 'n' ['a', 'n'] (by decide)
  have notInfinite : ¬(String.ofList ((c :: rest).map Char.toLower) = "inf" ||
      String.ofList ((c :: rest).map Char.toLower) = "infinity") := by
    simp only [notInf, notInfinity, decide_false, Bool.or_self, Bool.false_eq_true,
      not_false_eq_true]
  rw [readUnsigned?, if_neg notInfinite, if_neg notNan]

theorem Spells.read? {cs : List Char} {d : Decimal} (spells : Spells cs d) :
    read? cs = some d.toFloat := by
  have reads := spells.readDecimal?
  obtain ⟨c, rest, rfl, digit⟩ := spells.head
  simp only [Number.read?, splitSign_unsigned (Or.inl digit), readUnsigned?_of_isDigit digit, reads,
    Option.map_some, Bool.false_eq_true, ↓reduceIte]

theorem Spells.isDecimal {cs : List Char} {d : Decimal} (spells : Spells cs d) :
    IsDecimal cs := by
  cases spells with
  | whole run digits => exact digits.isDecimal
  | fraction whole run digits places =>
    have decimal := IsDecimal.parts whole ('.' :: run) [] digits.2
      (Or.inr ⟨run, places, rfl⟩) (Or.inl digits.1) (Or.inl rfl)
    rwa [List.append_nil] at decimal

/-- A number without a power has the value that it spells. -/
theorem Spells.numberValue? {cs : List Char} {d : Decimal} (spells : Spells cs d) :
    Formula.Parse.numberValue? cs = some d.toFloat :=
  spells.isDecimal.numberValue?.trans spells.read?

end Number

namespace Decimal

/-- A decimal of the same value as the shortest one of a rank is read as the double of the rank. -/
theorem nearestRank_of_value_eq_shortest {d : Decimal} {tie : Tie} {rank : Nat}
    (same : d.value = (shortest tie rank).value) (finite : rank < Binary64.infinityRank) :
    d.nearestRank = rank := by
  by_cases zero : rank = 0
  · subst zero
    have nothing : (shortest tie 0).value = 0 := by simp [shortest, value]
    rw [nothing, value, mul_eq_zero_iff_right (zpow_ne_zero _ (by norm_num))] at same
    have none : d.significand = 0 := by exact_mod_cast same
    rw [nearestRank, if_pos none]
  · have positive := Nat.pos_of_ne_zero zero
    apply nearestRank_of_roundsTo _ positive finite
    rw [roundsTo_of_value_eq same]
    exact roundsTo_shortest tie positive

end Decimal

namespace Binary64

/-- A double whose sign is clear is made again from its rank. -/
theorem ofRank_rank {x : Float} (positive : signBit x = false) : ofRank (rank x) = x := by
  have below : x.toBits.toNat < signWeight := Nat.lt_of_not_le (of_decide_eq_false positive)
  -- Only Mathlib as a whole has `Float.ofBits_toBits`; all else here is in its smaller modules.
  rw [ofRank, rank, Nat.mod_eq_of_lt below, UInt64.ofNat_toNat, Float.ofBits_toBits]

end Binary64

/-- A finite double whose sign is clear is written as digits that are read as itself. -/
theorem NumberStyle.spells_render {x : Float} (finite : x.isFinite = true)
    (positive : Binary64.signBit x = false) :
    ∃ d, Number.Spells (NumberStyle.plain.render x).toList d ∧ d.toFloat = x := by
  have below := Binary64.rank_lt_of_isFinite finite
  obtain ⟨d, spells, same⟩ :=
    (Decimal.shortest .awayFromZero (Binary64.rank x)).spells_positionalText
  refine ⟨d, ?_, ?_⟩
  · have text : NumberStyle.plain.render x = String.ofList
        ((Decimal.shortest .awayFromZero (Binary64.rank x)).positionalText false) := by
      have notNaN : ¬ x.isNaN = true := by
        rw [Binary64.isNaN_of_isFinite finite]
        exact Bool.false_ne_true
      rw [render, if_neg notNaN]
      simp [plain, Decimal.text, positive, below.ne]
    rwa [text, String.toList_ofList]
  · rw [Decimal.toFloat, Decimal.nearestRank_of_value_eq_shortest same below,
      Binary64.ofRank_rank positive]

end Dimensional
