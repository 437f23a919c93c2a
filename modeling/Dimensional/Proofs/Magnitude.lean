import Dimensional.Proofs.Calibration

/-!
Evaluation over exact numbers computes magnitudes in reference units: what a value amounts to is the
ordinary arithmetic value of the tree, with each name standing for its own magnitude. So it does not
matter in which units the names are bound, as long as these are calibrated and of known dimension.
-/

set_option autoImplicit false

namespace Dimensional

/-- A calibrated unit of known dimension. -/
def Unit.SoundIn (base : Base) (unit : Unit Exact) : Prop :=
  unit.Calibrated ∧ ∃ dimension, unit.dimensionIn? base = some dimension

theorem Unit.SoundIn.productIn {base : Base} {a b : Unit Exact} (left : a.SoundIn base)
    (right : b.SoundIn base) : (a.productIn base b).SoundIn base := by
  obtain ⟨calibratedA, _, knownA⟩ := left
  obtain ⟨calibratedB, _, knownB⟩ := right
  exact ⟨calibratedA.productIn calibratedB base, _, Unit.dimensionIn?_productIn knownA knownB⟩

theorem Unit.SoundIn.quotientIn {base : Base} {a b : Unit Exact} (left : a.SoundIn base)
    (right : b.SoundIn base) : (a.quotientIn base b).SoundIn base := by
  obtain ⟨calibratedA, _, knownA⟩ := left
  obtain ⟨calibratedB, _, knownB⟩ := right
  exact ⟨calibratedA.quotientIn calibratedB base, _, Unit.dimensionIn?_quotientIn knownA knownB⟩

namespace Formula

/-- What the value amounts to in reference units. -/
def Value.magnitude {α : Type} [Scalar α] (value : Value α) : α := value.number * value.unit.factor

/-- Ordinary arithmetic, without division by zero. -/
def Operator.ordinary? : Operator → ℚ → ℚ → Option ℚ
  | .add, x, y => some (x + y)
  | .subtract, x, y => some (x - y)
  | .multiply, x, y => some (x * y)
  | .divide, x, y => if y = 0 then none else some (x / y)
  | .power, _, _ => none
  | .modulo, _, _ => none

/-- The ordinary value of a tree of numbers, names and the four operations; none where it divides by
zero. -/
def Expr.ordinary? (assign : String → Option ℚ) : Expr Exact → Option ℚ
  | .number value => value.value?
  | .identifier name => assign name
  | .negate operand => (operand.ordinary? assign).map (- ·)
  | .binary left operator right =>
    (left.ordinary? assign).bind fun x => (right.ordinary? assign).bind fun y =>
      operator.ordinary? x y
  | .invalid _ => none

namespace Environment

/-- The magnitude that a name stands for. -/
def magnitude? (environment : Environment Exact) (name : String) : Option ℚ :=
  (environment.find? name).bind fun value => value.magnitude.value?

def Calibrated (environment : Environment Exact) : Prop :=
  ∀ name value, environment.find? name = some value → value.unit.Calibrated

def SoundIn (base : Base) (environment : Environment Exact) : Prop :=
  ∀ name value, environment.find? name = some value → value.unit.SoundIn base

theorem soundIn_of_known {base : Base} {environment : Environment Exact}
    (known : environment.KnownIn base) (calibrated : environment.Calibrated) :
    environment.SoundIn base := fun name value found =>
  ⟨calibrated name value found, Option.isSome_iff_exists.1 (known name value found)⟩

end Environment

/-- The same value expressed in another unit of the same dimension. -/
def Value.Reexpresses (bases : Bases) (base : Base) (value other : Value Exact) : Prop :=
  other.unit.dimensionIn? base = value.unit.dimensionIn? base ∧
    other.number = value.convertTo bases other.unit

/-- The same names, bound to the same values in units of choice. -/
def Environment.Reexpresses (bases : Bases) (base : Base)
    (environment other : Environment Exact) : Prop :=
  ∀ name, Option.Rel (Value.Reexpresses bases base) (environment.find? name) (other.find? name)

namespace Environment.Reexpresses

variable {bases : Bases} {base : Base} {environment other : Environment Exact}

theorem find?_cases (same : environment.Reexpresses bases base other) (name : String) :
    (environment.find? name = none ∧ other.find? name = none) ∨
      ∃ value value', environment.find? name = some value ∧ other.find? name = some value' ∧
        value.Reexpresses bases base value' := by
  have related := same name
  cases found : environment.find? name with
  | none =>
    cases found' : other.find? name with
    | none => exact Or.inl ⟨rfl, rfl⟩
    | some value' =>
      rw [found, found'] at related
      cases related
  | some value =>
    cases found' : other.find? name with
    | none =>
      rw [found, found'] at related
      cases related
    | some value' =>
      rw [found, found'] at related
      exact Or.inr ⟨value, value', rfl, rfl, Option.rel_some_some.1 related⟩

theorem dimension?_eq (same : environment.Reexpresses bases base other) :
    other.dimension? base = environment.dimension? base := by
  funext name
  unfold dimension?
  rcases same.find?_cases name with ⟨absent, absent'⟩ | ⟨value, value', found, found', equal, _⟩
  · rw [absent, absent']
  · rw [found, found', Option.bind_some, Option.bind_some, equal]

theorem knownIn (same : environment.Reexpresses bases base other)
    (known : environment.KnownIn base) : other.KnownIn base := by
  intro name value' found'
  rcases same.find?_cases name with ⟨_, absent⟩ | ⟨value, _, found, matched, equal, _⟩
  · rw [absent] at found'
    cases found'
  · rw [matched] at found'
    cases found'
    rw [equal]
    exact known name value found

end Environment.Reexpresses

namespace Context

variable {context : Context Exact} {base : Base} {left right value : Value Exact}

theorem soundIn_pureUnit (frozen : context.system.base? context.bases = some base) :
    (Unit.simple context.system.pureUnit).SoundIn base := by
  refine ⟨?_, _, dimensionIn?_pureUnit frozen⟩
  intro member inside
  rw [List.mem_singleton.1 inside]
  exact ⟨one_pos, fun _ => rfl⟩

/-- Between sound units a conversion is refused or has the quotient of the ratios as its factor. -/
theorem quotient?_of_sound (frozen : context.system.base? context.bases = some base)
    {a b : Unit Exact} (soundA : a.SoundIn base) (soundB : b.SoundIn base) :
    a.quotient? context.bases b = none ∨
      a.quotient? context.bases b = some (.of (a.ratio / b.ratio)) := by
  obtain ⟨calibratedA, _, knownA⟩ := soundA
  have home := base?_of_known frozen knownA
  simp only [Unit.quotient?, home, Option.bind_some, Unit.factorRatio_eq calibratedA soundB.1]
  by_cases compatible : a.compatibleIn base b = true
  · exact Or.inr (if_pos compatible)
  · exact Or.inl (if_neg compatible)

/-- A sum that has a value is in the unit of its right operand. -/
theorem combine_eq_ok (frozen : context.system.base? context.bases = some base)
    (soundLeft : left.unit.SoundIn base) (soundRight : right.unit.SoundIn base)
    {operation : Exact → Exact → Exact}
    (computed : context.combine operation left right = .ok value) :
    value = context.result
      (operation (left.number * .of (left.unit.ratio / right.unit.ratio)) right.number)
      right.unit := by
  unfold combine at computed
  rw [Unit.conversionTo_eq] at computed
  rcases quotient?_of_sound frozen soundLeft soundRight with refused | formed
  · simp only [refused, Option.getD_none, LawfulScalar.undefined_isUndefined, ↓reduceIte]
      at computed
    cases computed
  · simp only [formed, Option.getD_some, Exact.isUndefined_of, Bool.false_eq_true, ↓reduceIte]
      at computed
    exact (Except.ok.inj computed).symm

/-- Every value that a tree takes is in a sound unit. -/
theorem soundIn_evaluateAt (frozen : context.system.base? context.bases = some base)
    (sound : context.environment.SoundIn base) (expr : Expr Exact) (depth : Nat)
    (value : Value Exact) (computed : context.evaluateAt depth expr = .ok value) :
    value.unit.SoundIn base := by
  refine unit_of_evaluateAt (soundIn_pureUnit frozen) ?_ ?_ sound expr depth value computed
  · intro a b c left right multiplied
    obtain ⟨_, known⟩ := left.2
    simp only [Unit.multiply, base?_of_known frozen known, Except.ok.injEq] at multiplied
    rw [← multiplied]
    exact left.productIn right
  · intro a b c left right divided
    obtain ⟨_, known⟩ := left.2
    simp only [Unit.divide, base?_of_known frozen known, Except.ok.injEq] at divided
    rw [← divided]
    exact left.quotientIn right

/-- Exact quotients of factors of sound units are never undefined. -/
theorem quotientsAt_defined (frozen : context.system.base? context.bases = some base)
    (sound : context.environment.SoundIn base) (expr : Expr Exact) (depth : Nat) :
    ∀ quotient ∈ context.quotientsAt depth expr, Scalar.isUndefined quotient = false := by
  induction expr generalizing depth with
  | number number => simp [quotientsAt]
  | identifier name => simp [quotientsAt]
  | negate operand ih =>
    rw [quotientsAt]
    exact ih (depth + 1)
  | binary left operator right ihLeft ihRight =>
    intro quotient inside
    rw [quotientsAt, List.mem_append] at inside
    rcases inside with inLeft | inside
    · exact ihLeft (depth + 1) quotient inLeft
    cases onLeft : context.evaluateAt (depth + 1) left with
    | error error => simp [onLeft] at inside
    | ok leftValue =>
      simp only [onLeft, List.mem_append] at inside
      rcases inside with inRight | inside
      · exact ihRight (depth + 1) quotient inRight
      cases onRight : context.evaluateAt (depth + 1) right with
      | error error => simp [onRight] at inside
      | ok rightValue =>
        have soundLeft := soundIn_evaluateAt frozen sound left _ _ onLeft
        have soundRight := soundIn_evaluateAt frozen sound right _ _ onRight
        rw [onRight] at inside
        have formed :
            quotient ∈ (leftValue.unit.quotient? context.bases rightValue.unit).toList := by
          cases operator with
          | add => exact inside
          | subtract => exact inside
          | multiply => cases inside
          | divide => cases inside
          | power => cases inside
          | modulo => cases inside
        rcases quotient?_of_sound frozen soundLeft soundRight with refused | allowed
        · simp [refused] at formed
        · simp only [allowed, Option.toList_some, List.mem_singleton] at formed
          rw [formed]
          rfl
  | invalid text => simp [quotientsAt]

/-- The number of a value in a calibrated unit is its magnitude over the ratio of the unit. -/
theorem number_eq_of_magnitude (calibrated : value.unit.Calibrated) {x : ℚ}
    (amount : value.magnitude = .of x) : value.number = .of (x / value.unit.ratio) := by
  rw [Value.magnitude, Unit.factor_eq calibrated] at amount
  exact Exact.eq_of_mul (Unit.ratio_pos calibrated) amount

/-- Conversion to the unit on the right keeps the magnitude of the value on the left. -/
theorem magnitude_combine (frozen : context.system.base? context.bases = some base)
    (soundLeft : left.unit.SoundIn base) (soundRight : right.unit.SoundIn base)
    {operation : Exact → Exact → Exact} {rational : ℚ → ℚ → ℚ}
    (computes : ∀ a b, operation (.of a) (.of b) = .of (rational a b))
    (scales : ∀ a b c, rational a b * c = rational (a * c) (b * c))
    (computed : context.combine operation left right = .ok value) {x y : ℚ}
    (amountLeft : left.magnitude = .of x) (amountRight : right.magnitude = .of y) :
    value.magnitude = .of (rational x y) := by
  have numberLeft := number_eq_of_magnitude soundLeft.1 amountLeft
  have numberRight := number_eq_of_magnitude soundRight.1 amountRight
  have nonzeroLeft := (Unit.ratio_pos soundLeft.1).ne'
  have nonzeroRight := (Unit.ratio_pos soundRight.1).ne'
  rw [combine_eq_ok frozen soundLeft soundRight computed]
  simp only [Value.magnitude, result, numberLeft, numberRight, Unit.factor_eq soundRight.1,
    Exact.of_mul, computes, scales]
  rw [div_mul_div_cancel₀ nonzeroLeft, div_mul_cancel₀ x nonzeroRight,
    div_mul_cancel₀ y nonzeroRight]

/-- Operations on values are ordinary arithmetic on their magnitudes. -/
theorem magnitude_apply (frozen : context.system.base? context.bases = some base)
    (soundLeft : left.unit.SoundIn base) (soundRight : right.unit.SoundIn base)
    {operator : Operator} (computed : context.apply operator left right = .ok value)
    {x y m : ℚ} (amountLeft : left.magnitude = .of x) (amountRight : right.magnitude = .of y)
    (ordinary : operator.ordinary? x y = some m) : value.magnitude = .of m := by
  have numberLeft := number_eq_of_magnitude soundLeft.1 amountLeft
  have numberRight := number_eq_of_magnitude soundRight.1 amountRight
  have nonzeroLeft := (Unit.ratio_pos soundLeft.1).ne'
  have nonzeroRight := (Unit.ratio_pos soundRight.1).ne'
  obtain ⟨_, knownLeft⟩ := soundLeft.2
  have home := base?_of_known frozen knownLeft
  cases operator with
  | add =>
    cases ordinary
    exact magnitude_combine frozen soundLeft soundRight Exact.of_add add_mul computed amountLeft
      amountRight
  | subtract =>
    cases ordinary
    exact magnitude_combine frozen soundLeft soundRight Exact.of_sub sub_mul computed amountLeft
      amountRight
  | multiply =>
    simp only [apply, Unit.multiply, home, withUnit] at computed
    cases computed
    cases ordinary
    have calibrated := soundLeft.1.productIn soundRight.1 base
    simp only [Value.magnitude, result, numberLeft, numberRight, Unit.factor_eq calibrated,
      Unit.ratio_productIn base soundLeft.1 soundRight.1, Exact.of_mul]
    congr 1
    field_simp
  | divide =>
    simp only [apply, Unit.divide, home, withUnit] at computed
    cases computed
    rw [Operator.ordinary?] at ordinary
    split at ordinary
    · cases ordinary
    next nonzero =>
    cases ordinary
    have calibrated := soundLeft.1.quotientIn soundRight.1 base
    have usable : y / right.unit.ratio ≠ 0 := div_ne_zero nonzero nonzeroRight
    simp only [Value.magnitude, result, numberLeft, numberRight, Unit.factor_eq calibrated,
      Unit.ratio_quotientIn base soundLeft.1 soundRight.1, Exact.of_div _ usable, Exact.of_mul]
    congr 1
    field_simp
  | power => cases ordinary
  | modulo => cases ordinary

/-- The magnitude of a value is what ordinary arithmetic makes of the magnitudes of the names. -/
theorem magnitude_evaluateAt (frozen : context.system.base? context.bases = some base)
    (sound : context.environment.SoundIn base) (expr : Expr Exact) (depth : Nat)
    (value : Value Exact) (computed : context.evaluateAt depth expr = .ok value) (m : ℚ)
    (ordinary : expr.ordinary? context.environment.magnitude? = some m) :
    value.magnitude = .of m := by
  induction expr generalizing depth value m with
  | number number =>
    rw [eq_of_evaluateAt_number computed, Value.magnitude]
    rw [Expr.ordinary?, Exact.value?_eq_some_iff] at ordinary
    rw [result, ordinary]
    change Exact.of (m * 1) = .of m
    rw [mul_one]
  | identifier name =>
    rw [Expr.ordinary?, Environment.magnitude?, find?_of_evaluateAt_identifier computed,
      Option.bind_some, Exact.value?_eq_some_iff] at ordinary
    exact ordinary
  | negate operand ih =>
    obtain ⟨inner, below, rfl⟩ := exists_of_evaluateAt_negate computed
    obtain ⟨x, ordinaryInner, rfl⟩ := Option.map_eq_some_iff.1 ordinary
    have soundInner := soundIn_evaluateAt frozen sound operand _ _ below
    have amount := ih (depth + 1) inner below x ordinaryInner
    have number := number_eq_of_magnitude soundInner.1 amount
    have nonzero := (Unit.ratio_pos soundInner.1).ne'
    simp only [Value.magnitude, result, number, Unit.factor_eq soundInner.1, Exact.neg_of,
      Exact.of_mul]
    rw [neg_mul, div_mul_cancel₀ x nonzero]
  | binary left operator right ihLeft ihRight =>
    obtain ⟨leftValue, rightValue, onLeft, onRight, applied⟩ :=
      exists_of_evaluateAt_binary computed
    obtain ⟨x, ordinaryLeft, rest⟩ := Option.bind_eq_some_iff.1 ordinary
    obtain ⟨y, ordinaryRight, operated⟩ := Option.bind_eq_some_iff.1 rest
    have soundLeft := soundIn_evaluateAt frozen sound left _ _ onLeft
    have soundRight := soundIn_evaluateAt frozen sound right _ _ onRight
    -- Magnitudes alone do not say that a sum converts with a factor: the units must be sound too.
    have amountLeft := ihLeft (depth + 1) leftValue onLeft x ordinaryLeft
    have amountRight := ihRight (depth + 1) rightValue onRight y ordinaryRight
    exact magnitude_apply frozen soundLeft soundRight applied amountLeft amountRight operated
  | invalid text => exact absurd computed evaluateAt_invalid_ne_ok

/-- Expressing a value in another unit keeps its magnitude. -/
theorem magnitude_of_reexpresses (frozen : context.system.base? context.bases = some base)
    {other : Value Exact} (sound : value.unit.SoundIn base) (calibrated : other.unit.Calibrated)
    (same : value.Reexpresses context.bases base other) : other.magnitude = value.magnitude := by
  obtain ⟨equal, expressed⟩ := same
  obtain ⟨calibratedValue, dimension, known⟩ := sound
  have home := base?_of_known frozen known
  have compatible := (Unit.compatibleIn_iff known (equal.trans known)).2 rfl
  have factor : value.unit.conversionTo context.bases other.unit =
      .of (value.unit.ratio / other.unit.ratio) := by
    simp only [Unit.conversionTo, home, Unit.conversionIn, compatible, ↓reduceIte]
    exact Unit.factorRatio_eq calibratedValue calibrated
  have nonzero := (Unit.ratio_pos calibrated).ne'
  rw [Value.magnitude, Value.magnitude, expressed, Value.convertTo, factor,
    Unit.factor_eq calibrated, Unit.factor_eq calibratedValue]
  cases value.number with
  | undefined => rfl
  | of number =>
    simp only [Exact.of_mul]
    rw [mul_assoc, div_mul_cancel₀ _ nonzero]

/-- Names that are expressed in other units keep their magnitudes. -/
theorem magnitude?_of_reexpresses (frozen : context.system.base? context.bases = some base)
    (sound : context.environment.SoundIn base) {other : Environment Exact}
    (calibrated : other.Calibrated)
    (same : context.environment.Reexpresses context.bases base other) :
    other.magnitude? = context.environment.magnitude? := by
  funext name
  unfold Environment.magnitude?
  rcases same.find?_cases name with ⟨absent, absent'⟩ | ⟨value, value', found, found', expressed⟩
  · rw [absent, absent']
  · rw [found, found', Option.bind_some, Option.bind_some,
      magnitude_of_reexpresses frozen (sound name value found) (calibrated name value' found')
        expressed]

theorem magnitude_evaluate (frozen : context.system.base? context.bases = some base)
    (sound : context.environment.SoundIn base) (expr : Expr Exact) (m : ℚ) (value : Value Exact)
    (ordinary : expr.ordinary? context.environment.magnitude? = some m)
    (computed : context.evaluate expr = .ok value) : value.magnitude = .of m := by
  rw [evaluate_eq frozen] at computed
  exact magnitude_evaluateAt frozen sound expr 1 value computed m ordinary

/-- The value of a tree amounts to its ordinary value, and expressing names in other units of the
same dimension changes neither whether there is a value nor what it amounts to. -/
theorem evaluate_magnitude (context : Context Exact) (base : Base)
    (frozen : context.system.base? context.bases = some base)
    (known : context.environment.KnownIn base) (calibrated : context.environment.Calibrated)
    (expr : Expr Exact) :
    (∀ m value, expr.ordinary? context.environment.magnitude? = some m →
      context.evaluate expr = .ok value → value.magnitude = .of m) ∧
    ∀ other : Environment Exact, other.Calibrated →
      context.environment.Reexpresses context.bases base other →
      ((∃ value, (context.rebind other).evaluate expr = .ok value) ↔
        ∃ value, context.evaluate expr = .ok value) ∧
      ∀ m value value', expr.ordinary? context.environment.magnitude? = some m →
        context.evaluate expr = .ok value → (context.rebind other).evaluate expr = .ok value' →
        value'.magnitude = value.magnitude := by
  have sound := Environment.soundIn_of_known known calibrated
  refine ⟨magnitude_evaluate frozen sound expr, ?_⟩
  intro other calibrated' same
  have known' := same.knownIn known
  have sound' := Environment.soundIn_of_known known' calibrated'
  have frozen' : (context.rebind other).system.base? (context.rebind other).bases = some base :=
    frozen
  constructor
  · have defined := quotientsAt_defined frozen sound expr 1
    have defined' := quotientsAt_defined frozen' sound' expr 1
    exact exists_ok_iff_of_summary
      (summary_rebind frozen known defined known' same.dimension?_eq defined')
  · intro m value value' ordinary computed computed'
    have kept : (context.rebind other).environment.magnitude? = context.environment.magnitude? :=
      magnitude?_of_reexpresses frozen sound calibrated' same
    rw [magnitude_evaluate frozen sound expr m value ordinary computed]
    rw [← kept] at ordinary
    exact magnitude_evaluate frozen' sound' expr m value' ordinary computed'

/-- Three miles and three quarters of a metre. -/
def exactDistances : List (String × Value Exact) :=
  [("far", .of (.of 3) (lengthUnit "mile" (.of (201168 / 125)))),
    ("near", .of (.of (3 / 4)) (lengthUnit "metre" (.of 1)))]

/-- The same distances, each in the unit of the other. -/
def exchangedDistances : List (String × Value Exact) :=
  [("far", .of (.of (603504 / 125)) (lengthUnit "metre" (.of 1))),
    ("near", .of (.of (125 / 268224)) (lengthUnit "mile" (.of (201168 / 125))))]

def exactTree : Expr Exact := .binary (.negate (.identifier "far")) .add (.identifier "near")

theorem calibrated_lengths {bindings : List (String × Value Exact)}
    (inLengths : ∀ entry ∈ bindings, ∃ name ratio, 0 < ratio ∧
      entry.2.unit = lengthUnit name (.of ratio)) :
    (lengths bindings).environment.Calibrated := by
  intro name value found member inside
  have axis : (⟨"Length"⟩ : Quantity) ≠ Quantity.dimensionless := by decide
  obtain ⟨label, ratio, positive, unit⟩ := inLengths (name, value) (Environment.mem_of_find? found)
  rw [unit] at inside
  rw [List.mem_singleton.1 inside]
  exact ⟨positive, fun pure => absurd pure axis⟩

theorem reexpresses_distances :
    (lengths exactDistances).environment.Reexpresses (lengths exactDistances).bases
      (lengths exactDistances).system.layout ⟨exchangedDistances⟩ := by
  intro name
  change Option.Rel _ (exactDistances.lookup name) (exchangedDistances.lookup name)
  simp only [exactDistances, exchangedDistances, List.lookup_cons, List.lookup_nil]
  cases name == "far" with
  | true =>
    refine Option.Rel.some ⟨rfl, ?_⟩
    simp only [Value.convertTo, Value.of, conversionTo_lengthUnit]
    decide +kernel
  | false =>
    cases name == "near" with
    | true =>
      refine Option.Rel.some ⟨rfl, ?_⟩
      simp only [Value.convertTo, Value.of, conversionTo_lengthUnit]
      decide +kernel
    | false => exact Option.Rel.none

/-- Three quarters of a metre less three miles, in either units. -/
theorem evaluate_exchanged_distances : ∃ value value',
    (lengths exactDistances).evaluate exactTree = .ok value ∧
      ((lengths exactDistances).rebind ⟨exchangedDistances⟩).evaluate exactTree = .ok value' ∧
      value.magnitude = .of (-2413641 / 500) ∧ value'.magnitude = value.magnitude := by
  have calibrated : (lengths exactDistances).environment.Calibrated := by
    apply calibrated_lengths
    simp only [exactDistances, List.forall_mem_cons]
    exact ⟨⟨_, _, by norm_num, rfl⟩, ⟨_, _, one_pos, rfl⟩, List.forall_mem_nil _⟩
  have calibrated' : (⟨exchangedDistances⟩ : Environment Exact).Calibrated := by
    apply calibrated_lengths
    simp only [exchangedDistances, List.forall_mem_cons]
    exact ⟨⟨_, _, one_pos, rfl⟩, ⟨_, _, by norm_num, rfl⟩, List.forall_mem_nil _⟩
  have known : (lengths exactDistances).environment.KnownIn
      (lengths exactDistances).system.layout := by
    apply knownIn_lengths
    simp only [exactDistances, List.forall_mem_cons]
    exact ⟨⟨_, _, rfl⟩, ⟨_, _, rfl⟩, List.forall_mem_nil _⟩
  have told := summary_evaluate rfl known
    (quotientsAt_defined rfl (Environment.soundIn_of_known known calibrated) exactTree 1)
  have measured : (lengths exactDistances).verdictAt (lengths exactDistances).system.layout 1
      exactTree = .ok ⟨[1]⟩ := rfl
  rw [measured] at told
  rcases summary_eq_map_some told with ⟨_, _, failed⟩ | ⟨value, _, computed, _⟩
  · cases failed
  obtain ⟨amounts, invariant⟩ := evaluate_magnitude (lengths exactDistances) _ rfl known calibrated
    exactTree
  obtain ⟨succeeds, kept⟩ := invariant _ calibrated' reexpresses_distances
  obtain ⟨value', computed'⟩ := succeeds.2 ⟨value, computed⟩
  have ordinary : exactTree.ordinary? (lengths exactDistances).environment.magnitude? =
      some (-2413641 / 500) := by
    decide +kernel
  exact ⟨value, value', computed, computed', amounts _ value ordinary computed,
    kept _ value value' ordinary computed computed'⟩

end Context

end Formula

end Dimensional
