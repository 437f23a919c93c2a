import Dimensional.Proofs.Calibration
import Dimensional.Proofs.ProductDimension

/-!
Chains of conversions. Compatibility is an equivalence among the units of known dimension, and over
exact factors a conversion is a quotient of two numbers, one for each unit. So conversions chain by
multiplication and are undone by the reciprocal. Products and quotients of units convert by the
product and the quotient of the conversions of their operands, as far as the members that they leave
out have factor 1.
-/

set_option autoImplicit false

namespace Dimensional.Unit

section Compatible

variable {α : Type} {base : Base} {a b c : Unit α}

theorem compatibleIn_symm (compatible : a.compatibleIn base b = true) :
    b.compatibleIn base a = true := by
  obtain ⟨_, knownA, knownB⟩ := exists_of_compatibleIn compatible
  exact (compatibleIn_iff knownB knownA).2 rfl

theorem compatibleIn_trans (first : a.compatibleIn base b = true)
    (second : b.compatibleIn base c = true) : a.compatibleIn base c = true := by
  obtain ⟨_, knownA, knownB⟩ := exists_of_compatibleIn first
  obtain ⟨_, knownB', knownC⟩ := exists_of_compatibleIn second
  apply (compatibleIn_iff knownA knownC).2
  exact Option.some.inj (knownB.symm.trans knownB')

end Compatible

/-- A value in `source` is turned into one in `target` by multiplication with `factor`. -/
structure ConvertsBy (base : Base) (source target : Unit Exact) (factor : ℚ) : Prop where
  compatible : source.compatibleIn base target = true
  conversion : source.conversionIn base target = .of factor

variable {base : Base} {a b c x y : Unit Exact} {f g : ℚ}

/-- The factor is the quotient of two numbers that belong to the units. -/
theorem convertsBy_iff (source : a.Positive) (target : b.Positive) :
    a.ConvertsBy base b f ↔ a.compatibleIn base b = true ∧ f = a.ratio / b.ratio := by
  have factor : a.compatibleIn base b = true →
      a.conversionIn base b = .of (a.ratio / b.ratio) := by
    intro compatible
    rw [conversionIn, if_pos compatible, source.factorRatio_eq target]
  constructor
  · rintro ⟨compatible, conversion⟩
    rw [factor compatible] at conversion
    exact ⟨compatible, (Exact.of.inj conversion).symm⟩
  · rintro ⟨compatible, rfl⟩
    exact ⟨compatible, factor compatible⟩

namespace ConvertsBy

theorem of_known {dimension : Dimension} (source : a.Positive) (target : b.Positive)
    (knownA : a.dimensionIn? base = some dimension)
    (knownB : b.dimensionIn? base = some dimension) :
    a.ConvertsBy base b (a.ratio / b.ratio) :=
  (convertsBy_iff source target).2 ⟨(compatibleIn_iff knownA knownB).2 rfl, rfl⟩

theorem self (known : (a.dimensionIn? base).isSome = true) (positive : a.Positive) :
    a.ConvertsBy base a 1 := by
  obtain ⟨dimension, measured⟩ := Option.isSome_iff_exists.1 known
  have converts := of_known positive positive measured measured
  rwa [div_self positive.ratio_pos.ne'] at converts

theorem of_compatible (compatible : a.compatibleIn base b = true) (source : a.Positive)
    (target : b.Positive) : ∃ factor, 0 < factor ∧ a.ConvertsBy base b factor := by
  obtain ⟨_, knownA, knownB⟩ := exists_of_compatibleIn compatible
  exact ⟨_, div_pos source.ratio_pos target.ratio_pos, of_known source target knownA knownB⟩

theorem symm (converts : a.ConvertsBy base b f) (source : a.Positive) (target : b.Positive) :
    b.ConvertsBy base a f⁻¹ := by
  obtain ⟨compatible, rfl⟩ := (convertsBy_iff source target).1 converts
  apply (convertsBy_iff target source).2
  exact ⟨compatibleIn_symm compatible, inv_div _ _⟩

theorem trans (first : a.ConvertsBy base b f) (second : b.ConvertsBy base c g)
    (source : a.Positive) (middle : b.Positive) (target : c.Positive) :
    a.ConvertsBy base c (f * g) := by
  obtain ⟨compatible, rfl⟩ := (convertsBy_iff source middle).1 first
  obtain ⟨compatible', rfl⟩ := (convertsBy_iff middle target).1 second
  apply (convertsBy_iff source target).2
  exact ⟨compatibleIn_trans compatible compatible',
    div_mul_div_cancel₀ middle.ratio_pos.ne'⟩

section Operands

variable (calibratedA : a.Calibrated) (calibratedB : b.Calibrated) (calibratedX : x.Calibrated)
  (calibratedY : y.Calibrated)

include calibratedA calibratedB calibratedX calibratedY

/-- Products of units convert by the product of the factors. -/
theorem productIn (left : a.ConvertsBy base b f) (right : x.ConvertsBy base y g) :
    (a.productIn base x).ConvertsBy base (b.productIn base y) (f * g) := by
  obtain ⟨compatible, rfl⟩ := (convertsBy_iff calibratedA.positive calibratedB.positive).1 left
  obtain ⟨compatible', rfl⟩ := (convertsBy_iff calibratedX.positive calibratedY.positive).1 right
  have source := (calibratedA.productIn calibratedX base).positive
  have target := (calibratedB.productIn calibratedY base).positive
  refine (convertsBy_iff source target).2 ⟨compatibleIn_productIn compatible compatible', ?_⟩
  rw [ratio_productIn base calibratedA calibratedX, ratio_productIn base calibratedB calibratedY,
    div_mul_div_comm]

/-- Quotients of units convert by the quotient of the factors. -/
theorem quotientIn (left : a.ConvertsBy base b f) (right : x.ConvertsBy base y g) :
    (a.quotientIn base x).ConvertsBy base (b.quotientIn base y) (f / g) := by
  obtain ⟨compatible, rfl⟩ := (convertsBy_iff calibratedA.positive calibratedB.positive).1 left
  obtain ⟨compatible', rfl⟩ := (convertsBy_iff calibratedX.positive calibratedY.positive).1 right
  have source := (calibratedA.quotientIn calibratedX base).positive
  have target := (calibratedB.quotientIn calibratedY base).positive
  refine (convertsBy_iff source target).2 ⟨compatibleIn_quotientIn compatible compatible', ?_⟩
  rw [ratio_quotientIn base calibratedA calibratedX, ratio_quotientIn base calibratedB calibratedY,
    div_div_div_comm]

end Operands

end ConvertsBy

/-- Among units with exact positive factors, 1 for pure numbers, a unit of known dimension converts
into itself by 1, compatible units convert both ways by reciprocal factors, the factors of two
conversions in a row multiply, and products and quotients of units convert by the products and
quotients of the factors of their operands. Where the base is frozen, units convert in it and are
multiplied and divided in it. -/
theorem conversions_compose (base : Base) (u v w x y : Unit Exact)
    (calibrated : ∀ unit ∈ [u, v, w, x, y], unit.Calibrated) :
    ((u.dimensionIn? base).isSome = true → u.ConvertsBy base u 1) ∧
    (u.compatibleIn base v = true →
      ∃ f, 0 < f ∧ u.ConvertsBy base v f ∧ v.ConvertsBy base u f⁻¹) ∧
    (∀ f g, u.ConvertsBy base v f → v.ConvertsBy base w g → u.ConvertsBy base w (f * g)) ∧
    (∀ f g, u.ConvertsBy base v f → x.ConvertsBy base y g →
      (u.productIn base x).ConvertsBy base (v.productIn base y) (f * g) ∧
        (u.quotientIn base x).ConvertsBy base (v.quotientIn base y) (f / g)) ∧
    ∀ (bases : Bases) (generation : Generation), bases.base? generation = some base →
      u.compatibleIn base v = true →
      u.conversionTo bases v = u.conversionIn base v ∧
        u.multiply bases x = .ok (u.productIn base x) ∧
        u.divide bases x = .ok (u.quotientIn base x) := by
  simp only [List.forall_mem_cons, List.not_mem_nil, false_implies, implies_true, and_true]
    at calibrated
  obtain ⟨inU, inV, inW, inX, inY⟩ := calibrated
  refine ⟨?_, ?_, ?_, ?_, ?_⟩
  · intro known
    exact .self known inU.positive
  · intro compatible
    obtain ⟨f, positive, converts⟩ := ConvertsBy.of_compatible compatible inU.positive inV.positive
    exact ⟨f, positive, converts, converts.symm inU.positive inV.positive⟩
  · intro f g first second
    exact first.trans second inU.positive inV.positive inW.positive
  · intro f g left right
    exact ⟨.productIn inU inV inX inY left right, .quotientIn inU inV inX inY left right⟩
  · intro bases generation frozen compatible
    obtain ⟨_, known, _⟩ := exists_of_compatibleIn compatible
    have home := base?_of_dimensionIn? frozen known
    simp only [conversionTo, multiply, divide, home, and_self]

/-- A mile per hour is 0.44704 metres per second, and a mile 1.609344 kilometres. -/
theorem conversions_of_speeds :
    let base : Base :=
      ⟨⟨0⟩, ((Registry.single "adimensional").put ⟨"Length"⟩ "metre").put ⟨"Time"⟩ "second"⟩
    let unit := fun name quantity factor =>
      (.simple ⟨name, "", [], ⟨quantity⟩, .of factor, ⟨0⟩, 1⟩ : Unit Exact)
    let mile := unit "mile" "Length" (201168 / 125)
    let metre := unit "metre" "Length" 1
    let kilometre := unit "kilometre" "Length" 1000
    let hour := unit "hour" "Time" 3600
    let second := unit "second" "Time" 1
    (mile.quotientIn base hour).ConvertsBy base (metre.quotientIn base second) (1397 / 3125) ∧
      mile.ConvertsBy base kilometre (25146 / 15625) := by
  intro base unit mile metre kilometre hour second
  have calibrated : ∀ name quantity factor, 0 < factor →
      (⟨quantity⟩ : Quantity) ≠ Quantity.dimensionless →
        (unit name quantity factor).Calibrated := by
    intro name quantity factor positive axis member inside
    rw [List.mem_singleton.1 inside]
    exact ⟨positive, fun pure => absurd pure axis⟩
  have ofMile : mile.Calibrated := calibrated _ _ _ (by norm_num) (by decide)
  have ofMetre : metre.Calibrated := calibrated _ _ _ one_pos (by decide)
  have ofKilometre : kilometre.Calibrated := calibrated _ _ _ (by norm_num) (by decide)
  have ofHour : hour.Calibrated := calibrated _ _ _ (by norm_num) (by decide)
  have ofSecond : second.Calibrated := calibrated _ _ _ one_pos (by decide)
  have inMetres : mile.ConvertsBy base metre _ := .of_known ofMile.positive ofMetre.positive rfl rfl
  have inKilometres : metre.ConvertsBy base kilometre _ :=
    .of_known ofMetre.positive ofKilometre.positive rfl rfl
  have inSeconds : hour.ConvertsBy base second _ :=
    .of_known ofHour.positive ofSecond.positive rfl rfl
  have ratio : ∀ name quantity factor, (unit name quantity factor).ratio = factor := by
    intro name quantity factor
    exact Members.ratio_single _
  simp only [mile, metre, kilometre, hour, second, ratio] at inMetres inKilometres inSeconds
  obtain ⟨_, _, chains, products, _⟩ :=
    conversions_compose base mile metre kilometre hour second (by
      simp only [List.forall_mem_cons]
      exact ⟨ofMile, ofMetre, ofKilometre, ofHour, ofSecond, List.forall_mem_nil _⟩)
  constructor
  · have speed := (products _ _ inMetres inSeconds).2
    norm_num at speed
    exact speed
  · have distance := chains _ _ inMetres inKilometres
    norm_num at distance
    exact distance

end Dimensional.Unit
