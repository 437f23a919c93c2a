import Dimensional.Proofs.BuiltCatalog
import Dimensional.Proofs.Crossing
import Dimensional.Proofs.NotANumber

/-!
What a refused conversion means. A conversion that gives no number is reported as one between
incompatible units. With finite positive factors this is what it means, but for one case: where
products of many factors all become infinite, or all become zero, the quotient of the factors is no
number either, and units that are compatible are refused; a unit may then be refused as a measure of
itself.
-/

set_option autoImplicit false

namespace Dimensional

open Binary64 (Clash)

namespace Unit

/-- The factors of all members are finite and positive. -/
def Scaled (unit : Unit Float) : Prop :=
  unit.allMembers.All fun member => member.factor.isFinite = true ∧ 0 < member.factor

/-- The products of the factors above and below the line are both infinite or both zero. -/
def LosesFactor : Unit Float → Prop
  | simple _ => False
  | composite unit => Clash (Scalar.product (unit.dividend.map (·.factor)))
      (Scalar.product (unit.divisor.map (·.factor)))

/-- No factor is left for a conversion: that of a unit is lost, or the two of them are both infinite
or both zero. -/
def Overruns (source target : Unit Float) : Prop :=
  source.LosesFactor ∨ target.LosesFactor ∨ Clash source.factor target.factor

/-- The units do not measure the same in a base of theirs, or their factors are lost. -/
def Refused (bases : Bases) (source target : Unit Float) : Prop :=
  ¬source.Admitted bases target ∨ source.Overruns target

variable {a b unit : Unit Float}

namespace Scaled

/-- The factor of a simple unit is finite and positive. -/
theorem factor_simple {unit : SimpleUnit Float} (scaled : (simple unit).Scaled) :
    unit.factor.isFinite = true ∧ 0 < unit.factor :=
  scaled unit (List.mem_singleton_self unit)

theorem isNaN_factor_iff (scaled : unit.Scaled) :
    unit.factor.isNaN = true ↔ unit.LosesFactor := by
  obtain ⟨above, below⟩ := List.forall_mem_append.1 scaled
  cases unit with
  | simple unit =>
    have number := Binary64.isNaN_of_isFinite scaled.factor_simple.1
    rw [factor, number]
    exact ⟨nofun, False.elim⟩
  | composite unit =>
    have numberAbove := Binary64.isNaN_product (List.forall_mem_map.2 above)
    have numberBelow := Binary64.isNaN_product (List.forall_mem_map.2 below)
    rw [factor, CompositeUnit.factor, Binary64.isNaN_div_iff, LosesFactor]
    exact ⟨fun either => (either.resolve_left numberAbove).resolve_left numberBelow,
      fun clash => Or.inr (Or.inr clash)⟩

theorem isNaN_factorRatio_iff (left : a.Scaled) (right : b.Scaled) :
    (a.factorRatio b).isNaN = true ↔ a.Overruns b := by
  rw [factorRatio, Binary64.isNaN_div_iff, left.isNaN_factor_iff, right.isNaN_factor_iff, Overruns]

/-- In a base, a conversion gives no number if the units are incompatible or their factors lost. -/
theorem isNaN_conversionIn_iff (left : a.Scaled) (right : b.Scaled) (base : Base) :
    (a.conversionIn base b).isNaN = true ↔ a.compatibleIn base b = false ∨ a.Overruns b := by
  rw [conversionIn]
  by_cases compatible : a.compatibleIn base b = true
  · have admits : ¬a.compatibleIn base b = false := by simp [compatible]
    rw [if_pos compatible, left.isNaN_factorRatio_iff right]
    exact ⟨Or.inr, fun either => either.resolve_left admits⟩
  · rw [if_neg compatible]
    exact ⟨fun _ => Or.inl (Bool.eq_false_iff.2 compatible), fun _ => Binary64.isNaN_undefined⟩

theorem isNaN_conversionTo_iff (left : a.Scaled) (right : b.Scaled) (bases : Bases) :
    (a.conversionTo bases b).isNaN = true ↔ a.Refused bases b := by
  by_cases admitted : a.Admitted bases b
  · rw [admitted.conversion.1, left.isNaN_factorRatio_iff right]
    exact ⟨Or.inr, fun either => either.resolve_left (not_not_intro admitted)⟩
  · rw [(conversion_of_not_admitted admitted).1]
    exact ⟨fun _ => Or.inl admitted, fun _ => Binary64.isNaN_undefined⟩

/-- Simple units never lose their factors. -/
theorem not_overruns_simple {a : SimpleUnit Float} (scaled : (simple a).Scaled)
    (b : SimpleUnit Float) : ¬(simple a).Overruns (simple b) := by
  obtain ⟨finite, positive⟩ := scaled.factor_simple
  rintro (lost | lost | ⟨infinite, _⟩ | ⟨zero, _⟩)
  · exact lost
  · exact lost
  · exact Binary64.not_isInf_of_isFinite finite infinite
  · exact Binary64.ne_zero_of_pos positive zero

/-- A unit of known dimension converts to itself with factor one, unless its factor is lost. -/
theorem conversionIn_self_iff (scaled : unit.Scaled) {base : Base}
    (known : (unit.dimensionIn? base).isSome = true) :
    unit.conversionIn base unit = 1.0 ↔ ¬unit.Overruns unit := by
  obtain ⟨dimension, measured⟩ := Option.isSome_iff_exists.1 known
  have compatible := (compatibleIn_iff measured measured).2 rfl
  constructor
  · intro one overruns
    have undefined := (scaled.isNaN_conversionIn_iff scaled base).2 (Or.inr overruns)
    have number : ¬(1.0 : Float).isNaN = true := by decide +kernel
    exact number (one ▸ undefined)
  · intro kept
    have number : ¬unit.factor.isNaN = true := by
      rw [scaled.isNaN_factor_iff]
      exact fun lost => kept (Or.inl lost)
    have bounded : ¬unit.factor.isInf = true := by
      intro infinite
      exact kept (Or.inr (Or.inr (Or.inl ⟨infinite, infinite⟩)))
    have nonzero : ¬(unit.factor == 0) = true := by
      intro zero
      exact kept (Or.inr (Or.inr (Or.inr ⟨zero, zero⟩)))
    rw [conversionIn, if_pos compatible, factorRatio]
    exact Binary64.div_self_eq_one (Binary64.isFinite_of_number number bounded) nonzero

theorem multiply {c : Unit Float} (left : a.Scaled) (right : b.Scaled) {bases : Bases}
    (multiplied : a.multiply bases b = .ok c) : c.Scaled := by
  rw [Unit.multiply] at multiplied
  split at multiplied
  · rw [← Except.ok.inj multiplied]
    exact (all_membersIn left _).append (all_membersIn right _)
  · cases multiplied

theorem divide {c : Unit Float} (left : a.Scaled) (right : b.Scaled) {bases : Bases}
    (divided : a.divide bases b = .ok c) : c.Scaled := by
  rw [Unit.divide] at divided
  split at divided
  · rw [← Except.ok.inj divided]
    exact (all_membersIn left _).append (all_membersIn right _).inverse
  · cases divided

theorem of_simple {unit : SimpleUnit Float} (finite : unit.factor.isFinite = true)
    (positive : 0 < unit.factor) : (simple unit).Scaled := by
  intro member inside
  rw [List.mem_singleton.1 inside]
  exact ⟨finite, positive⟩

theorem pureUnit (system : QuantitySystem Float) : (simple system.pureUnit).Scaled := by
  have finite : (1.0 : Float).isFinite = true := by decide +kernel
  have positive : (0 : Float) < 1.0 := by decide +kernel
  exact of_simple finite positive

end Scaled

end Unit

namespace Formula

/-- All names are bound in units with finite positive factors. -/
def Environment.Scaled (environment : Environment Float) : Prop :=
  ∀ name value, environment.find? name = some value → value.unit.Scaled

namespace Context

/-- The operands of a sum or a difference that the evaluation of a tree comes to. -/
inductive Adds (context : Context Float) :
    Nat → Expr Float → Value Float → Value Float → Prop where
  | here {depth : Nat} {left right : Expr Float} {operator : Operator} {l r : Value Float}
      (sums : operator = .add ∨ operator = .subtract)
      (onLeft : context.evaluateAt (depth + 1) left = .ok l)
      (onRight : context.evaluateAt (depth + 1) right = .ok r) :
      Adds context depth (.binary left operator right) l r
  | negate {depth : Nat} {operand : Expr Float} {l r : Value Float}
      (inside : Adds context (depth + 1) operand l r) : Adds context depth (.negate operand) l r
  | left {depth : Nat} {left right : Expr Float} {operator : Operator} {l r : Value Float}
      (inside : Adds context (depth + 1) left l r) :
      Adds context depth (.binary left operator right) l r
  | right {depth : Nat} {left right : Expr Float} {operator : Operator} {before l r : Value Float}
      (onLeft : context.evaluateAt (depth + 1) left = .ok before)
      (inside : Adds context (depth + 1) right l r) :
      Adds context depth (.binary left operator right) l r

variable {context : Context Float} {depth : Nat} {left right : String}

theorem scaled_evaluateAt (scaled : context.environment.Scaled) (expr : Expr Float) (depth : Nat)
    (value : Value Float) (computed : context.evaluateAt depth expr = .ok value) :
    value.unit.Scaled :=
  unit_of_evaluateAt (Unit.Scaled.pureUnit context.system)
    (fun _ _ _ left right multiplied => left.multiply right multiplied)
    (fun _ _ _ left right divided => left.divide right divided) scaled expr depth value computed

theorem scaled_evaluate (scaled : context.environment.Scaled) {expr : Expr Float}
    {value : Value Float} (computed : context.evaluate expr = .ok value) : value.unit.Scaled := by
  rw [evaluate] at computed
  split at computed
  · cases computed
  · exact scaled_evaluateAt scaled expr 1 value computed

theorem Adds.scaled (scaled : context.environment.Scaled) {expr : Expr Float}
    {l r : Value Float} (adds : context.Adds depth expr l r) : l.unit.Scaled ∧ r.unit.Scaled := by
  induction adds with
  | here sums onLeft onRight =>
    exact ⟨scaled_evaluateAt scaled _ _ _ onLeft, scaled_evaluateAt scaled _ _ _ onRight⟩
  | negate inside ih => exact ih
  | left inside ih => exact ih
  | right onLeft inside ih => exact ih

/-- An operation reports incompatible units only where a sum or a difference has no factor. -/
theorem apply_incompatibleUnits {operator : Operator} {l r : Value Float}
    (failed : context.apply operator l r = .error (.incompatibleUnits left right)) :
    (operator = .add ∨ operator = .subtract) ∧ left = l.unit.name ∧ right = r.unit.name ∧
      (l.unit.conversionTo context.bases r.unit).isNaN = true := by
  cases operator with
  | add =>
    obtain ⟨same, undefined⟩ := combine_error failed
    cases same
    exact ⟨Or.inl rfl, rfl, rfl, undefined⟩
  | subtract =>
    obtain ⟨same, undefined⟩ := combine_error failed
    cases same
    exact ⟨Or.inr rfl, rfl, rfl, undefined⟩
  | multiply =>
    obtain ⟨cause, _, same⟩ := withUnit_error failed
    cases same
  | divide =>
    obtain ⟨cause, _, same⟩ := withUnit_error failed
    cases same
  | power =>
    rw [apply] at failed
    split at failed <;> cases failed
  | modulo => cases failed

/-- Evaluation reports incompatible units only for the operands of a sum or a difference between
which no conversion gives a number. -/
theorem adds_of_incompatibleUnits {expr : Expr Float}
    (failed : context.evaluateAt depth expr = .error (.incompatibleUnits left right)) :
    ∃ l r, context.Adds depth expr l r ∧ left = l.unit.name ∧ right = r.unit.name ∧
      (l.unit.conversionTo context.bases r.unit).isNaN = true := by
  replace failed := fails_of_evaluateAt failed
  generalize shape : EvalError.incompatibleUnits left right = error at failed
  induction failed with
  | operand inside ih =>
    obtain ⟨l, r, adds, named⟩ := ih shape
    exact ⟨l, r, .negate adds, named⟩
  | left onLeft ih =>
    obtain ⟨l, r, adds, named⟩ := ih shape
    exact ⟨l, r, .left adds, named⟩
  | right onLeft onRight ih =>
    obtain ⟨l, r, adds, named⟩ := ih shape
    exact ⟨l, r, .right onLeft adds, named⟩
  | operation onLeft onRight refused =>
    cases shape
    obtain ⟨sums, named⟩ := apply_incompatibleUnits refused
    exact ⟨_, _, .here sums onLeft onRight, named⟩
  | deep | unbound | invalid => cases shape

theorem exists_of_incompatibleUnits (scaled : context.environment.Scaled) {expr : Expr Float}
    (failed : context.evaluate expr = .error (.incompatibleUnits left right)) :
    ∃ l r, context.Adds 1 expr l r ∧ left = l.unit.name ∧ right = r.unit.name ∧
      l.unit.Refused context.bases r.unit := by
  rw [evaluate] at failed
  split at failed
  · cases failed
  obtain ⟨l, r, adds, named, named', undefined⟩ := adds_of_incompatibleUnits failed
  obtain ⟨scaledL, scaledR⟩ := adds.scaled scaled
  exact ⟨l, r, adds, named, named', (scaledL.isNaN_conversionTo_iff scaledR _).1 undefined⟩

end Context

/-- Expressing a value is refused as incompatible only where the conversion gives no number. -/
theorem expressIn_error {bases : Bases} {value : Value Float} {target : Unit Float}
    {error : FormulaError} (failed : expressIn bases value target = .error error) :
    error = .incompatible value.unit.name target.name ∧
      (value.unit.conversionTo bases target).isNaN = true := by
  rw [expressIn] at failed
  split at failed
  · next undefined => exact ⟨(Except.error.inj failed).symm, undefined⟩
  · cases failed

theorem evaluate_of_evaluate {context : Context Float} {formula : Formula} {value : Value Float}
    (computed : formula.evaluate context = .ok value) :
    context.evaluate formula.expr = .ok value := by
  rw [Formula.evaluate, evaluateExpr] at computed
  split at computed
  · next evaluated => rw [evaluated, Except.ok.inj computed]
  · cases computed

/-- Evaluating a formula fails with an error of the evaluation. -/
theorem evaluate_error {context : Context Float} {formula : Formula} {error : FormulaError}
    (failed : formula.evaluate context = .error error) : ∃ cause, error = .eval cause := by
  rw [Formula.evaluate, evaluateExpr] at failed
  split at failed
  · cases failed
  · next cause _ => exact ⟨cause, (Except.error.inj failed).symm⟩

theorem exists_of_incompatible {context : Context Float} (scaled : context.environment.Scaled)
    {formula : Formula} {target : Unit Float} (scaledTarget : target.Scaled)
    {source name : String}
    (failed : formula.evaluateAs context target = .error (.incompatible source name)) :
    ∃ value, formula.evaluate context = .ok value ∧ source = value.unit.name ∧
      name = target.name ∧ value.unit.Refused context.bases target := by
  rw [evaluateAs] at failed
  cases computed : formula.evaluate context with
  | error error =>
    obtain ⟨cause, rfl⟩ := evaluate_error computed
    rw [computed] at failed
    cases failed
  | ok value =>
    rw [computed] at failed
    obtain ⟨same, undefined⟩ := expressIn_error failed
    have scaledValue := Context.scaled_evaluate scaled (evaluate_of_evaluate computed)
    have refused := (scaledValue.isNaN_conversionTo_iff scaledTarget context.bases).1 undefined
    cases same
    exact ⟨value, rfl, rfl, rfl, refused⟩

end Formula

namespace Catalog

variable {declaration : Declaration} {composites : List (CompositeUnit Float)} {catalog : Catalog}

theorem BuiltFrom.scaled (built : BuiltFrom declaration composites catalog)
    (valid : declaration.Valid) {unit : Unit Float} (inside : unit ∈ catalog.units) :
    unit.Scaled := by
  refine built.all_members ?_ inside
  intro member place
  obtain ⟨declared, listed, described⟩ :=
    exists_of_forall₂ (simpleUnits_describe 1 declaration.units).flip place
  rw [described.factor]
  exact valid.factors declared listed

/-- All that a built catalog offers has finite positive factors. -/
theorem scaled_of_build (built : build declaration = .ok catalog) :
    catalog.environment.Scaled ∧
      ∀ name unit, catalog.unit? name = some unit → unit.Scaled := by
  obtain ⟨composites, valid, made⟩ := exists_builtFrom built
  have listed : ∀ unit ∈ catalog.units, unit.Scaled := fun _ => made.scaled valid
  have pure := Unit.Scaled.pureUnit catalog.system
  exact ⟨fun _ _ found => made.unit_of_find? valid listed pure found,
    fun _ _ found => unit_of_unit? listed pure found⟩

theorem convertText_of_found {source target : String} {a b : Unit Float}
    (here : catalog.unit? source = some a) (there : catalog.unit? target = some b) :
    catalog.convertText source target =
      if (a.conversionTo catalog.bases b).isNaN then .error (.incompatible source target)
      else .ok ("1 " ++ a.name ++ " = " ++
        NumberStyle.plain.render (a.conversionTo catalog.bases b) ++ " " ++ b.name ++ "\n") := by
  simp only [convertText, requireUnit, here, there]
  rfl

/-- A built catalog calls two units incompatible when the conversion between them is refused. -/
theorem convertText_incompatible_iff (built : build declaration = .ok catalog)
    (source target left right : String) :
    catalog.convertText source target = .error (.incompatible left right) ↔
      left = source ∧ right = target ∧ ∃ a b, catalog.unit? source = some a ∧
        catalog.unit? target = some b ∧ a.Refused catalog.bases b := by
  obtain ⟨_, scaled⟩ := scaled_of_build built
  constructor
  · intro failed
    cases here : catalog.unit? source with
    | none =>
      simp only [convertText, requireUnit, here] at failed
      cases failed
    | some a =>
      cases there : catalog.unit? target with
      | none =>
        simp only [convertText, requireUnit, here, there] at failed
        cases failed
      | some b =>
        rw [convertText_of_found here there] at failed
        split at failed
        · next undefined =>
          cases failed
          have judged := (scaled _ a here).isNaN_conversionTo_iff (scaled _ b there) catalog.bases
          exact ⟨rfl, rfl, a, b, rfl, rfl, judged.1 undefined⟩
        · cases failed
  · rintro ⟨rfl, rfl, a, b, here, there, refused⟩
    have undefined := ((scaled _ a here).isNaN_conversionTo_iff (scaled _ b there) _).2 refused
    rw [convertText_of_found here there, if_pos undefined]

end Catalog

/-- With finite positive factors, a conversion gives no number exactly if the units are incompatible
or their factors are lost, and a unit of known dimension is one of itself exactly if its factor is
not lost, as that of a simple unit never is. So wherever operands of a sum, a value and a wanted
unit or two units of a catalog are reported as incompatible, they are, or their factors are lost. -/
theorem refusal_of_scaled (base : Base) (context : Formula.Context Float)
    (scaled : context.environment.Scaled) (a b : Unit Float) (scaledA : a.Scaled)
    (scaledB : b.Scaled) :
    ((a.conversionIn base b).isNaN = true ↔ a.compatibleIn base b = false ∨ a.Overruns b) ∧
    ((a.dimensionIn? base).isSome = true → (a.conversionIn base a = 1.0 ↔ ¬a.Overruns a)) ∧
    (∀ simple other, a = .simple simple → b = .simple other → ¬a.Overruns b) ∧
    (∀ expr left right, context.evaluate expr = .error (.incompatibleUnits left right) →
      ∃ l r, context.Adds 1 expr l r ∧ left = l.unit.name ∧ right = r.unit.name ∧
        l.unit.Refused context.bases r.unit) ∧
    (∀ (formula : Formula) (source target : String),
      formula.evaluateAs context b = .error (.incompatible source target) →
      ∃ value, formula.evaluate context = .ok value ∧ source = value.unit.name ∧
        target = b.name ∧ value.unit.Refused context.bases b) ∧
    ∀ declaration catalog, Catalog.build declaration = .ok catalog →
      catalog.environment.Scaled ∧ (∀ name unit, catalog.unit? name = some unit → unit.Scaled) ∧
      ∀ source target left right,
        catalog.convertText source target = .error (.incompatible left right) ↔
          left = source ∧ right = target ∧ ∃ a b, catalog.unit? source = some a ∧
            catalog.unit? target = some b ∧ a.Refused catalog.bases b := by
  have judged := scaledA.isNaN_conversionIn_iff scaledB base
  refine ⟨judged, scaledA.conversionIn_self_iff, ?_, ?_, ?_, ?_⟩
  · intro simple other shape shape'
    subst shape shape'
    exact scaledA.not_overruns_simple other
  · intro expr left right failed
    exact Formula.Context.exists_of_incompatibleUnits scaled failed
  · intro formula source target failed
    exact Formula.exists_of_incompatible scaled scaledB failed
  · intro declaration catalog built
    obtain ⟨values, units⟩ := Catalog.scaled_of_build built
    exact ⟨values, units, Catalog.convertText_incompatible_iff built⟩

open Formula Formula.Context

/-- A length of so many metres that its square overflows. -/
def span : SimpleUnit Float := ⟨"span", "", [], ⟨"Length"⟩, 1e200, ⟨0⟩, 2⟩

/-- A square of spans. -/
def region : Unit Float := .composite ⟨"region", "", [], [span, span], [], ⟨0⟩⟩

/-- A place as large as a region. -/
def sites : List (String × Value Float) := [("site", .of 1.0 region)]

theorem all_members_region {holds : SimpleUnit Float → Prop} (spans : holds span) :
    region.allMembers.All holds := by
  intro member inside
  change member ∈ [span, span] at inside
  have same : member = span := by simpa using inside
  rw [same]
  exact spans

theorem scaled_region : region.Scaled :=
  all_members_region ⟨by decide +kernel, by decide +kernel⟩

theorem known_region : (region.dimensionIn? (lengths sites).system.layout).isSome = true := by
  apply (region.isSome_dimensionIn?_iff _).2
  exact ⟨rfl, all_members_region ⟨rfl, by decide⟩⟩

theorem overruns_region : region.Overruns region := by
  have infinite : region.factor.isInf = true := by decide +kernel
  exact Or.inr (Or.inr (Or.inl ⟨infinite, infinite⟩))

theorem evaluate_sites :
    (lengths sites).evaluate (.binary (.identifier "site") .add (.identifier "site")) =
      .error (.incompatibleUnits "region" "region") := by
  have undefined := (scaled_region.isNaN_conversionTo_iff scaled_region (lengths sites).bases).2
    (Or.inr overruns_region)
  change (lengths sites).combine (· + ·) (.of 1.0 region) (.of 1.0 region) = _
  exact if_pos undefined

/-- A metre is one metre, but a region is refused as a measure of regions, and so is the sum of two
of them. -/
theorem refusal_of_regions :
    let metre : SimpleUnit Float := ⟨"metre", "m", [], ⟨"Length"⟩, 1.0, ⟨0⟩, 1⟩
    let sum : Expr Float := .binary (.identifier "site") .add (.identifier "site")
    (Unit.simple metre).conversionIn (lengths sites).system.layout (.simple metre) = 1.0 ∧
      (region.conversionIn (lengths sites).system.layout region).isNaN = true ∧
      ∃ l r, (lengths sites).Adds 1 sum l r ∧ l.unit.Refused (lengths sites).bases r.unit := by
  intro metre sum
  have scaledMetre : (Unit.simple metre).Scaled :=
    Unit.Scaled.of_simple (by decide +kernel) (by decide +kernel)
  have scaled : (lengths sites).environment.Scaled := by
    intro name value found
    have bound : (name, value) ∈ sites := Environment.mem_of_find? found
    rw [(Prod.mk.inj (List.mem_singleton.1 bound)).2]
    exact scaled_region
  obtain ⟨_, itself, simple, _⟩ := refusal_of_scaled (lengths sites).system.layout (lengths sites)
    scaled (.simple metre) (.simple metre) scaledMetre scaledMetre
  obtain ⟨undefined, _, _, report, _⟩ := refusal_of_scaled (lengths sites).system.layout
    (lengths sites) scaled region region scaled_region scaled_region
  obtain ⟨l, r, adds, _, _, refused⟩ := report sum _ _ evaluate_sites
  exact ⟨(itself rfl).2 (simple metre metre rfl rfl), undefined.2 (Or.inr overruns_region), l, r,
    adds, refused⟩

/-- A region is compatible with itself, but the conversion of regions into regions gives no number,
and evaluation reports the sum of two of them as one of incompatible units. -/
theorem compatible_regions_refused :
    let base := (lengths sites).system.layout
    region.Scaled ∧ (region.dimensionIn? base).isSome = true ∧
      region.compatibleIn base region = true ∧ (region.conversionIn base region).isNaN = true ∧
      region.conversionIn base region ≠ 1.0 ∧
      (lengths sites).evaluate (.binary (.identifier "site") .add (.identifier "site")) =
        .error (.incompatibleUnits "region" "region") := by
  intro base
  have undefined := (scaled_region.isNaN_conversionIn_iff scaled_region base).2
    (Or.inr overruns_region)
  have known : (region.dimensionIn? base).isSome = true := known_region
  obtain ⟨dimension, measured⟩ := Option.isSome_iff_exists.1 known
  have different : region.conversionIn base region ≠ 1.0 := by
    intro one
    have number : ¬(1.0 : Float).isNaN = true := by decide +kernel
    exact number (one ▸ undefined)
  exact ⟨scaled_region, known, (Unit.compatibleIn_iff measured measured).2 rfl, undefined,
    different, evaluate_sites⟩

end Dimensional
