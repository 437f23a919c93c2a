import Dimensional.Proofs.Exact

/-!
Units with exact factors. A calibrated unit has positive factors, and 1 for pure numbers. The factor
of a unit with positive factors is the product of its members' factors above the line over that of
those below it; products and quotients of calibrated units multiply and divide it, because the
members they leave out have factor 1.
-/

set_option autoImplicit false

namespace Dimensional

/-- The factor as a rational number; zero for an undefined one. -/
def SimpleUnit.ratio (unit : SimpleUnit Exact) : ℚ := unit.factor.value?.getD 0

structure SimpleUnit.Calibrated (unit : SimpleUnit Exact) : Prop where
  positive : 0 < unit.ratio
  pure : unit.quantity = Quantity.dimensionless → unit.ratio = 1

theorem SimpleUnit.factor_eq_of_pos {unit : SimpleUnit Exact} (positive : 0 < unit.ratio) :
    unit.factor = .of unit.ratio := by
  unfold ratio at positive ⊢
  cases shape : unit.factor with
  | of value => rfl
  | undefined =>
    rw [shape] at positive
    exact absurd positive (lt_irrefl 0)

namespace Members

/-- The product of the factors above the line over that of those below it. -/
def ratio (members : Members Exact) : ℚ :=
  (members.dividend.map (·.ratio)).prod / (members.divisor.map (·.ratio)).prod

theorem ratio_single (unit : SimpleUnit Exact) : ratio ⟨[unit], []⟩ = unit.ratio := by
  simp [ratio]

theorem ratio_append (a b : Members Exact) : (a.append b).ratio = a.ratio * b.ratio := by
  simp only [ratio, append, List.map_append, List.prod_append]
  exact mul_div_mul_comm _ _ _ _

theorem ratio_inverse (a : Members Exact) : a.inverse.ratio = a.ratio⁻¹ := by
  rw [ratio, ratio, inv_div]
  rfl

theorem prod_ratio_pos {members : List (SimpleUnit Exact)}
    (positive : ∀ member ∈ members, 0 < member.ratio) : 0 < (members.map (·.ratio)).prod := by
  apply List.prod_pos
  intro factor inside
  obtain ⟨member, listed, rfl⟩ := List.mem_map.1 inside
  exact positive member listed

theorem ratio_pos {members : Members Exact}
    (positive : members.All fun member => 0 < member.ratio) : 0 < members.ratio := by
  obtain ⟨above, below⟩ := List.forall_mem_append.1 positive
  exact div_pos (prod_ratio_pos above) (prod_ratio_pos below)

theorem prod_ratio_filter_mul (keep : SimpleUnit Exact → Bool) (members : List (SimpleUnit Exact)) :
    ((members.filter keep).map (·.ratio)).prod *
        ((members.filter fun member => !keep member).map (·.ratio)).prod =
      (members.map (·.ratio)).prod := by
  rw [← List.prod_append, ← List.map_append]
  exact ((List.filter_append_perm keep members).map (·.ratio)).prod_eq

/-- What is kept and what is left out make up the whole. -/
theorem ratio_filter_mul (keep : SimpleUnit Exact → Bool) (members : Members Exact) :
    (members.filter keep).ratio * (members.filter fun member => !keep member).ratio =
      members.ratio := by
  simp only [ratio, filter]
  rw [div_mul_div_comm, prod_ratio_filter_mul, prod_ratio_filter_mul]

/-- Members of factor 1 do not count. -/
theorem ratio_eq_one {members : Members Exact}
    (neutral : members.All fun member => member.ratio = 1) : members.ratio = 1 := by
  obtain ⟨above, below⟩ := List.forall_mem_append.1 neutral
  have up := List.prod_eq_one (List.forall_mem_map.2 above)
  have down := List.prod_eq_one (List.forall_mem_map.2 below)
  rw [ratio, up, down, div_one]

end Members

namespace Unit

def Calibrated (unit : Unit Exact) : Prop := unit.allMembers.All SimpleUnit.Calibrated

/-- All factors are positive, those of pure numbers too. -/
def Positive (unit : Unit Exact) : Prop := unit.allMembers.All fun member => 0 < member.ratio

def ratio (unit : Unit Exact) : ℚ := unit.allMembers.ratio

/-- The members that products and quotients leave out. -/
def droppedIn (base : Base) (unit : Unit Exact) : Members Exact :=
  unit.allMembers.filter fun member => member.isDimensionlessIn base

variable {a b unit : Unit Exact}

theorem Calibrated.positive (calibrated : unit.Calibrated) : unit.Positive :=
  fun member inside => (calibrated member inside).positive

namespace Positive

theorem ratio_pos (positive : unit.Positive) : 0 < unit.ratio := Members.ratio_pos positive

theorem factor_eq (positive : unit.Positive) : unit.factor = .of unit.ratio := by
  obtain ⟨above, below⟩ := List.forall_mem_append.1 positive
  cases unit with
  | simple unit =>
    have exactFactor := SimpleUnit.factor_eq_of_pos (above unit (List.mem_singleton_self unit))
    rw [factor, exactFactor, ratio, allMembers, Members.ratio_single]
  | composite unit =>
    have up := Exact.product_of (·.factor) (·.ratio) unit.dividend
      fun member inside => SimpleUnit.factor_eq_of_pos (above member inside)
    have down := Exact.product_of (·.factor) (·.ratio) unit.divisor
      fun member inside => SimpleUnit.factor_eq_of_pos (below member inside)
    have nonzero : (unit.divisor.map (·.ratio)).prod ≠ 0 := (Members.prod_ratio_pos below).ne'
    rw [factor, CompositeUnit.factor, up, down, Exact.of_div _ nonzero]
    rfl

theorem factorRatio_eq (left : a.Positive) (right : b.Positive) :
    a.factorRatio b = .of (a.ratio / b.ratio) := by
  rw [factorRatio, factor_eq left, factor_eq right, Exact.of_div _ (ratio_pos right).ne']

end Positive

theorem ratio_pos (calibrated : unit.Calibrated) : 0 < unit.ratio := calibrated.positive.ratio_pos

theorem factor_eq (calibrated : unit.Calibrated) : unit.factor = .of unit.ratio :=
  calibrated.positive.factor_eq

theorem factorRatio_eq (left : a.Calibrated) (right : b.Calibrated) :
    a.factorRatio b = .of (a.ratio / b.ratio) :=
  left.positive.factorRatio_eq right.positive

theorem ratio_membersIn_mul (base : Base) (unit : Unit Exact) :
    (unit.membersIn base).ratio * (unit.droppedIn base).ratio = unit.ratio := by
  have parts := unit.allMembers.ratio_filter_mul fun member => !member.isDimensionlessIn base
  simp only [Bool.not_not] at parts
  rw [membersIn_eq]
  exact parts

theorem ratio_droppedIn (base : Base) (calibrated : unit.Calibrated) :
    (unit.droppedIn base).ratio = 1 := by
  apply Members.ratio_eq_one
  intro member dropped
  simp only [droppedIn, Members.filter, ← List.filter_append, List.mem_filter] at dropped
  obtain ⟨inside, pure⟩ := dropped
  exact (calibrated member inside).pure (SimpleUnit.quantity_of_isDimensionlessIn pure)

theorem ratio_membersIn (base : Base) (calibrated : unit.Calibrated) :
    (unit.membersIn base).ratio = unit.ratio := by
  rw [← ratio_membersIn_mul base unit, ratio_droppedIn base calibrated, mul_one]

/-- The members that a product leaves out have factor 1. -/
theorem ratio_productIn (base : Base) (left : a.Calibrated) (right : b.Calibrated) :
    (a.productIn base b).ratio = a.ratio * b.ratio := by
  change ((a.membersIn base).append (b.membersIn base)).ratio = _
  rw [Members.ratio_append, ratio_membersIn base left, ratio_membersIn base right]

theorem ratio_quotientIn (base : Base) (left : a.Calibrated) (right : b.Calibrated) :
    (a.quotientIn base b).ratio = a.ratio / b.ratio := by
  change ((a.membersIn base).append (b.membersIn base).inverse).ratio = _
  rw [Members.ratio_append, Members.ratio_inverse, ratio_membersIn base left,
    ratio_membersIn base right, div_eq_mul_inv]

theorem Calibrated.productIn (left : a.Calibrated) (right : b.Calibrated) (base : Base) :
    (a.productIn base b).Calibrated :=
  (all_membersIn left base).append (all_membersIn right base)

theorem Calibrated.quotientIn (left : a.Calibrated) (right : b.Calibrated) (base : Base) :
    (a.quotientIn base b).Calibrated :=
  (all_membersIn left base).append (all_membersIn right base).inverse

end Unit

end Dimensional
