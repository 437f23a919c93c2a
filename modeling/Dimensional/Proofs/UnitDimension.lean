import Dimensional.Unit.Product
import Dimensional.Proofs.BaseLayout

/-!
The dimension of a unit as a sum over its members. A unit is known in a base when it and all its
members are; each slot then holds what the members above the line contribute less what those below
it do. Members that are left out of a product contribute nothing, so products add dimensions and
quotients subtract them.
-/

set_option autoImplicit false

namespace Dimensional

variable {α : Type}

/-- What a unit contributes to a slot; nothing if its dimension is unknown. -/
def SimpleUnit.exponentIn (base : Base) (slot : Nat) (unit : SimpleUnit α) : Int :=
  ((unit.dimensionIn? base).map fun dimension => dimension.component slot).getD 0

/-- What the members of a list contribute to a slot together. -/
def exponentSum (base : Base) (slot : Nat) : List (SimpleUnit α) → Int
  | [] => 0
  | member :: rest => member.exponentIn base slot + exponentSum base slot rest

theorem exponentSum_append (base : Base) (slot : Nat) (a b : List (SimpleUnit α)) :
    exponentSum base slot (a ++ b) = exponentSum base slot a + exponentSum base slot b := by
  induction a with
  | nil => simp [exponentSum]
  | cons member rest ih =>
    rw [List.cons_append, exponentSum, exponentSum, ih]
    omega

namespace Members

/-- A property of all members, above the line and below it. -/
def All (holds : SimpleUnit α → Prop) (members : Members α) : Prop :=
  ∀ member ∈ members.dividend ++ members.divisor, holds member

def KnownIn (base : Base) : Members α → Prop :=
  All fun member => (member.dimensionIn? base).isSome = true

def exponentIn (base : Base) (slot : Nat) (members : Members α) : Int :=
  exponentSum base slot members.dividend - exponentSum base slot members.divisor

/-- The members that a test accepts. -/
def filter (keep : SimpleUnit α → Bool) (members : Members α) : Members α :=
  ⟨members.dividend.filter keep, members.divisor.filter keep⟩

theorem exponentIn_append (base : Base) (slot : Nat) (a b : Members α) :
    (a.append b).exponentIn base slot = a.exponentIn base slot + b.exponentIn base slot := by
  simp only [exponentIn, append, exponentSum_append]
  omega

theorem exponentIn_inverse (base : Base) (slot : Nat) (a : Members α) :
    a.inverse.exponentIn base slot = -a.exponentIn base slot := by
  simp only [exponentIn, inverse]
  omega

theorem All.append {holds : SimpleUnit α → Prop} {a b : Members α} (left : a.All holds)
    (right : b.All holds) : (a.append b).All holds := by
  intro member inside
  simp only [Members.append, List.mem_append] at inside
  rcases inside with (inA | inB) | (inA | inB)
  · exact left member (List.mem_append_left _ inA)
  · exact right member (List.mem_append_left _ inB)
  · exact left member (List.mem_append_right _ inA)
  · exact right member (List.mem_append_right _ inB)

theorem All.inverse {holds : SimpleUnit α → Prop} {a : Members α} (all : a.All holds) :
    a.inverse.All holds := fun member inside =>
  all member (List.mem_append.2 (List.mem_append.1 inside).symm)

theorem All.filter {holds : SimpleUnit α → Prop} {a : Members α} (all : a.All holds)
    (keep : SimpleUnit α → Bool) : (a.filter keep).All holds := by
  intro member inside
  apply all member
  simp only [Members.filter, List.mem_append, List.mem_filter] at inside ⊢
  exact inside.imp And.left And.left

end Members

/-- All members of a unit, those without a dimension too. -/
def Unit.allMembers : Unit α → Members α
  | simple unit => ⟨[unit], []⟩
  | composite unit => ⟨unit.dividend, unit.divisor⟩

theorem SimpleUnit.dimensionIn?_eq_some_iff (base : Base) (unit : SimpleUnit α)
    (dimension : Dimension) :
    unit.dimensionIn? base = some dimension ↔
      unit.generation = base.generation ∧ base.dimension? unit.quantity = some dimension := by
  unfold dimensionIn?
  split
  · next native => exact ⟨fun found => ⟨native, found⟩, And.right⟩
  · next foreign =>
    constructor
    · intro found
      cases found
    · rintro ⟨native, _⟩
      exact absurd native foreign

theorem SimpleUnit.size_of_dimensionIn? {base : Base} {unit : SimpleUnit α}
    {dimension : Dimension} (known : unit.dimensionIn? base = some dimension) :
    dimension.size = base.rank :=
  Base.size_of_dimension? ((unit.dimensionIn?_eq_some_iff base dimension).1 known).2

theorem isSome_foldDimensions (combine : Dimension → Dimension → Dimension) (base : Base)
    (start : Dimension) (members : List (SimpleUnit α)) :
    (foldDimensions combine base start members).isSome = true ↔
      ∀ member ∈ members, (member.dimensionIn? base).isSome = true := by
  induction members generalizing start with
  | nil => simp [foldDimensions]
  | cons member rest ih =>
    rw [foldDimensions]
    cases known : member.dimensionIn? base with
    | none => simp [known]
    | some dimension => simp [known, ih]

/-- A fold that adds or subtracts exists when all members are known, and works in each slot. -/
theorem foldDimensions_eq_some_iff (combine : Dimension → Dimension → Dimension) (sign : Int)
    (sizes : ∀ a b, (combine a b).size = max a.size b.size)
    (components : ∀ a b slot,
      (combine a b).component slot = a.component slot + sign * b.component slot)
    (base : Base) (members : List (SimpleUnit α)) (start total : Dimension)
    (sized : start.size = base.rank) :
    foldDimensions combine base start members = some total ↔
      (∀ member ∈ members, (member.dimensionIn? base).isSome = true) ∧ total.size = base.rank ∧
        ∀ slot, total.component slot =
          start.component slot + sign * exponentSum base slot members := by
  induction members generalizing start with
  | nil =>
    simp only [foldDimensions, Option.some.injEq, List.not_mem_nil, false_implies, implies_true,
      exponentSum, Int.mul_zero, Int.add_zero, true_and]
    constructor
    · rintro rfl
      exact ⟨sized, fun _ => rfl⟩
    · rintro ⟨size, same⟩
      exact Dimension.ext_components (sized.trans size.symm) (fun slot => (same slot).symm)
  | cons member rest ih =>
    rw [foldDimensions]
    cases known : member.dimensionIn? base with
    | none => simp [known]
    | some dimension =>
      have size := SimpleUnit.size_of_dimensionIn? known
      have next : (combine start dimension).size = base.rank := by
        rw [sizes, sized, size, Nat.max_self]
      have contributes : ∀ slot, member.exponentIn base slot = dimension.component slot := by
        intro slot
        simp [SimpleUnit.exponentIn, known]
      simp only [ih _ next, components, List.forall_mem_cons, known, Option.isSome_some, true_and,
        exponentSum, contributes, Int.mul_add, Int.add_assoc]

theorem foldDimensions_add_eq_some_iff (base : Base) (members : List (SimpleUnit α))
    (start total : Dimension) (sized : start.size = base.rank) :
    foldDimensions (· + ·) base start members = some total ↔
      (∀ member ∈ members, (member.dimensionIn? base).isSome = true) ∧ total.size = base.rank ∧
        ∀ slot, total.component slot =
          start.component slot + exponentSum base slot members := by
  have folded := foldDimensions_eq_some_iff (· + ·) 1 Dimension.size_add
    (fun a b slot => by rw [Dimension.component_add, Int.one_mul]) base members start total sized
  simpa only [Int.one_mul] using folded

theorem foldDimensions_sub_eq_some_iff (base : Base) (members : List (SimpleUnit α))
    (start total : Dimension) (sized : start.size = base.rank) :
    foldDimensions (· - ·) base start members = some total ↔
      (∀ member ∈ members, (member.dimensionIn? base).isSome = true) ∧ total.size = base.rank ∧
        ∀ slot, total.component slot =
          start.component slot - exponentSum base slot members := by
  have folded := foldDimensions_eq_some_iff (· - ·) (-1) Dimension.size_sub
    (fun a b slot => by rw [Dimension.component_sub]; omega) base members start total sized
  simpa only [Int.neg_mul, Int.one_mul, ← Int.sub_eq_add_neg] using folded

theorem CompositeUnit.dimensionIn?_eq_some_iff (base : Base) (unit : CompositeUnit α)
    (dimension : Dimension) :
    unit.dimensionIn? base = some dimension ↔
      unit.generation = base.generation ∧
        (⟨unit.dividend, unit.divisor⟩ : Members α).KnownIn base ∧ dimension.size = base.rank ∧
        ∀ slot, dimension.component slot =
          (⟨unit.dividend, unit.divisor⟩ : Members α).exponentIn base slot := by
  have sums := fun above => foldDimensions_add_eq_some_iff base unit.dividend
    (Dimension.zeros base.rank) above (Dimension.size_zeros base.rank)
  simp only [Dimension.component_zeros, Int.zero_add] at sums
  simp only [Members.KnownIn, Members.All, Members.exponentIn, List.forall_mem_append]
  unfold dimensionIn?
  split
  · next native =>
    simp only [native, true_and, Option.bind_eq_some_iff]
    constructor
    · rintro ⟨above, up, down⟩
      obtain ⟨knownUp, size, slots⟩ := (sums above).1 up
      obtain ⟨knownDown, total, differences⟩ :=
        (foldDimensions_sub_eq_some_iff base unit.divisor above dimension size).1 down
      exact ⟨⟨knownUp, knownDown⟩, total, fun slot => by rw [differences, slots]⟩
    · rintro ⟨⟨knownUp, knownDown⟩, total, differences⟩
      obtain ⟨above, up⟩ := Option.isSome_iff_exists.1
        ((isSome_foldDimensions (· + ·) base (Dimension.zeros base.rank) unit.dividend).2 knownUp)
      obtain ⟨_, size, slots⟩ := (sums above).1 up
      refine ⟨above, up, (foldDimensions_sub_eq_some_iff base _ above _ size).2 ?_⟩
      exact ⟨knownDown, total, fun slot => by rw [differences, slots]⟩
  · next foreign =>
    constructor
    · intro found
      cases found
    · rintro ⟨native, _⟩
      exact absurd native foreign

/-- The dimension of a unit, slot by slot. -/
theorem Unit.dimensionIn?_eq_some_iff (base : Base) (unit : Unit α) (dimension : Dimension) :
    unit.dimensionIn? base = some dimension ↔
      unit.generation = base.generation ∧ unit.allMembers.KnownIn base ∧
        dimension.size = base.rank ∧
        ∀ slot, dimension.component slot = unit.allMembers.exponentIn base slot := by
  cases unit with
  | composite unit => exact unit.dimensionIn?_eq_some_iff base dimension
  | simple unit =>
    simp only [Unit.dimensionIn?, Unit.generation, allMembers, Members.KnownIn, Members.All,
      Members.exponentIn, List.append_nil, List.forall_mem_singleton, exponentSum, Int.add_zero,
      Int.sub_zero]
    constructor
    · intro known
      have native := ((unit.dimensionIn?_eq_some_iff base dimension).1 known).1
      exact ⟨native, by simp [known], SimpleUnit.size_of_dimensionIn? known,
        fun slot => by simp [SimpleUnit.exponentIn, known]⟩
    · rintro ⟨_, known, size, slots⟩
      obtain ⟨found, shape⟩ := Option.isSome_iff_exists.1 known
      rw [shape]
      have same : found = dimension := by
        apply Dimension.ext_components ((SimpleUnit.size_of_dimensionIn? shape).trans size.symm)
        intro slot
        simp [slots, SimpleUnit.exponentIn, shape]
      rw [same]

theorem Unit.size_of_dimensionIn? {base : Base} {unit : Unit α} {dimension : Dimension}
    (known : unit.dimensionIn? base = some dimension) : dimension.size = base.rank :=
  ((unit.dimensionIn?_eq_some_iff base dimension).1 known).2.2.1

theorem Unit.generation_of_dimensionIn? {base : Base} {unit : Unit α} {dimension : Dimension}
    (known : unit.dimensionIn? base = some dimension) : unit.generation = base.generation :=
  ((unit.dimensionIn?_eq_some_iff base dimension).1 known).1

/-- A unit of known dimension finds the base through its generation. -/
theorem Unit.base?_of_dimensionIn? {bases : Bases} {base : Base} {generation : Generation}
    (frozen : bases.base? generation = some base) {unit : Unit α} {dimension : Dimension}
    (known : unit.dimensionIn? base = some dimension) :
    bases.base? unit.generation = some base := by
  rw [Unit.generation_of_dimensionIn? known, Bases.generation_of_base? _ _ _ frozen]
  exact frozen

/-- What has no dimension measures pure numbers. -/
theorem SimpleUnit.quantity_of_isDimensionlessIn {base : Base} {unit : SimpleUnit α}
    (pure : unit.isDimensionlessIn base = true) : unit.quantity = Quantity.dimensionless := by
  rw [← Quantity.isDimensionless_iff]
  rw [isDimensionlessIn, Bool.or_eq_true] at pure
  rcases pure with named | zero
  · exact named
  · cases known : unit.dimensionIn? base with
    | none => simp [known] at zero
    | some dimension =>
      have measured := ((unit.dimensionIn?_eq_some_iff base dimension).1 known).2
      simpa [known, Base.isZero_of_dimension? measured] using zero

/-- A member without a dimension contributes to no slot. -/
theorem SimpleUnit.exponentIn_of_isDimensionlessIn {base : Base} {unit : SimpleUnit α}
    (pure : unit.isDimensionlessIn base = true) (slot : Nat) : unit.exponentIn base slot = 0 := by
  cases known : unit.dimensionIn? base with
  | none => simp [exponentIn, known]
  | some dimension =>
    have zero : dimension.isZero = true := by
      have measured := ((unit.dimensionIn?_eq_some_iff base dimension).1 known).2
      rw [Base.isZero_of_dimension? measured, quantity_of_isDimensionlessIn pure]
      rfl
    simpa [exponentIn, known] using (Dimension.isZero_iff dimension).1 zero slot

theorem exponentSum_filter (base : Base) (slot : Nat) (members : List (SimpleUnit α)) :
    exponentSum base slot (members.filter fun member => !member.isDimensionlessIn base) =
      exponentSum base slot members := by
  induction members with
  | nil => rfl
  | cons member rest ih =>
    cases pure : member.isDimensionlessIn base with
    | false => simp [pure, exponentSum, ih]
    | true =>
      have nothing := SimpleUnit.exponentIn_of_isDimensionlessIn pure slot
      simp [pure, exponentSum, ih, nothing]

theorem Unit.membersIn_eq (base : Base) (unit : Unit α) :
    unit.membersIn base = unit.allMembers.filter fun member => !member.isDimensionlessIn base := by
  cases unit with
  | composite unit => rfl
  | simple unit =>
    cases pure : unit.isDimensionlessIn base <;>
      simp [membersIn, allMembers, Members.filter, pure]

/-- What is left out of a product does not count. -/
theorem Unit.exponentIn_membersIn (base : Base) (slot : Nat) (unit : Unit α) :
    (unit.membersIn base).exponentIn base slot = unit.allMembers.exponentIn base slot := by
  simp only [membersIn_eq, Members.exponentIn, Members.filter, exponentSum_filter]

theorem Unit.all_membersIn {holds : SimpleUnit α → Prop} {unit : Unit α}
    (all : unit.allMembers.All holds) (base : Base) : (unit.membersIn base).All holds := by
  rw [membersIn_eq]
  exact all.filter _

theorem Unit.knownIn_membersIn {base : Base} {unit : Unit α} {dimension : Dimension}
    (known : unit.dimensionIn? base = some dimension) : (unit.membersIn base).KnownIn base :=
  all_membersIn ((unit.dimensionIn?_eq_some_iff base dimension).1 known).2.1 base

/-- Products add dimensions. -/
theorem Unit.dimensionIn?_productIn {base : Base} {a b : Unit α} {left right : Dimension}
    (knownA : a.dimensionIn? base = some left) (knownB : b.dimensionIn? base = some right) :
    (a.productIn base b).dimensionIn? base = some (left + right) := by
  obtain ⟨native, _, sizeA, slotsA⟩ := (a.dimensionIn?_eq_some_iff base left).1 knownA
  obtain ⟨_, _, sizeB, slotsB⟩ := (b.dimensionIn?_eq_some_iff base right).1 knownB
  refine (Unit.dimensionIn?_eq_some_iff base _ _).2 ⟨native, ?_, ?_, ?_⟩
  · exact (knownIn_membersIn knownA).append (knownIn_membersIn knownB)
  · rw [Dimension.size_add, sizeA, sizeB, Nat.max_self]
  · intro slot
    change _ = Members.exponentIn base slot ((a.membersIn base).append (b.membersIn base))
    rw [Members.exponentIn_append, exponentIn_membersIn, exponentIn_membersIn, ← slotsA, ← slotsB,
      Dimension.component_add]

/-- Quotients subtract dimensions. -/
theorem Unit.dimensionIn?_quotientIn {base : Base} {a b : Unit α} {left right : Dimension}
    (knownA : a.dimensionIn? base = some left) (knownB : b.dimensionIn? base = some right) :
    (a.quotientIn base b).dimensionIn? base = some (left - right) := by
  obtain ⟨native, _, sizeA, slotsA⟩ := (a.dimensionIn?_eq_some_iff base left).1 knownA
  obtain ⟨_, _, sizeB, slotsB⟩ := (b.dimensionIn?_eq_some_iff base right).1 knownB
  refine (Unit.dimensionIn?_eq_some_iff base _ _).2 ⟨native, ?_, ?_, ?_⟩
  · exact (knownIn_membersIn knownA).append (knownIn_membersIn knownB).inverse
  · rw [Dimension.size_sub, sizeA, sizeB, Nat.max_self]
  · intro slot
    change _ = Members.exponentIn base slot ((a.membersIn base).append (b.membersIn base).inverse)
    rw [Members.exponentIn_append, Members.exponentIn_inverse, exponentIn_membersIn,
      exponentIn_membersIn, ← slotsA, ← slotsB, Dimension.component_sub, Int.sub_eq_add_neg]

/-- A unit of known dimension is dimensionless when its vector is zero. -/
theorem Unit.isDimensionlessIn_eq {base : Base} {unit : Unit α} {dimension : Dimension}
    (known : unit.dimensionIn? base = some dimension) :
    unit.isDimensionlessIn base = dimension.isZero := by
  cases unit with
  | composite unit =>
    simp only [Unit.dimensionIn?] at known
    simp [Unit.isDimensionlessIn, known]
  | simple unit =>
    simp only [Unit.dimensionIn?] at known
    have measured := ((unit.dimensionIn?_eq_some_iff base dimension).1 known).2
    simp [Unit.isDimensionlessIn, SimpleUnit.isDimensionlessIn, known,
      Base.isZero_of_dimension? measured]

/-- Units of known dimension are compatible when their vectors are equal. -/
theorem Unit.compatibleIn_iff {base : Base} {a b : Unit α} {left right : Dimension}
    (knownA : a.dimensionIn? base = some left) (knownB : b.dimensionIn? base = some right) :
    a.compatibleIn base b = true ↔ left = right := by
  simp only [compatibleIn, knownA, knownB]
  exact Dimension.isZero_sub_iff
    ((Unit.size_of_dimensionIn? knownA).trans (Unit.size_of_dimensionIn? knownB).symm)

end Dimensional
