import Dimensional.Base
import Dimensional.Proofs.DimensionAlgebra

/-!
The layout of a base: pure numbers have the zero vector, and every other quantity of the base has
the slot of its place among them.
-/

set_option autoImplicit false

namespace Dimensional.Base

/-- The quantities that have a slot, in the order of their slots. -/
def axes (quantities : List Quantity) : List Quantity :=
  quantities.filter fun quantity => !quantity.isDimensionless

theorem rank_eq_length_axes (base : Base) : base.rank = (axes base.quantities).length := rfl

/-- Slots are given out from the first free one on, to each quantity but pure numbers. -/
theorem lookup_layOut (rank : Nat) (quantities : List Quantity) (quantity : Quantity) (slot : Nat)
    (listed : quantity ∈ quantities) :
    (layOut rank slot quantities).lookup quantity =
      some (if quantity.isDimensionless then Dimension.zeros rank
        else Dimension.oneHot rank (slot + (axes quantities).idxOf quantity)) := by
  fun_induction layOut rank slot quantities with
  | case1 slot => cases listed
  | case2 slot first rest pure ih =>
    by_cases same : quantity = first
    · subst same
      simp [pure]
    · have later : quantity ∈ rest := (List.mem_cons.1 listed).resolve_left same
      have apart : (quantity == first) = false := by simpa using same
      simp only [List.lookup_cons, apart, ih later, axes, List.filter_cons, pure, Bool.not_true,
        Bool.false_eq_true, ↓reduceIte]
  | case3 slot first rest pure ih =>
    have impure : first.isDimensionless = false := by simpa using pure
    by_cases same : quantity = first
    · subst same
      simp [impure, axes]
    · have later : quantity ∈ rest := (List.mem_cons.1 listed).resolve_left same
      have apart : (quantity == first) = false := by simpa using same
      have apart' : (first == quantity) = false := by simpa using Ne.symm same
      have shifted : slot + 1 + (axes rest).idxOf quantity =
          slot + (axes (first :: rest)).idxOf quantity := by
        simp only [axes, List.filter_cons, impure, Bool.not_false, ↓reduceIte, List.idxOf_cons,
          apart', cond_false]
        omega
      simp only [List.lookup_cons, apart, ih later, shifted]

theorem dimension?_of_mem (base : Base) (quantity : Quantity)
    (listed : quantity ∈ base.quantities) :
    base.dimension? quantity =
      some (if quantity.isDimensionless then Dimension.zeros base.rank
        else Dimension.oneHot base.rank ((axes base.quantities).idxOf quantity)) := by
  have laid := lookup_layOut base.rank base.quantities quantity 0 listed
  rwa [Nat.zero_add] at laid

/-- Only the quantities of the base have a dimension. -/
theorem mem_of_dimension? {base : Base} {quantity : Quantity} {dimension : Dimension}
    (known : base.dimension? quantity = some dimension) : quantity ∈ base.quantities := by
  obtain ⟨before, after, shape, _⟩ := List.lookup_eq_some_iff.1 known
  rw [← layout_quantities, shape]
  simp

theorem dimension?_dimensionless (base : Base) :
    base.dimension? Quantity.dimensionless = some (Dimension.zeros base.rank) := by
  rw [dimension?_of_mem base _ base.registry.dimensionless_mem]
  simp

theorem idxOf_axes_lt {base : Base} {quantity : Quantity} (listed : quantity ∈ base.quantities)
    (axis : quantity.isDimensionless = false) :
    (axes base.quantities).idxOf quantity < base.rank := by
  rw [rank_eq_length_axes]
  exact List.idxOf_lt_length_of_mem (List.mem_filter.2 ⟨listed, by simp [axis]⟩)

theorem contains_iff (base : Base) (quantity : Quantity) :
    base.contains quantity = true ↔ quantity ∈ base.quantities := by
  rw [contains, Option.isSome_iff_exists]
  constructor
  · rintro ⟨dimension, known⟩
    exact mem_of_dimension? known
  · intro listed
    exact ⟨_, dimension?_of_mem base quantity listed⟩

/-- The vector of the quantity at a place among the axes is a single 1 at that place. -/
theorem dimension?_of_axis (base : Base) (slot : Nat) (quantity : Quantity)
    (axis : (axes base.quantities)[slot]? = some quantity) :
    base.dimension? quantity = some (Dimension.oneHot base.rank slot) ∧ slot < base.rank := by
  obtain ⟨inside, found⟩ := List.getElem?_eq_some_iff.1 axis
  obtain ⟨listed, impure⟩ := List.mem_filter.1 (found ▸ List.getElem_mem inside)
  have distinct : (axes base.quantities).Nodup := base.registry.distinct.filter _
  have place : (axes base.quantities).idxOf quantity = slot := by
    rw [← found]
    exact distinct.idxOf_getElem slot inside
  have measured : ¬quantity.isDimensionless = true := by simpa using impure
  refine ⟨?_, inside⟩
  rw [dimension?_of_mem base quantity listed, place, if_neg measured]

theorem size_of_dimension? {base : Base} {quantity : Quantity} {dimension : Dimension}
    (known : base.dimension? quantity = some dimension) : dimension.size = base.rank := by
  rw [dimension?_of_mem base quantity (mem_of_dimension? known)] at known
  cases known
  split <;> simp

/-- Pure numbers are the only quantity without a dimension of its own. -/
theorem isZero_of_dimension? {base : Base} {quantity : Quantity} {dimension : Dimension}
    (known : base.dimension? quantity = some dimension) :
    dimension.isZero = quantity.isDimensionless := by
  have listed := mem_of_dimension? known
  rw [dimension?_of_mem base quantity listed] at known
  cases known
  cases axis : quantity.isDimensionless with
  | true => simp [Dimension.isZero_iff]
  | false =>
    have inside := idxOf_axes_lt listed axis
    rw [Bool.eq_false_iff, Ne, Dimension.isZero_iff]
    intro zero
    have marked := zero ((axes base.quantities).idxOf quantity)
    simp [Dimension.component_oneHot _ _ _ inside] at marked

end Dimensional.Base
