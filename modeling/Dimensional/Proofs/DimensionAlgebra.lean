import Dimensional.Dimension

/-!
Dimensions slot by slot. A dimension is known by its length and its components, which are zero from
the end on; sums and differences are taken in each slot. They make dimensions a group, but for zeros
at the end, which the operations keep.
-/

set_option autoImplicit false

namespace Dimensional.Dimension

theorem getD_zipPadded (combine : Int → Int → Int) (blank : combine 0 0 = 0) (as bs : List Int)
    (slot : Nat) :
    (zipPadded combine as bs)[slot]?.getD 0 = combine (as[slot]?.getD 0) (bs[slot]?.getD 0) := by
  induction as generalizing bs slot with
  | nil =>
    induction bs generalizing slot with
    | nil => simp [zipPadded, blank]
    | cons b bs ih =>
      cases slot with
      | zero => simp [zipPadded]
      | succ slot => simpa [zipPadded] using ih slot
  | cons a as ih =>
    cases bs with
    | nil =>
      cases slot with
      | zero => simp [zipPadded]
      | succ slot => simpa [zipPadded] using ih [] slot
    | cons b bs =>
      cases slot with
      | zero => simp [zipPadded]
      | succ slot => simpa [zipPadded] using ih bs slot

@[simp] theorem component_add (a b : Dimension) (slot : Nat) :
    (a + b).component slot = a.component slot + b.component slot :=
  getD_zipPadded (· + ·) rfl a.exponents b.exponents slot

@[simp] theorem component_sub (a b : Dimension) (slot : Nat) :
    (a - b).component slot = a.component slot - b.component slot :=
  getD_zipPadded (· - ·) rfl a.exponents b.exponents slot

@[simp] theorem size_neg (a : Dimension) : (-a).size = a.size := List.length_map _

@[simp] theorem component_neg (a : Dimension) (slot : Nat) :
    (-a).component slot = -a.component slot := by
  have mapped : (-a).exponents[slot]? = a.exponents[slot]?.map (- ·) := List.getElem?_map
  rw [component, component, mapped]
  cases a.exponents[slot]? <;> rfl

@[simp] theorem size_empty : empty.size = 0 := rfl

@[simp] theorem component_empty (slot : Nat) : empty.component slot = 0 := rfl

@[simp] theorem component_zeros (rank slot : Nat) : (zeros rank).component slot = 0 := by
  by_cases inside : slot < rank <;> simp [zeros, component, inside]

theorem component_oneHot (rank place slot : Nat) (inside : place < rank) :
    (oneHot rank place).component slot = if slot = place then 1 else 0 := by
  by_cases same : slot = place
  · simp [oneHot, component, same, inside]
  · by_cases within : slot < rank <;> simp [oneHot, component, same, Ne.symm same, within]

theorem component_of_size_le (d : Dimension) {slot : Nat} (beyond : d.size ≤ slot) :
    d.component slot = 0 := by
  rw [component, List.getElem?_eq_none beyond, Option.getD_none]

theorem ext_components {a b : Dimension} (sameSize : a.size = b.size)
    (same : ∀ slot, a.component slot = b.component slot) : a = b := by
  have equal : a.exponents = b.exponents := by
    apply List.ext_getElem sameSize
    intro slot insideA insideB
    have components := same slot
    simpa only [component, List.getElem?_eq_getElem insideA, List.getElem?_eq_getElem insideB,
      Option.getD_some] using components
  cases a
  cases b
  exact congrArg Dimension.mk equal

theorem isZero_iff (d : Dimension) : d.isZero = true ↔ ∀ slot, d.component slot = 0 := by
  simp only [isZero, List.all_eq_true, beq_iff_eq]
  constructor
  · intro zero slot
    cases present : d.exponents[slot]? with
    | none => simp [component, present]
    | some exponent => simpa [component, present] using zero exponent (List.mem_of_getElem? present)
  · intro zero exponent inside
    obtain ⟨slot, present⟩ := List.getElem?_of_mem inside
    simpa [component, present] using zero slot

theorem isZero_iff_eq_zeros (d : Dimension) : d.isZero = true ↔ d = zeros d.size := by
  rw [isZero_iff]
  constructor
  · intro zero
    apply ext_components (size_zeros d.size).symm
    intro slot
    rw [zero, component_zeros]
  · intro same slot
    rw [same, component_zeros]

/-- A difference is zero where its operands agree in every slot, whatever their lengths. -/
theorem isZero_sub_iff_components (a b : Dimension) :
    (a - b).isZero = true ↔ ∀ slot, a.component slot = b.component slot := by
  rw [isZero_iff]
  constructor
  · intro zero slot
    have difference := zero slot
    rw [component_sub] at difference
    omega
  · intro same slot
    rw [component_sub, same]
    omega

theorem isZero_sub_iff {a b : Dimension} (sameSize : a.size = b.size) :
    (a - b).isZero = true ↔ a = b := by
  rw [isZero_sub_iff_components]
  constructor
  · exact ext_components sameSize
  · rintro rfl slot
    rfl

theorem add_comm (a b : Dimension) : a + b = b + a := by
  apply ext_components
  · rw [size_add, size_add, Nat.max_comm]
  · intro slot
    rw [component_add, component_add, Int.add_comm]

theorem add_assoc (a b c : Dimension) : a + b + c = a + (b + c) := by
  apply ext_components
  · rw [size_add, size_add, size_add, size_add, Nat.max_assoc]
  · intro slot
    rw [component_add, component_add, component_add, component_add, Int.add_assoc]

theorem add_empty (a : Dimension) : a + empty = a := by
  apply ext_components
  · rw [size_add, size_empty, Nat.max_zero]
  · intro slot
    rw [component_add, component_empty, Int.add_zero]

theorem add_neg_self (a : Dimension) : a + -a = zeros a.size := by
  apply ext_components
  · rw [size_add, size_neg, size_zeros, Nat.max_self]
  · intro slot
    rw [component_add, component_neg, component_zeros, Int.add_right_neg]

theorem sub_eq_add_neg (a b : Dimension) : a - b = a + -b := by
  apply ext_components
  · rw [size_sub, size_add, size_neg]
  · intro slot
    rw [component_sub, component_add, component_neg, Int.sub_eq_add_neg]

/-- The dimension with zeros after its components, up to a length. -/
def padTo (d : Dimension) (size : Nat) : Dimension :=
  ⟨d.exponents ++ List.replicate (size - d.size) 0⟩

@[simp] theorem size_padTo (d : Dimension) (size : Nat) :
    (d.padTo size).size = max d.size size := by
  have length : (d.padTo size).size = d.size + (size - d.size) := by simp [padTo, Dimension.size]
  omega

@[simp] theorem component_padTo (d : Dimension) (size slot : Nat) :
    (d.padTo size).component slot = d.component slot := by
  by_cases inside : slot < d.size
  · rw [component, padTo, List.getElem?_append_left inside, component]
  · have beyond : d.size ≤ slot := Nat.le_of_not_lt inside
    rw [component_of_size_le d beyond, component, padTo, List.getElem?_append_right beyond]
    exact component_zeros (size - d.size) (slot - d.size)

theorem padTo_of_size_le {d : Dimension} {size : Nat} (enough : size ≤ d.size) :
    d.padTo size = d := by
  apply ext_components
  · rw [size_padTo, Nat.max_eq_left enough]
  · exact component_padTo d size

theorem add_sub_cancel (a b : Dimension) : a + b - b = a.padTo (max a.size b.size) := by
  apply ext_components
  · rw [size_sub, size_add, size_padTo]
    omega
  · intro slot
    rw [component_sub, component_add, component_padTo]
    omega

theorem sub_add_cancel (a b : Dimension) : a - b + b = a.padTo (max a.size b.size) := by
  apply ext_components
  · rw [size_add, size_sub, size_padTo]
    omega
  · intro slot
    rw [component_add, component_sub, component_padTo]
    omega

theorem add_sub_self {a b : Dimension} (sameSize : a.size = b.size) : a + b - b = a := by
  rw [add_sub_cancel, ← sameSize, Nat.max_self, padTo_of_size_le (Nat.le_refl _)]

theorem sub_add_self {a b : Dimension} (sameSize : a.size = b.size) : a - b + b = a := by
  rw [sub_add_cancel, ← sameSize, Nat.max_self, padTo_of_size_le (Nat.le_refl _)]

/-- Dimensions are an abelian group but for zeros at the end. Sums and differences are taken in each
slot and are as long as the longer operand; sums commute and associate, nothing is added by the
empty dimension, and a difference is the sum with the negative. What was added and is subtracted
again leaves its length behind. A difference is zero exactly when both operands have the same
component in every slot, and so, for operands of one length, exactly when they are equal. -/
theorem group_up_to_padding (a b c : Dimension) :
    (∀ slot, (a + b).component slot = a.component slot + b.component slot ∧
      (a - b).component slot = a.component slot - b.component slot) ∧
    ((a + b).size = max a.size b.size ∧ (a - b).size = max a.size b.size) ∧
    a + b = b + a ∧ a + b + c = a + (b + c) ∧
    a + empty = a ∧ a + -a = zeros a.size ∧ a - b = a + -b ∧
    a + b - b = a.padTo (max a.size b.size) ∧
    ((a - b).isZero = true ↔ ∀ slot, a.component slot = b.component slot) ∧
    (a.size = b.size → ((a - b).isZero = true ↔ a = b)) :=
  ⟨fun slot => ⟨component_add a b slot, component_sub a b slot⟩, ⟨size_add a b, size_sub a b⟩,
    add_comm a b, add_assoc a b c, add_empty a, add_neg_self a, sub_eq_add_neg a b,
    add_sub_cancel a b, isZero_sub_iff_components a b, isZero_sub_iff⟩

/-- The length of a base without other quantities and the length of a base with two differ in a zero
at the end only, which adding a time and taking it away puts there. The length and the time of one
base are of one size, and different. -/
theorem group_of_lengths :
    let alone : Dimension := ⟨[1]⟩
    let length : Dimension := oneHot 2 0
    let time : Dimension := oneHot 2 1
    alone ≠ length ∧ (alone - length).isZero = true ∧ alone + time - time = length ∧
      length.size = time.size ∧ (length - time).isZero = false := by
  intro alone length time
  have padded : alone.padTo 2 = length := by decide
  have agree : ∀ slot, alone.component slot = length.component slot := by
    intro slot
    rw [← padded, component_padTo]
  obtain ⟨-, -, -, -, -, -, -, -, zero, -⟩ := group_up_to_padding alone length time
  obtain ⟨-, -, -, -, -, -, -, restored, -, -⟩ := group_up_to_padding alone time time
  obtain ⟨-, -, -, -, -, -, -, -, -, equal⟩ := group_up_to_padding length time time
  refine ⟨by decide, zero.2 agree, restored.trans padded, rfl, ?_⟩
  rw [Bool.eq_false_iff]
  intro vanishes
  exact absurd ((equal rfl).1 vanishes) (by decide)

end Dimensional.Dimension
