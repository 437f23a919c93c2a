import Mathlib.Algebra.Order.Field.Rat
import Mathlib.Algebra.BigOperators.Group.List.Basic
import Mathlib.Algebra.Order.BigOperators.GroupWithZero.List
import Mathlib.Tactic.FieldSimp
import Mathlib.Tactic.NormNum
import Dimensional.Proofs.DimensionCheck

/-!
Exact arithmetic: rational numbers, with an undefined one that every operation passes on. Over
calibrated units, whose factors are positive and 1 for pure numbers, the factor of a product is the
product of the factors, whatever members are left out.
-/

set_option autoImplicit false

namespace Dimensional

inductive Exact where
  | of (value : ℚ)
  | undefined
deriving DecidableEq

namespace Exact

/-- An operation on rational numbers, undefined where an operand is. -/
def lift (operation : ℚ → ℚ → Exact) : Exact → Exact → Exact
  | of a, of b => operation a b
  | _, _ => undefined

/-- Only whole powers are taken. -/
instance : Scalar Exact where
  add := lift fun a b => of (a + b)
  sub := lift fun a b => of (a - b)
  mul := lift fun a b => of (a * b)
  div := lift fun a b => if b = 0 then undefined else of (a / b)
  neg
    | of a => of (-a)
    | undefined => undefined
  one := of 1
  undefined := undefined
  power := lift fun a b => if b.den = 1 ∧ (a ≠ 0 ∨ 0 ≤ b) then of (a ^ b.num) else undefined
  isUndefined a := a == undefined
  sameNumber a b := a == b && a != undefined
  withinBound
    | of a, of bound => |a| ≤ bound
    | _, _ => false
  defaultPrecision := of (1 / 10 ^ 7)

instance : LawfulScalar Exact where
  undefined_isUndefined := rfl

def value? : Exact → Option ℚ
  | of a => some a
  | undefined => none

theorem value?_eq_some_iff (number : Exact) (a : ℚ) : number.value? = some a ↔ number = of a := by
  cases number <;> simp [value?]

@[simp] theorem of_add (a b : ℚ) : of a + of b = of (a + b) := rfl

@[simp] theorem of_sub (a b : ℚ) : of a - of b = of (a - b) := rfl

@[simp] theorem of_mul (a b : ℚ) : of a * of b = of (a * b) := rfl

@[simp] theorem neg_of (a : ℚ) : -of a = of (-a) := rfl

theorem of_div (a : ℚ) {b : ℚ} (nonzero : b ≠ 0) : of a / of b = of (a / b) := if_neg nonzero

@[simp] theorem isUndefined_of (a : ℚ) : Scalar.isUndefined (of a) = false := rfl

/-- A product with a positive number determines the other factor. -/
theorem eq_of_mul {number : Exact} {factor total : ℚ} (positive : 0 < factor)
    (product : number * of factor = of total) : number = of (total / factor) := by
  have nonzero := positive.ne'
  cases number with
  | undefined => cases product
  | of a =>
    rw [of_mul] at product
    have equal : a * factor = total := of.inj product
    rw [← equal, mul_div_cancel_right₀ a nonzero]

theorem foldl_mul_of {β : Type} (number : β → Exact) (ratio : β → ℚ) (items : List β)
    (numbers : ∀ item ∈ items, number item = of (ratio item)) (start : ℚ) :
    (items.map number).foldl (· * ·) (of start) = of (start * (items.map ratio).prod) := by
  induction items generalizing start with
  | nil => simp
  | cons item rest ih =>
    have first := numbers item List.mem_cons_self
    have later := ih (fun other inside => numbers other (List.mem_cons_of_mem item inside))
      (start * ratio item)
    rw [List.map_cons, List.foldl_cons, first, of_mul, later, List.map_cons, List.prod_cons,
      mul_assoc]

theorem product_of {β : Type} (number : β → Exact) (ratio : β → ℚ) (items : List β)
    (numbers : ∀ item ∈ items, number item = of (ratio item)) :
    Scalar.product (items.map number) = of (items.map ratio).prod := by
  have folded := foldl_mul_of number ratio items numbers 1
  rwa [one_mul] at folded

end Exact

end Dimensional
