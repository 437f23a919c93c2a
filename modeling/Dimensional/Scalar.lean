/-!
The arithmetic of factors and values. Everything about units is written over it, so the same
definitions compute with doubles and can be studied over exact numbers.
-/

set_option autoImplicit false

namespace Dimensional

/-- Numbers with a distinguished answer, `undefined`, for a conversion that has no factor. -/
class Scalar (α : Type) extends Add α, Sub α, Mul α, Div α, Neg α where
  one : α
  undefined : α
  power : α → α → α
  isUndefined : α → Bool
  /-- Equality of numbers, under which an undefined one may differ from itself. -/
  sameNumber : α → α → Bool
  /-- Whether the first number is at most the second in absolute value. -/
  withinBound : α → α → Bool
  /-- The tolerance of a value that states none. -/
  defaultPrecision : α

instance : Scalar Float where
  one := 1.0
  undefined := 0.0 / 0.0
  power := Float.pow
  isUndefined := Float.isNaN
  sameNumber x y := x == y
  withinBound x bound := decide (x.abs ≤ bound)
  defaultPrecision := 1e-7

/-- The product of a list of numbers, from the left. -/
def Scalar.product {α : Type} [Scalar α] (factors : List α) : α :=
  factors.foldl (· * ·) Scalar.one

@[simp] theorem Scalar.product_nil {α : Type} [Scalar α] :
    Scalar.product ([] : List α) = Scalar.one := rfl

theorem Scalar.product_append_single {α : Type} [Scalar α] (factors : List α) (last : α) :
    Scalar.product (factors ++ [last]) = Scalar.product factors * last := by
  simp [Scalar.product]

end Dimensional
