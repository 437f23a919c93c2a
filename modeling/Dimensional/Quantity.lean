/-!
Quantities: named axes of physical dimension. A name is all there is to one; which vector it has is
for a base to say.
-/

set_option autoImplicit false

namespace Dimensional

structure Quantity where
  name : String
deriving DecidableEq

namespace Quantity

/-- The quantity of pure numbers, which every system knows. -/
def dimensionless : Quantity := ⟨"Dimensionless"⟩

def isDimensionless (q : Quantity) : Bool := q == dimensionless

/-- Names are ordered by code point. -/
def order (a b : Quantity) : Ordering :=
  if a.name < b.name then .lt else if a.name = b.name then .eq else .gt

theorem isDimensionless_iff (q : Quantity) : q.isDimensionless = true ↔ q = dimensionless := by
  simp [isDimensionless]

@[simp] theorem isDimensionless_dimensionless : dimensionless.isDimensionless = true := by
  simp [isDimensionless]

end Quantity

/-- The name of the unit of pure numbers. -/
def pureUnitName : String := "adimensional"

end Dimensional
