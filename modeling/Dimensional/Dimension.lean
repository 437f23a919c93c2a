/-!
Dimension vectors: one integer exponent for each quantity that is not dimensionless. Vectors of
different lengths are added as if the shorter one went on with zeros.
-/

set_option autoImplicit false

namespace Dimensional

structure Dimension where
  exponents : List Int
deriving DecidableEq

namespace Dimension

def zeros (rank : Nat) : Dimension := ⟨List.replicate rank 0⟩

/-- A single 1 at `slot`; the zero vector when there is no such slot. -/
def oneHot (rank slot : Nat) : Dimension := ⟨(List.replicate rank 0).set slot 1⟩

/-- The vector of length zero. -/
def empty : Dimension := ⟨[]⟩

def size (d : Dimension) : Nat := d.exponents.length

def isEmpty (d : Dimension) : Bool := d.exponents.isEmpty

def isZero (d : Dimension) : Bool := d.exponents.all (· == 0)

/-- The exponent at a slot; beyond the end it is zero. -/
def component (d : Dimension) (slot : Nat) : Int := d.exponents[slot]?.getD 0

/-- Combines two lists slot by slot, up to the end of the longer one. -/
def zipPadded (combine : Int → Int → Int) : List Int → List Int → List Int
  | [], [] => []
  | a :: as, [] => combine a 0 :: zipPadded combine as []
  | [], b :: bs => combine 0 b :: zipPadded combine [] bs
  | a :: as, b :: bs => combine a b :: zipPadded combine as bs

instance : Add Dimension where
  add a b := ⟨zipPadded (· + ·) a.exponents b.exponents⟩

instance : Sub Dimension where
  sub a b := ⟨zipPadded (· - ·) a.exponents b.exponents⟩

instance : Neg Dimension where
  neg a := ⟨a.exponents.map (- ·)⟩

/-- The exponents between brackets, divided by commas. -/
def text (d : Dimension) : String :=
  "[" ++ ", ".intercalate (d.exponents.map toString) ++ "]"

theorem length_zipPadded (combine : Int → Int → Int) (as bs : List Int) :
    (zipPadded combine as bs).length = max as.length bs.length := by
  fun_induction zipPadded combine as bs <;> simp_all

@[simp] theorem size_add (a b : Dimension) : (a + b).size = max a.size b.size :=
  length_zipPadded _ _ _

@[simp] theorem size_sub (a b : Dimension) : (a - b).size = max a.size b.size :=
  length_zipPadded _ _ _

@[simp] theorem size_zeros (rank : Nat) : (zeros rank).size = rank := by
  simp [zeros, size]

@[simp] theorem size_oneHot (rank slot : Nat) : (oneHot rank slot).size = rank := by
  simp [oneHot, size]

end Dimension

end Dimensional
