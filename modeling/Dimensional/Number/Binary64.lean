/-!
Double-precision magnitudes as natural numbers. The bits below the sign, read as one number, are the
magnitude's `rank`: ranks are in the order of the magnitudes they stand for. `weight` is the
magnitude itself, counted in units of the least positive one, so every comparison between a decimal
and a double is a comparison of natural numbers.
-/

set_option autoImplicit false

namespace Dimensional.Binary64

/-- The weight of the leading bit, which is not stored, relative to the last bit of the fraction. -/
def hiddenBit : Nat := 0x10000000000000

/-- The value of the sign bit: all other bits together are below it. -/
def signWeight : Nat := 0x8000000000000000

/-- How many least positive magnitudes make one. -/
def unitScale : Nat := Nat.pow 2 1074

/-- The rank of infinity, just above the greatest finite magnitude. -/
def infinityRank : Nat := 0x7FF0000000000000

/-- The magnitude of a rank, in units of the least positive magnitude. -/
def weight (rank : Nat) : Nat :=
  let level := rank / hiddenBit
  let fraction := rank % hiddenBit
  if level = 0 then fraction else (hiddenBit + fraction) * Nat.pow 2 (level - 1)

@[simp] theorem weight_zero : weight 0 = 0 := by decide

@[simp] theorem weight_one : weight 1 = 1 := by decide

/-- A non-negative rational, in units of the least positive magnitude. -/
structure Ratio where
  num : Nat
  den : Nat

/-- Whether the ratio is at or above the lower end of the reals that round to `rank`. An end belongs
to the even one of its two neighbours. -/
def Ratio.reaches (x : Ratio) (rank : Nat) : Bool :=
  if rank = 0 then true
  else
    let low := (weight (rank - 1) + weight rank) * x.den
    if rank % 2 = 0 then decide (low ≤ 2 * x.num) else decide (low < 2 * x.num)

/-- Whether the ratio is among the reals that round to `rank`. -/
def Ratio.roundsTo (x : Ratio) (rank : Nat) : Bool :=
  x.reaches rank && !x.reaches (rank + 1)

/-- The greatest rank below `base + 2 ^ bits`, and not above infinity, that the ratio reaches. -/
def Ratio.climb (x : Ratio) : Nat → Nat → Nat
  | 0, base => base
  | bits + 1, base =>
    let middle := base + Nat.pow 2 bits
    if middle ≤ infinityRank && x.reaches middle then x.climb bits middle else x.climb bits base

/-- The rank of the double nearest to the ratio, the even one of two that are equally near. -/
def Ratio.nearest (x : Ratio) : Nat := x.climb 63 0

/-- The rank of a double's magnitude. -/
def rank (x : Float) : Nat := x.toBits.toNat % signWeight

/-- Whether the sign bit is set. -/
def signBit (x : Float) : Bool := decide (signWeight ≤ x.toBits.toNat)

/-- The non-negative double of a rank. -/
def ofRank (rank : Nat) : Float := Float.ofBits (UInt64.ofNat rank)

end Dimensional.Binary64
