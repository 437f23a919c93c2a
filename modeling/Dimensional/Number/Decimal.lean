import Dimensional.Number.Binary64

/-!
Decimals: a natural number times a power of ten, exactly. `nearest` rounds one to a double;
`shortest` picks, among the decimals that round to a given double, one with the fewest digits and of
those the nearest.
-/

set_option autoImplicit false

namespace Dimensional

/-- `significand * 10 ^ exponent`. -/
structure Decimal where
  significand : Nat
  exponent : Int
deriving DecidableEq

namespace Decimal

/-- The number of decimal digits of a natural number; zero has one. -/
def digitCount (n : Nat) : Nat := (Nat.toDigits 10 n).length

/-- The decimal in units of the least positive double. -/
def toRatio (d : Decimal) : Binary64.Ratio :=
  ⟨d.significand * Nat.pow 10 d.exponent.toNat * Binary64.unitScale,
    Nat.pow 10 (-d.exponent).toNat⟩

/-- The exponent of ten just above the leading digit. -/
def scale (d : Decimal) : Int := digitCount d.significand + d.exponent

/-- The rank of the nearest double. Beyond the decimal exponents that doubles have, nothing is
computed: the magnitude is infinite or zero. -/
def nearestRank (d : Decimal) : Nat :=
  if d.significand = 0 then 0
  else if 400 < d.scale then Binary64.infinityRank
  else if d.scale < -400 then 0
  else d.toRatio.nearest

/-- The nearest double. -/
def toFloat (d : Decimal) : Float := Binary64.ofRank d.nearestRank

/-- Which of two equally near decimals is taken. -/
inductive Tie where
  | toEven
  | awayFromZero

/-- Drops the trailing zeros of the significand, at most `fuel` of them. -/
def trim : Nat → Decimal → Decimal
  | 0, d => d
  | fuel + 1, d =>
    if d.significand % 10 = 0 && d.significand != 0
    then trim fuel ⟨d.significand / 10, d.exponent + 1⟩
    else d

/-- The least `k` with `weight` below `10 ^ k` ones, for a positive weight. -/
def magnitudeScale (weight : Nat) : Int :=
  if Binary64.unitScale ≤ weight then (digitCount (weight / Binary64.unitScale) : Int)
  else 1 - (digitCount ((Binary64.unitScale - 1) / weight) : Int)

/-- The greatest multiple of `10 ^ exponent` that is not above `weight`, as a multiplier. -/
def floorMultiple (weight : Nat) (exponent : Int) : Nat :=
  weight * Nat.pow 10 (-exponent).toNat / (Binary64.unitScale * Nat.pow 10 exponent.toNat)

/-- Whether the middle between `below` and its successor on the grid of `10 ^ exponent` lies below
the weight, on it, or above it. -/
def compareMiddle (below : Nat) (exponent : Int) (weight : Nat) : Ordering :=
  compare ((2 * below + 1) * Nat.pow 10 exponent.toNat * Binary64.unitScale)
    (2 * weight * Nat.pow 10 (-exponent).toNat)

/-- Of the multiples of `10 ^ exponent` that round to `rank`, the one nearest to its magnitude. -/
def onGrid (tie : Tie) (rank : Nat) (exponent : Int) : Option Decimal :=
  let weight := Binary64.weight rank
  let below := floorMultiple weight exponent
  let lower : Decimal := ⟨below, exponent⟩
  let upper : Decimal := ⟨below + 1, exponent⟩
  match lower.toRatio.roundsTo rank, upper.toRatio.roundsTo rank with
  | false, false => none
  | true, false => some lower
  | false, true => some upper
  | true, true =>
    match compareMiddle below exponent weight, tie with
    | .lt, _ => some upper
    | .gt, _ => some lower
    | .eq, .awayFromZero => some upper
    | .eq, .toEven => some (if below % 2 = 0 then lower else upper)

/-- A magnitude written out in full. -/
def exact (rank : Nat) : Decimal := ⟨Binary64.weight rank * Nat.pow 5 1074, -1074⟩

/-- The decimal with the fewest digits that rounds to `rank`; of several the nearest. Seventeen
digits always suffice, and the exact value stands behind them. -/
def shortest (tie : Tie) (rank : Nat) : Decimal :=
  if rank = 0 then ⟨0, 0⟩
  else
    let scale := magnitudeScale (Binary64.weight rank)
    let found := (List.range 17).findSome? fun n => onGrid tie rank (scale - (n + 1 : Nat))
    trim 20 (found.getD (exact rank))

end Decimal

end Dimensional
