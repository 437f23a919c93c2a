import Dimensional.Number.Decimal

/-!
How a double is written. A `NumberStyle` fixes what the digits leave open: which way a tie between
two shortest decimals goes, where positional notation ends, whether a whole number has a decimal
point, and the sign of a positive exponent.
-/

set_option autoImplicit false

namespace Dimensional

structure NumberStyle where
  tie : Decimal.Tie
  /-- Whether a number whose leading digit stands for this power of ten is written positionally. -/
  positional : Int → Bool
  /-- Whether a whole number in positional notation ends in `.0`. -/
  wholePoint : Bool
  /-- Whether a positive exponent has a sign. -/
  exponentPlus : Bool

namespace NumberStyle

/-- Digits only: no exponent, no decimal point on whole numbers. -/
def plain : NumberStyle := ⟨.awayFromZero, fun _ => true, false, false⟩

/-- Always with an exponent. -/
def scientific : NumberStyle := ⟨.awayFromZero, fun _ => false, false, false⟩

/-- The form of numbers in JSON: positional from `0.00001` up to sixteen digits before the point,
always recognisable as a fraction. -/
def json : NumberStyle :=
  ⟨.toEven, fun exponent => decide (-5 ≤ exponent ∧ exponent ≤ 15), true, true⟩

end NumberStyle

namespace Decimal

/-- The digits of the significand. -/
def digits (d : Decimal) : List Char := Nat.toDigits 10 d.significand

/-- The power of ten of the leading digit; zero counts as a one-digit number. -/
def leadingExponent (d : Decimal) : Int := d.scale - 1

/-- Positional notation. -/
def positionalText (wholePoint : Bool) (d : Decimal) : List Char :=
  let point := d.scale
  if 0 ≤ d.exponent then
    d.digits ++ List.replicate d.exponent.toNat '0' ++ (if wholePoint then ['.', '0'] else [])
  else if 0 < point then
    d.digits.take point.toNat ++ '.' :: d.digits.drop point.toNat
  else
    '0' :: '.' :: (List.replicate (-point).toNat '0' ++ d.digits)

/-- One digit before the point, the rest after it, and the power of ten. -/
def exponentText (exponentPlus : Bool) (d : Decimal) : List Char :=
  let exponent := d.leadingExponent
  let fraction := d.digits.drop 1
  let power := (if exponent < 0 then ['-'] else if exponentPlus then ['+'] else [])
    ++ Nat.toDigits 10 exponent.natAbs
  d.digits.take 1 ++ (if fraction.isEmpty then [] else '.' :: fraction) ++ 'e' :: power

/-- The decimal in the notation that the style chooses for its size. -/
def text (style : NumberStyle) (d : Decimal) : List Char :=
  if style.positional d.leadingExponent then d.positionalText style.wholePoint
  else d.exponentText style.exponentPlus

end Decimal

namespace NumberStyle

/-- The text of a double: the shortest decimal that reads back to it, after its sign. -/
def render (style : NumberStyle) (x : Float) : String :=
  if x.isNaN then "NaN"
  else
    let sign := if Binary64.signBit x then ['-'] else []
    let magnitude :=
      if Binary64.rank x = Binary64.infinityRank then ['i', 'n', 'f']
      else (Decimal.shortest style.tie (Binary64.rank x)).text style
    String.ofList (sign ++ magnitude)

end NumberStyle

end Dimensional
