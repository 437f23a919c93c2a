import Dimensional.Settings.Basic
import Dimensional.Number.Reading

/-!
Settings written in JSON.

A number with a fraction or an exponent is read in two roundings: its first digits, as many as fit
in 64 bits, are rounded to a double, and this is then multiplied or divided by the power of ten.
-/

set_option autoImplicit false

namespace Dimensional.Settings.JsonText

/-- Lists and objects may nest to this depth. -/
def nestingLimit : Nat := 127

def isSpace (c : Char) : Bool := c == ' ' || c == '\n' || c == '\r' || c == '\t'

def skipSpace (cs : List Char) : List Char := cs.dropWhile isSpace

def hexValue? (c : Char) : Option Nat :=
  if '0' ≤ c ∧ c ≤ '9' then some (c.toNat - 48)
  else if 'a' ≤ c ∧ c ≤ 'f' then some (c.toNat - 87)
  else if 'A' ≤ c ∧ c ≤ 'F' then some (c.toNat - 55)
  else none

/-- Four hexadecimal digits. -/
def readUnit? : List Char → Option (Nat × List Char)
  | a :: b :: c :: d :: rest => do
    let a ← hexValue? a
    let b ← hexValue? b
    let c ← hexValue? c
    let d ← hexValue? d
    some (((a * 16 + b) * 16 + c) * 16 + d, rest)
  | _ => none

/-- The character after `\u`. A character beyond 16 bits takes two escapes, and half of one is
refused. -/
def readEscapedUnit? (cs : List Char) : Option (Char × List Char) := do
  let (first, rest) ← readUnit? cs
  if 0xDC00 ≤ first ∧ first ≤ 0xDFFF then none
  else if 0xD800 ≤ first ∧ first ≤ 0xDBFF then
    match rest with
    | '\\' :: 'u' :: rest =>
      let (second, rest) ← readUnit? rest
      if 0xDC00 ≤ second ∧ second ≤ 0xDFFF then
        some (Char.ofNat (0x10000 + (first - 0xD800) * 0x400 + (second - 0xDC00)), rest)
      else none
    | _ => none
  else some (Char.ofNat first, rest)

def simpleEscape? : Char → Option Char
  | '"' => some '"'
  | '\\' => some '\\'
  | '/' => some '/'
  | 'b' => some (Char.ofNat 8)
  | 'f' => some (Char.ofNat 12)
  | 'n' => some '\n'
  | 'r' => some '\r'
  | 't' => some '\t'
  | _ => none

/-- The rest of a string, up to its closing quotation mark. -/
def readString? : Nat → List Char → Option (List Char × List Char)
  | 0, _ => none
  | _, [] => none
  | _ + 1, '"' :: rest => some ([], rest)
  | fuel + 1, '\\' :: 'u' :: rest => do
    let (c, rest) ← readEscapedUnit? rest
    let (text, rest) ← readString? fuel rest
    some (c :: text, rest)
  | fuel + 1, '\\' :: letter :: rest => do
    let c ← simpleEscape? letter
    let (text, rest) ← readString? fuel rest
    some (c :: text, rest)
  | fuel + 1, c :: rest =>
    if c.toNat < 32 then none
    else (readString? fuel rest).map fun (text, rest) => (c :: text, rest)

/-- A string that starts with a quotation mark. -/
def quoted? : List Char → Option (String × List Char)
  | '"' :: rest => (readString? (rest.length + 1) rest).map fun (text, rest) =>
    (String.ofList text, rest)
  | _ => none

/-- The longest run of leading digits whose number fits in 64 bits, after `start`, and the rest. -/
def takeSignificant (start : Nat) : List Char → Nat × List Char
  | [] => (start, [])
  | c :: rest =>
    let next := 10 * start + (c.toNat - 48)
    if next < 2 * integerBound then takeSignificant next rest else (start, c :: rest)

/-- Scales by a power of ten; none if the result is infinite. Beyond the powers that doubles have, a
number is divided by the greatest one until it is zero or the rest is a power of its own. -/
def scale? : Nat → Float → Int → Option Float
  | 0, _, _ => none
  | fuel + 1, x, exponent =>
    if exponent.natAbs ≤ 308 then
      let power := Decimal.toFloat ⟨1, exponent.natAbs⟩
      if 0 ≤ exponent then
        let scaled := x * power
        if scaled.isInf then none else some scaled
      else some (x / power)
    else if x == 0 then some x
    else if 0 ≤ exponent then none
    else scale? fuel (x / 1e308) (exponent + 308)

/-- A number that is not an integer of 64 bits, from its digits before and after the point and its
exponent. -/
def fractional? (negative : Bool) (whole fraction : List Char) (exponent : Int) : Option Float :=
  let (significand, extra) := takeSignificant 0 whole
  let (significand, dropped) := takeSignificant significand fraction
  let taken := fraction.length - dropped.length
  let shift : Int := extra.length - taken
  let exponent := shift + exponent
  (scale? 16 (Decimal.toFloat ⟨significand, 0⟩) exponent).map fun magnitude =>
    if negative then -magnitude else magnitude

/-- An exponent at the front, if there is one; none if it has no digits. -/
def readExponent? : List Char → Option (Option Int × List Char)
  | [] => some (none, [])
  | c :: rest =>
    if c = 'e' || c = 'E' then
      let (negative, rest) := Number.splitSign rest
      let digits := rest.takeWhile Number.isDigit
      if digits.isEmpty then none
      else
        let magnitude : Int := Number.ofDigits digits
        some (some (if negative then -magnitude else magnitude), rest.drop digits.length)
    else some (none, c :: rest)

/-- A fraction at the front, if there is one; none if it has no digits. -/
def readFraction? : List Char → Option (List Char × List Char)
  | '.' :: rest =>
    let digits := rest.takeWhile Number.isDigit
    if digits.isEmpty then none else some (digits, rest.drop digits.length)
  | rest => some ([], rest)

/-- A number. Integers of 64 bits with a sign stay integers, but a negative zero is a double. -/
def readNumber? (cs : List Char) : Option (Setting × List Char) := do
  let (negative, cs) := match cs with
    | '-' :: rest => (true, rest)
    | rest => (false, rest)
  let whole := cs.takeWhile Number.isDigit
  if whole.isEmpty || (decide (1 < whole.length) && whole.head? == some '0') then none
  else
    let (fraction, rest) ← readFraction? (cs.drop whole.length)
    let (exponent, rest) ← readExponent? rest
    let magnitude := Number.ofDigits whole
    if fraction.isEmpty && exponent.isNone && decide (magnitude < 2 * integerBound) then
      if negative && (magnitude == 0 || decide (integerBound < magnitude)) then
        some (.number (-(Decimal.toFloat ⟨magnitude, 0⟩)), rest)
      else if negative then some (.integer (-(magnitude : Int)), rest)
      else if magnitude < integerBound then some (.integer magnitude, rest)
      else some (.number (Decimal.toFloat ⟨magnitude, 0⟩), rest)
    else
      let x ← fractional? negative whole fraction (exponent.getD 0)
      some (.number x, rest)

/-- A word at the front. -/
def readWord? : List Char → Option (Setting × List Char)
  | 't' :: 'r' :: 'u' :: 'e' :: rest => some (.flag true, rest)
  | 'f' :: 'a' :: 'l' :: 's' :: 'e' :: rest => some (.flag false, rest)
  | 'n' :: 'u' :: 'l' :: 'l' :: rest => some (.nothing, rest)
  | _ => none

/-- The items of a list after the first one, or after the opening bracket if `first`. -/
def readItems? (item? : List Char → Option (Setting × List Char)) :
    Nat → Bool → List Char → Option (List Setting × List Char)
  | 0, _, _ => none
  | fuel + 1, first, cs =>
    match skipSpace cs, first with
    | ']' :: rest, _ => some ([], rest)
    | ',' :: rest, false => do
      let (value, rest) ← item? rest
      let (values, rest) ← readItems? item? fuel false rest
      some (value :: values, rest)
    | rest, true => do
      let (value, rest) ← item? rest
      let (values, rest) ← readItems? item? fuel false rest
      some (value :: values, rest)
    | _, false => none

/-- A key, a colon and a value. -/
def readField? (item? : List Char → Option (Setting × List Char)) (cs : List Char) :
    Option ((String × Setting) × List Char) := do
  let (key, rest) ← quoted? (skipSpace cs)
  match skipSpace rest with
  | ':' :: rest =>
    let (value, rest) ← item? rest
    some ((key, value), rest)
  | _ => none

/-- The fields of an object added to those before; of a repeated key the last value counts. -/
def readFields? (item? : List Char → Option (Setting × List Char)) :
    Nat → Bool → Fields → List Char → Option (Fields × List Char)
  | 0, _, _, _ => none
  | fuel + 1, first, fields, cs =>
    match skipSpace cs, first with
    | '\x7d' :: rest, _ => some (fields, rest)
    | ',' :: rest, false => do
      let ((key, value), rest) ← readField? item? rest
      readFields? item? fuel false (Setting.setField key value fields) rest
    | rest, true => do
      let ((key, value), rest) ← readField? item? rest
      readFields? item? fuel false (Setting.setField key value fields) rest
    | _, false => none

/-- A value; `depth` lists and objects may still be opened. -/
def readValue? : Nat → List Char → Option (Setting × List Char)
  | depth, cs =>
    match skipSpace cs with
    | [] => none
    | '"' :: rest => (quoted? ('"' :: rest)).map fun (text, rest) => (.text text, rest)
    | '[' :: rest =>
      match depth with
      | 0 => none
      | depth + 1 =>
        (readItems? (readValue? depth) (rest.length + 1) true rest).map fun (items, rest) =>
          (.list items, rest)
    | '\x7b' :: rest =>
      match depth with
      | 0 => none
      | depth + 1 =>
        (readFields? (readValue? depth) (rest.length + 1) true [] rest).map fun (fields, rest) =>
          (.table fields, rest)
    | c :: rest =>
      if c = '-' || Number.isDigit c then readNumber? (c :: rest) else readWord? (c :: rest)

/-- A whole document, which must be an object. -/
def read? (text : String) : Option Fields :=
  match readValue? nestingLimit text.toList with
  | some (.table fields, rest) => if (skipSpace rest).isEmpty then some fields else none
  | _ => none

end Dimensional.Settings.JsonText
