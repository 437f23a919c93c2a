import Dimensional.Settings.Basic
import Dimensional.Settings.JsonText

/-!
The values of TOML that are neither arrays nor tables: strings in their four forms, numbers and
booleans.
-/

set_option autoImplicit false

namespace Dimensional.Settings.Toml

def apostrophe : Char := Char.ofNat 39

def isBlank (c : Char) : Bool := c == ' ' || c == '\t'

/-- Characters that may stand in a comment or a literal string: no control character but the tab. -/
def isPrintable (c : Char) : Bool := c == '\t' || (decide (32 ≤ c.toNat) && c.toNat != 127)

/-- The rest after a line break. -/
def lineBreak? : List Char → Option (List Char)
  | '\n' :: rest => some rest
  | '\r' :: '\n' :: rest => some rest
  | _ => none

/-- The number of some hexadecimal digits. -/
def hexNumber? (digits : List Char) : Option Nat :=
  digits.foldlM (fun total c => (JsonText.hexValue? c).map (16 * total + ·)) 0

/-- The character with the code point written in `count` hexadecimal digits. -/
def readCodePoint? (count : Nat) (cs : List Char) : Option (Char × List Char) := do
  let digits := cs.take count
  let code ← hexNumber? digits
  if digits.length = count ∧ code.isValidChar then some (Char.ofNat code, cs.drop count) else none

/-- The character after a backslash. -/
def readEscape? : List Char → Option (Char × List Char)
  | 'b' :: rest => some (Char.ofNat 8, rest)
  | 't' :: rest => some ('\t', rest)
  | 'n' :: rest => some ('\n', rest)
  | 'f' :: rest => some (Char.ofNat 12, rest)
  | 'r' :: rest => some ('\r', rest)
  | '"' :: rest => some ('"', rest)
  | '\\' :: rest => some ('\\', rest)
  | 'u' :: rest => readCodePoint? 4 rest
  | 'U' :: rest => readCodePoint? 8 rest
  | _ => none

/-- The rest of a string on one line, up to its closing quotation mark. -/
def readBasic? : Nat → List Char → Option (List Char × List Char)
  | 0, _ => none
  | _, [] => none
  | _ + 1, '"' :: rest => some ([], rest)
  | fuel + 1, '\\' :: rest => do
    let (c, rest) ← readEscape? rest
    let (text, rest) ← readBasic? fuel rest
    some (c :: text, rest)
  | fuel + 1, c :: rest =>
    if isPrintable c then (readBasic? fuel rest).map fun (text, rest) => (c :: text, rest)
    else none

/-- The rest of a literal string on one line. -/
def readLiteral? (cs : List Char) : Option (List Char × List Char) :=
  let text := cs.takeWhile fun c => isPrintable c && c != apostrophe
  match cs.drop text.length with
  | c :: rest => if c = apostrophe then some (text, rest) else none
  | [] => none

/-- How many of the first five characters are `mark`. -/
def marks (mark : Char) (cs : List Char) : Nat := ((cs.take 5).takeWhile (· == mark)).length

/-- Blanks and whole line breaks. -/
def skipBlankLines : List Char → List Char
  | [] => []
  | '\r' :: '\n' :: rest => skipBlankLines rest
  | c :: rest => if isBlank c || c == '\n' then skipBlankLines rest else c :: rest

/-- A backslash at the end of a line: the blanks and line breaks after it are left out. -/
def skipLineEnd? (cs : List Char) : Option (List Char) :=
  (lineBreak? (cs.dropWhile isBlank)).map skipBlankLines

/-- The rest of a string on several lines. It ends at three marks, and up to two marks more right
before the end belong to it. -/
def readLines? (mark : Char) (escapes : Bool) : Nat → List Char → Option (List Char × List Char)
  | 0, _ => none
  | _, [] => none
  | fuel + 1, c :: rest =>
    if c = mark && decide (3 ≤ marks mark (c :: rest)) then
      let extra := marks mark (c :: rest) - 3
      some (List.replicate extra mark, rest.drop (extra + 2))
    else if escapes && c = '\\' then
      match skipLineEnd? rest with
      | some rest => readLines? mark escapes fuel rest
      | none => do
        let (c, rest) ← readEscape? rest
        let (text, rest) ← readLines? mark escapes fuel rest
        some (c :: text, rest)
    else
      match lineBreak? (c :: rest) with
      | some rest =>
        (readLines? mark escapes fuel rest).map fun (text, rest) => ('\n' :: text, rest)
      | none =>
        if isPrintable c then
          (readLines? mark escapes fuel rest).map fun (text, rest) => (c :: text, rest)
        else none

/-- A string in any of its forms. A line break right after three opening marks is left out. -/
def readString? (cs : List Char) : Option (String × List Char) :=
  let finish := fun (result : List Char × List Char) => (String.ofList result.1, result.2)
  match cs with
  | [] => none
  | c :: rest =>
    if c = '"' || c = apostrophe then
      if 3 ≤ marks c cs then
        let body := cs.drop 3
        let body := (lineBreak? body).getD body
        (readLines? c (c == '"') (body.length + 1) body).map finish
      else if c = '"' then (readBasic? (rest.length + 1) rest).map finish
      else (readLiteral? rest).map finish
    else none

/-- Digits with single underscores between them, without the underscores. -/
def plainDigits? (isDigit : Char → Bool) : List Char → Option (List Char)
  | [] => none
  | [c] => if isDigit c then some [c] else none
  | c :: '_' :: rest => if isDigit c then (plainDigits? isDigit rest).map (c :: ·) else none
  | c :: rest => if isDigit c then (plainDigits? isDigit rest).map (c :: ·) else none

/-- An integer of 64 bits with a sign. -/
def bounded? (value : Int) : Option Setting :=
  if -integerBound ≤ value ∧ value < integerBound then some (.integer value) else none

/-- Decimal digits without a leading zero. -/
def wholeDigits? (cs : List Char) : Option (List Char) := do
  let digits ← plainDigits? Number.isDigit cs
  if digits.head? = some '0' ∧ 1 < digits.length then none else some digits

def inBase? (base : Nat) (cs : List Char) : Option Setting := do
  let digits ← plainDigits? (fun c => (JsonText.hexValue? c).any (· < base)) cs
  let value ← digits.foldlM (fun total c => (JsonText.hexValue? c).map (base * total + ·)) 0
  bounded? value

def readInteger? (cs : List Char) : Option Setting :=
  match cs with
  | '0' :: 'x' :: rest => inBase? 16 rest
  | '0' :: 'o' :: rest => inBase? 8 rest
  | '0' :: 'b' :: rest => inBase? 2 rest
  | _ => do
    let (negative, rest) := Number.splitSign cs
    let digits ← wholeDigits? rest
    let magnitude : Int := Number.ofDigits digits
    bounded? (if negative then -magnitude else magnitude)

/-- Digits, and a fraction or an exponent or both. -/
def readFraction? (cs : List Char) : Option Float := do
  let (negative, unsigned) := Number.splitSign cs
  let whole ← wholeDigits? (unsigned.takeWhile fun c => Number.isDigit c || c == '_')
  let rest := unsigned.dropWhile fun c => Number.isDigit c || c == '_'
  let (fraction, rest) ← match rest with
    | '.' :: rest =>
      (plainDigits? Number.isDigit (rest.takeWhile fun c => Number.isDigit c || c == '_')).map
        fun digits => ('.' :: digits, rest.dropWhile fun c => Number.isDigit c || c == '_')
    | rest => some ([], rest)
  let exponent ← match rest with
    | [] => if fraction.isEmpty then none else some []
    | c :: rest =>
      if c = 'e' || c = 'E' then
        let (negative, digits) := Number.splitSign rest
        (plainDigits? Number.isDigit digits).map fun digits =>
          if negative then 'e' :: '-' :: digits else 'e' :: digits
      else none
  let magnitude ← Number.read? (whole ++ (fraction ++ exponent))
  if negative then some (-magnitude) else if magnitude.isInf then none else some magnitude

/-- A number too large for a double is refused, unless it is negative. -/
def readFloat? (cs : List Char) : Option Float :=
  let (negative, word) := Number.splitSign cs
  if word = ['i', 'n', 'f'] || word = ['n', 'a', 'n'] then
    (Number.read? word).map fun x => if negative then -x else x
  else readFraction? cs

/-- A boolean or a number, from its whole text. -/
def ofWord? (cs : List Char) : Option Setting :=
  if cs = ['t', 'r', 'u', 'e'] then some (.flag true)
  else if cs = ['f', 'a', 'l', 's', 'e'] then some (.flag false)
  else (readInteger? cs).or ((readFloat? cs).map .number)

end Dimensional.Settings.Toml
