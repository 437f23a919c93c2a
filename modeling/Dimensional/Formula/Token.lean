import Dimensional.Formula.Blank
import Dimensional.Number.Reading

/-!
Tokens of a formula and where they stand in it. `Token.scan` cuts a text into tokens: each takes the
longest lexeme that starts at its place, blanks between lexemes are dropped, and a character with
which no lexeme starts becomes a token of its own.
-/

set_option autoImplicit false

namespace Dimensional.Formula

inductive TokenKind where
  | number
  | identifier
  | plus
  | minus
  | multiply
  | divide
  | caret
  | percent
  | openParen
  | closeParen
  | endOfInput
  | unknown
deriving DecidableEq

/-- The name by which messages refer to a kind of token. -/
def TokenKind.name : TokenKind → String
  | .number => "NumberLiteral"
  | .identifier => "Identifier"
  | .plus => "Plus"
  | .minus => "Minus"
  | .multiply => "Multiply"
  | .divide => "Divide"
  | .caret => "Caret"
  | .percent => "Percent"
  | .openParen => "OpenParen"
  | .closeParen => "CloseParen"
  | .endOfInput => "Eof"
  | .unknown => "Error"

/-- A place in a text: characters before it, and its line and column, which count from one. -/
structure Place where
  position : Nat
  line : Nat
  column : Nat
deriving DecidableEq

namespace Place

def start : Place := ⟨0, 1, 1⟩

/-- The place after a character. Only a line feed ends a line. -/
def after (place : Place) (c : Char) : Place :=
  if c = '\n' then ⟨place.position + 1, place.line + 1, 1⟩
  else ⟨place.position + 1, place.line, place.column + 1⟩

@[simp] theorem position_after (place : Place) (c : Char) :
    (place.after c).position = place.position + 1 := by
  unfold after
  split <;> rfl

end Place

/-- The text of an unknown token is a message; that of any other token is its lexeme. -/
structure Token where
  kind : TokenKind
  text : String
  place : Place
deriving DecidableEq

def isIdentifierStart (c : Char) : Bool := c.isAlpha || c == '_'

def isIdentifierPart (c : Char) : Bool := c.isAlpha || Number.isDigit c || c == '_'

/-- The tokens that are one character long. -/
def symbolKind? : Char → Option TokenKind
  | '+' => some .plus
  | '-' => some .minus
  | '*' => some .multiply
  | '/' => some .divide
  | '^' => some .caret
  | '%' => some .percent
  | '(' => some .openParen
  | ')' => some .closeParen
  | _ => none

namespace Lexeme

/-- The run of digits at the front. -/
def digits (cs : List Char) : List Char := cs.takeWhile Number.isDigit

/-- A point with the digits after it; nothing if no digit follows the point. -/
def fraction : List Char → List Char
  | '.' :: rest => if (digits rest).isEmpty then [] else '.' :: digits rest
  | _ => []

/-- A sign, if there is one. -/
def sign : List Char → List Char
  | '+' :: _ => ['+']
  | '-' :: _ => ['-']
  | _ => []

/-- A mark followed by an optional sign and digits; nothing if the digits are missing. -/
def suffix (isMark : Char → Bool) : List Char → List Char
  | [] => []
  | c :: rest =>
    let run := digits (rest.drop (sign rest).length)
    if isMark c && !run.isEmpty then c :: (sign rest ++ run) else []

/-- The exponent of a number: `e5`, `E-3`. -/
def exponent (cs : List Char) : List Char := suffix (fun c => c == 'e' || c == 'E') cs

/-- The power of a number: `^3`, `^-3`. -/
def power (cs : List Char) : List Char := suffix (· == '^') cs

/-- Digits, a fraction, an exponent and a power, each as far as it is complete. -/
def number (cs : List Char) : List Char :=
  let whole := digits cs
  let cs := cs.drop whole.length
  let point := fraction cs
  let cs := cs.drop point.length
  let scale := exponent cs
  let cs := cs.drop scale.length
  whole ++ (point ++ (scale ++ power cs))

/-- Whether a number starts with the character, given what follows it. -/
def startsNumber (c : Char) (rest : List Char) : Bool :=
  Number.isDigit c || (c == '.' && !(digits rest).isEmpty)

/-- The lexeme at the front of `c :: rest` and its kind. -/
def read (c : Char) (rest : List Char) : TokenKind × List Char :=
  match symbolKind? c with
  | some kind => (kind, [c])
  | none =>
    if isIdentifierStart c then (.identifier, (c :: rest).takeWhile isIdentifierPart)
    else if startsNumber c rest then (.number, number (c :: rest))
    else (.unknown, [c])

end Lexeme

namespace Token

/-- The token with a lexeme. -/
def ofLexeme (kind : TokenKind) (lexeme : List Char) (place : Place) : Token :=
  match kind with
  | .unknown => ⟨.unknown, "Unexpected character '" ++ String.ofList lexeme ++ "'", place⟩
  | kind => ⟨kind, String.ofList lexeme, place⟩

/-- The tokens of `cs`, the first `pending` characters of which belong to a token already found. -/
def scanFrom : Place → Nat → List Char → List Token
  | place, _, [] => [⟨.endOfInput, "", place⟩]
  | place, pending + 1, c :: cs => scanFrom (place.after c) pending cs
  | place, 0, c :: cs =>
    if isBlank c then scanFrom (place.after c) 0 cs
    else
      let (kind, lexeme) := Lexeme.read c cs
      ofLexeme kind lexeme place :: scanFrom (place.after c) (lexeme.length - 1) cs

/-- All tokens of a text; the last one, and only it, is the end of the input. -/
def scan (text : String) : List Token := scanFrom Place.start 0 text.toList

@[simp] theorem scanFrom_nil (place : Place) (pending : Nat) :
    scanFrom place pending [] = [⟨.endOfInput, "", place⟩] := by
  cases pending <;> rfl

theorem scanFrom_pending (place : Place) (pending : Nat) (c : Char) (cs : List Char) :
    scanFrom place (pending + 1) (c :: cs) = scanFrom (place.after c) pending cs := rfl

theorem scanFrom_blank (place : Place) (c : Char) (cs : List Char) (blank : isBlank c = true) :
    scanFrom place 0 (c :: cs) = scanFrom (place.after c) 0 cs := by
  simp [scanFrom, blank]

theorem scanFrom_lexeme (place : Place) (c : Char) (cs : List Char) (solid : isBlank c = false) :
    scanFrom place 0 (c :: cs) =
      ofLexeme (Lexeme.read c cs).1 (Lexeme.read c cs).2 place
        :: scanFrom (place.after c) ((Lexeme.read c cs).2.length - 1) cs := by
  simp [scanFrom, solid]

end Token

end Dimensional.Formula
