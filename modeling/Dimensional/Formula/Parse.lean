import Dimensional.Formula.Token
import Dimensional.Formula.Expr

/-!
From tokens to trees. Additive operators bind weakest, then multiplicative ones, then the power, and
a minus sign before an operand strongest; all chains associate to the left. Parentheses and minus
signs may nest only so deeply, and an operation may be only so high.
-/

set_option autoImplicit false

namespace Dimensional.Formula

inductive ParseError where
  | unexpectedEnd
  | unexpected (token : Token)
  | expected (kind : TokenKind) (found : Token)
  | invalidNumber (token : Token)
  | nestedTooDeeply
  | treeTooHigh
deriving DecidableEq

/-- How deeply expressions may nest, the outermost one included. -/
def nestingLimit : Nat := 200

/-- How high a tree with a binary operation at its root may be. -/
def heightLimit : Nat := 1024

namespace ParseError

def placeText (token : Token) : String :=
  " at line " ++ toString token.place.line ++ ", column " ++ toString token.place.column

def message : ParseError → String
  | unexpectedEnd => "Unexpected end of input"
  | unexpected token =>
    if token.kind = .unknown then token.text ++ placeText token
    else "Unexpected token '" ++ token.text ++ "'" ++ placeText token
  | expected kind found =>
    "Expected " ++ kind.name ++ ", got " ++ found.kind.name ++ placeText found
  | invalidNumber token =>
    "Invalid number '" ++ token.text ++ "'" ++ placeText token ++ ": invalid float literal"
  | nestedTooDeeply =>
    "Expression too deeply nested (max depth: " ++ toString nestingLimit ++ ")"
  | treeTooHigh =>
    "Expression too deeply nested (max tree depth: " ++ toString heightLimit ++ ")"

end ParseError

/-- What a reader of tokens gives: a tree and the tokens after it, or an error. -/
abbrev Parsed := Except ParseError (Expr Float × List Token)

namespace Parse

/-- The error at a token that cannot stand where it does. -/
def refuse (token : Token) : ParseError :=
  if token.kind = .endOfInput then .unexpectedEnd else .unexpected token

/-- The value of a number. A number with a power is worked out at once. -/
def numberValue? (lexeme : List Char) : Option Float :=
  let base := Number.read? (lexeme.takeWhile (· != '^'))
  match lexeme.dropWhile (· != '^') with
  | [] => base
  | _ :: power => base.bind fun base => (Number.read? power).map (Float.pow base)

def additive? : TokenKind → Option Operator
  | .plus => some .add
  | .minus => some .subtract
  | _ => none

def multiplicative? : TokenKind → Option Operator
  | .multiply => some .multiply
  | .divide => some .divide
  | .percent => some .modulo
  | _ => none

def power? : TokenKind → Option Operator
  | .caret => some .power
  | _ => none

/-- Goes on with a chain whose tree so far is `left`, of height `height`. Each step takes a token,
so `fuel` tokens allow for `fuel` steps. -/
def chainFrom (operator? : TokenKind → Option Operator) (operand : List Token → Parsed) :
    Nat → Expr Float → Nat → List Token → Parsed
  | 0, left, _, tokens => .ok (left, tokens)
  | _ + 1, left, _, [] => .ok (left, [])
  | fuel + 1, left, height, token :: tokens =>
    match operator? token.kind with
    | none => .ok (left, token :: tokens)
    | some operator =>
      match operand tokens with
      | .error error => .error error
      | .ok (right, tokens) =>
        let height := max height right.depth + 1
        if heightLimit < height then .error .treeTooHigh
        else chainFrom operator? operand fuel (.binary left operator right) height tokens

/-- Operands joined by operators of one level, from the left. -/
def chain (operator? : TokenKind → Option Operator) (operand : List Token → Parsed)
    (tokens : List Token) : Parsed :=
  match operand tokens with
  | .error error => .error error
  | .ok (first, rest) => chainFrom operator? operand rest.length first first.depth rest

/-- The three levels of binary operators over an operand. -/
def sum (operand : List Token → Parsed) : List Token → Parsed :=
  chain additive? (chain multiplicative? (chain power? operand))

/-- Takes the parenthesis that ends a group. -/
def close (expr : Expr Float) : List Token → Parsed
  | [] => .error .unexpectedEnd
  | token :: rest =>
    if token.kind = .closeParen then .ok (expr, rest)
    else if token.kind = .unknown then .error (.unexpected token)
    else .error (.expected .closeParen token)

/-- An operand: a number, a name, a group, or a minus sign and an operand. `budget` more groups and
minus signs may be opened. -/
def operand : Nat → List Token → Parsed
  | _, [] => .error .unexpectedEnd
  | budget, token :: rest =>
    match token.kind with
    | .number =>
      match numberValue? token.text.toList with
      | some value => .ok (.number value, rest)
      | none => .error (.invalidNumber token)
    | .identifier => .ok (.identifier token.text, rest)
    | .minus =>
      match budget with
      | 0 => .error .nestedTooDeeply
      | budget + 1 =>
        match operand budget rest with
        | .error error => .error error
        | .ok (inner, rest) => .ok (.negate inner, rest)
    | .openParen =>
      match budget with
      | 0 => .error .nestedTooDeeply
      | budget + 1 =>
        match sum (operand budget) rest with
        | .error error => .error error
        | .ok (inner, rest) => close inner rest
    | _ => .error (refuse token)

/-- An expression and nothing after it. -/
def tokens (all : List Token) : Except ParseError (Expr Float) :=
  match sum (operand (nestingLimit - 1)) all with
  | .error error => .error error
  | .ok (expr, []) => .ok expr
  | .ok (expr, token :: _) =>
    if token.kind = .endOfInput then .ok expr else .error (.unexpected token)

end Parse

/-- The tree of a formula. -/
def Expr.parse (text : String) : Except ParseError (Expr Float) := Parse.tokens (Token.scan text)

end Dimensional.Formula
