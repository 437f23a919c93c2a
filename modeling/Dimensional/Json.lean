import Dimensional.Number.Style

/-!
JSON documents as text, one item to a line, indented by two spaces.
-/

set_option autoImplicit false

namespace Dimensional

inductive Json where
  | null
  | integer (value : Int)
  | number (value : Float)
  | text (value : String)
  | array (items : List Json)
  | object (fields : List (String × Json))

namespace Json

/-- A value that may be missing. -/
def ofOption {β : Type} (encode : β → Json) : Option β → Json
  | none => null
  | some value => encode value

def hexDigit (n : Nat) : Char := Nat.digitChar n

/-- Quotation marks, backslashes and control characters are escaped, nothing else. -/
def escape (c : Char) : List Char :=
  if c = '"' then ['\\', '"']
  else if c = '\\' then ['\\', '\\']
  else if c.toNat = 8 then ['\\', 'b']
  else if c.toNat = 9 then ['\\', 't']
  else if c.toNat = 10 then ['\\', 'n']
  else if c.toNat = 12 then ['\\', 'f']
  else if c.toNat = 13 then ['\\', 'r']
  else if c.toNat < 32 then
    ['\\', 'u', '0', '0', hexDigit (c.toNat / 16), hexDigit (c.toNat % 16)]
  else [c]

def quoted (text : String) : String :=
  String.ofList ('"' :: (text.toList.flatMap escape ++ ['"']))

/-- A double; one that is not finite has no JSON form and is written as null. -/
def numberText (x : Float) : String :=
  if x.isFinite then NumberStyle.json.render x else "null"

def indentation (level : Nat) : String := String.ofList (List.replicate (2 * level) ' ')

/-- Lines between an opening and a closing bracket; no lines, no line breaks. -/
def bracketed (opening closing : String) (level : Nat) : List String → String
  | [] => opening ++ closing
  | lines =>
    let inner := "\n" ++ indentation (level + 1)
    opening ++ inner ++ ("," ++ inner).intercalate lines ++ "\n" ++ indentation level ++ closing

mutual

/-- The document, its lines after the first indented by `level` steps. -/
def pretty (level : Nat) : Json → String
  | null => "null"
  | integer value => toString value
  | number value => numberText value
  | text value => quoted value
  | array items => bracketed "[" "]" level (prettyItems (level + 1) items)
  | object fields => bracketed "\x7b" "\x7d" level (prettyFields (level + 1) fields)

def prettyItems (level : Nat) : List Json → List String
  | [] => []
  | item :: rest => pretty level item :: prettyItems level rest

def prettyFields (level : Nat) : List (String × Json) → List String
  | [] => []
  | (name, value) :: rest => (quoted name ++ ": " ++ pretty level value) :: prettyFields level rest

end

end Json

end Dimensional
