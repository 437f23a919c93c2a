import Dimensional.Settings.Toml.Document
import Dimensional.Settings.Toml.Scalar
import Dimensional.Settings.Toml.Moment

/-!
Settings written in TOML.
-/

set_option autoImplicit false

namespace Dimensional.Settings.Toml

/-- Arrays and inline tables may nest to this depth, and a key may have as many parts. -/
def nestingLimit : Nat := 79

def skipBlanks (cs : List Char) : List Char := cs.dropWhile isBlank

def isBareKeyChar (c : Char) : Bool := c.isAlpha || Number.isDigit c || c == '_' || c == '-'

/-- One part of a key: bare, or a string on one line. -/
def readKeyPart? (cs : List Char) : Option (String × List Char) :=
  match cs with
  | [] => none
  | c :: rest =>
    if c = '"' then
      (readBasic? (rest.length + 1) rest).map fun (key, rest) => (String.ofList key, rest)
    else if c = apostrophe then
      (readLiteral? rest).map fun (key, rest) => (String.ofList key, rest)
    else
      let key := cs.takeWhile isBareKeyChar
      if key.isEmpty then none else some (String.ofList key, cs.drop key.length)

/-- A key: at most `limit` parts divided by points, with blanks around each. -/
def readKey? : Nat → List Char → Option (List String × List Char)
  | 0, _ => none
  | limit + 1, cs => do
    let (part, rest) ← readKeyPart? (skipBlanks cs)
    match skipBlanks rest with
    | '.' :: rest => do
      let (parts, rest) ← readKey? limit rest
      some (part :: parts, rest)
    | rest => some ([part], rest)

/-- A comment, if there is one; it may not hold control characters. -/
def skipComment : List Char → List Char
  | '#' :: rest => rest.dropWhile isPrintable
  | rest => rest

/-- Blanks, line breaks and comments between the items of an array. -/
def skipFiller : Nat → List Char → List Char
  | 0, cs => cs
  | fuel + 1, cs =>
    let cs := skipBlanks cs
    match lineBreak? cs with
    | some rest => skipFiller fuel rest
    | none =>
      match cs with
      | '#' :: rest =>
        match lineBreak? (rest.dropWhile isPrintable) with
        | some rest => skipFiller fuel rest
        | none => '#' :: rest
      | cs => cs

/-- The characters that a number or a word is made of. -/
def isWordChar (c : Char) : Bool :=
  c.isAlpha || Number.isDigit c || c == '_' || c == '-' || c == '+' || c == '.'

/-- The items of an array, up to its closing bracket. -/
def readItems? (item? : List Char → Option (Node × List Char)) :
    Nat → List Char → Option (List Node × List Char)
  | 0, _ => none
  | fuel + 1, cs =>
    match skipFiller cs.length cs with
    | ']' :: rest => some ([], rest)
    | cs => do
      let (value, rest) ← item? cs
      match skipFiller rest.length rest with
      | ']' :: rest => some ([value], rest)
      | ',' :: rest => do
        let (values, rest) ← readItems? item? fuel rest
        some (value :: values, rest)
      | _ => none

/-- A key, an equals sign and a value: the path, the last part of the key, and the value. -/
def readPair? (item? : List Char → Option (Node × List Char)) (cs : List Char) :
    Option ((List String × String × Node) × List Char) := do
  let (key, rest) ← readKey? nestingLimit cs
  let last ← key.getLast?
  match rest with
  | '=' :: rest =>
    let (value, rest) ← item? (skipBlanks rest)
    some ((key.dropLast, last, value), rest)
  | _ => none

/-- The pairs of an inline table, up to its closing brace. -/
def readPairs? (item? : List Char → Option (Node × List Char)) :
    Nat → Entries → List Char → Option (Entries × List Char)
  | 0, _, _ => none
  | fuel + 1, entries, cs => do
    let ((path, key, value), rest) ← readPair? item? cs
    let entries ← Node.addValue? path key value entries
    match skipBlanks rest with
    | '\x7d' :: rest => some (entries, rest)
    | ',' :: rest => readPairs? item? fuel entries rest
    | _ => none

/-- A value; `depth` arrays and inline tables may still be opened. -/
def readValue? : Nat → List Char → Option (Node × List Char)
  | _, [] => none
  | depth, c :: rest =>
    if c = '"' || c = apostrophe then
      (readString? (c :: rest)).map fun (text, rest) => (.scalar (.text text), rest)
    else if c = '[' then
      match depth with
      | 0 => none
      | depth + 1 =>
        (readItems? (readValue? depth) (rest.length + 1) rest).map fun (items, rest) =>
          (.array items, rest)
    else if c = '\x7b' then
      match depth with
      | 0 => none
      | depth + 1 =>
        match skipBlanks rest with
        | '\x7d' :: rest => some (.inline [], rest)
        | rest =>
          (readPairs? (readValue? depth) (rest.length + 1) [] rest).map fun (entries, rest) =>
            (.inline entries, rest)
    else
      match Moment.read? (c :: rest) with
      | some (moment, rest) => some (.moment moment, rest)
      | none =>
        let word := (c :: rest).takeWhile isWordChar
        (ofWord? word).map fun value => (.scalar value, (c :: rest).drop word.length)

/-- The rest after the end of a line, which may hold a comment. -/
def endLine? (cs : List Char) : Option (List Char) :=
  match skipComment (skipBlanks cs) with
  | [] => some []
  | rest => lineBreak? rest

/-- A header: whether it adds to an array of tables, and its key. -/
def readHeader? : List Char → Option ((Bool × List String) × List Char)
  | '[' :: '[' :: rest => do
    let (key, rest) ← readKey? nestingLimit rest
    match rest with
    | ']' :: ']' :: rest => some ((true, key), rest)
    | _ => none
  | '[' :: rest => do
    let (key, rest) ← readKey? nestingLimit rest
    match rest with
    | ']' :: rest => some ((false, key), rest)
    | _ => none
  | _ => none

/-- Reads line after line; `header` is the key of the table that is open. -/
def readLinesFrom? : Nat → List String → Entries → List Char → Option Entries
  | 0, _, _, _ => none
  | fuel + 1, header, entries, cs =>
    match skipBlanks cs with
    | [] => some entries
    | '[' :: rest => do
      let ((isSeries, key), rest) ← readHeader? ('[' :: rest)
      let last ← key.getLast?
      let entries ← if isSeries then Node.openItem? key.dropLast last entries
        else Node.openTable? key.dropLast last entries
      let rest ← endLine? rest
      readLinesFrom? fuel key entries rest
    | c :: rest =>
      if c = '#' || c = '\n' || c = '\r' then do
        let rest ← endLine? (c :: rest)
        readLinesFrom? fuel header entries rest
      else do
        let ((path, key, value), rest) ← readPair? (readValue? nestingLimit) (c :: rest)
        let entries ← Node.inOpenTable? header (Node.addValue? path key value) entries
        let rest ← endLine? rest
        readLinesFrom? fuel header entries rest

/-- A whole document. A byte order mark at its beginning is left out. -/
def read? (text : String) : Option Fields :=
  let cs := text.toList
  let cs := if cs.head? = some (Char.ofNat 0xFEFF) then cs.drop 1 else cs
  match (readLinesFrom? (cs.length + 1) [] [] cs).bind Node.toTable? with
  | some (.table fields) => some fields
  | _ => none

end Dimensional.Settings.Toml
