import Dimensional.Settings.Basic
import Dimensional.Number.Reading

/-!
Paths into settings: a key, then keys of inner tables after points and places in lists between
square brackets, as in `units[0].name`. A place below zero counts from the end.
-/

set_option autoImplicit false

namespace Dimensional.Settings

inductive Step where
  | key (name : String)
  | place (index : Int)
deriving DecidableEq

namespace Path

def isKeyChar (c : Char) : Bool :=
  c.isAlpha || Number.isDigit c || c == '_' || c == '-' || c == ' '

def isSpace (c : Char) : Bool := c == ' ' || c == '\t'

/-- A place in a list, up to its closing bracket. -/
def readPlace? (cs : List Char) : Option (Int × List Char) :=
  let cs := cs.dropWhile isSpace
  let (negative, cs) := match cs with
    | '-' :: rest => (true, rest)
    | rest => (false, rest)
  let digits := cs.takeWhile Number.isDigit
  let magnitude := Number.ofDigits digits
  if digits.isEmpty || decide (integerBound ≤ magnitude) then none
  else
    match (cs.drop digits.length).dropWhile isSpace with
    | ']' :: rest => some (if negative then -(magnitude : Int) else magnitude, rest)
    | _ => none

/-- The steps after the first key; each takes at least one of at most `fuel` characters. -/
def readSteps? : Nat → List Char → Option (List Step)
  | _, [] => some []
  | 0, _ => none
  | fuel + 1, '.' :: cs =>
    let key := cs.takeWhile isKeyChar
    if key.isEmpty then none
    else (readSteps? fuel (cs.drop key.length)).map (.key (String.ofList key) :: ·)
  | fuel + 1, '[' :: cs =>
    match readPlace? cs with
    | none => none
    | some (index, rest) => (readSteps? fuel rest).map (.place index :: ·)
  | _, _ => none

/-- A path as text; none if it is not of the form. -/
def read? (text : String) : Option (List Step) :=
  let cs := text.toList
  let key := cs.takeWhile isKeyChar
  if key.isEmpty then none
  else (readSteps? cs.length (cs.drop key.length)).map (.key (String.ofList key) :: ·)

end Path

namespace Setting

/-- The index that a place stands for in a list of the given length. -/
def placeIndex (place : Int) (length : Nat) : Nat :=
  if 0 ≤ place then place.toNat else (length + place).toNat

/-- Replaces an item; a list that is too short is filled up first. -/
def setItem (index : Nat) (value : Setting) (items : List Setting) : List Setting :=
  (items ++ List.replicate (index + 1 - items.length) nothing).set index value

/-- Lays a value over what is at the end of a path. Whatever on the way is no table, or no list, is
replaced by one. -/
def assign (value : Setting) : List Step → Setting → Setting
  | [], target => target
  | [.key name], target => overlayFields [(name, value)] target
  | [.place place], target =>
    let items := target.items
    list (setItem (placeIndex place items.length) value items)
  | .key name :: path, target =>
    let inner := (target.fields.lookup (lowerKey name)).getD nothing
    table (setField (lowerKey name) (assign value path inner) target.fields)
  | .place place :: path, target =>
    let items := target.items
    let index := placeIndex place items.length
    list (setItem index (assign value path (items[index]?.getD nothing)) items)

/-- Adds a source of settings. Its own keys are read as paths; one that is no path is taken
literally. -/
def addSource (source : Fields) (target : Setting) : Setting :=
  source.foldl
    (fun target entry =>
      assign entry.2 ((Path.read? entry.1).getD [.key entry.1]) target)
    target

end Setting

end Dimensional.Settings
