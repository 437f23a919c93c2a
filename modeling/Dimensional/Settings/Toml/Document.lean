import Dimensional.Settings.Basic
import Dimensional.Settings.Toml.Moment

/-!
TOML documents and the settings in them. A table remembers how it came to be: a header or an inline
table fixes it once and for all, while one that was only passed through may still be completed.
-/

set_option autoImplicit false

namespace Dimensional.Settings.Toml

/-- How a table came to be: by a header, as part of a longer header, or by a dotted key. -/
inductive Origin where
  | header
  | implied
  | dotted
deriving DecidableEq

/-- A scalar is a text, a number or a boolean; `series` is an array of tables. -/
inductive Node where
  | scalar (content : Setting)
  | moment (content : Moment)
  | array (items : List Node)
  | inline (entries : List (String × Node))
  | table (origin : Origin) (entries : List (String × Node))
  | series (tables : List (List (String × Node)))

abbrev Entries := List (String × Node)

namespace Node

/-- Replaces the entry of a key, or adds it at the end. -/
def put (key : String) (node : Node) : Entries → Entries
  | [] => [(key, node)]
  | (known, old) :: rest =>
    if known = key then (known, node) :: rest else (known, old) :: put key node rest

/-- Changes the table at the end of a path, given its origin. Tables on the way are made as needed;
of an array of tables the last one is meant. A dotted path may enter no table that has a header. -/
def change (dotted : Bool) (edit? : Origin → Entries → Option Entries) :
    List String → Origin → Entries → Option Entries
  | [], origin, entries => edit? origin entries
  | key :: path, _, entries =>
    match entries.lookup key with
    | none =>
      let origin := if dotted then .dotted else .implied
      (change dotted edit? path origin []).map fun inner => put key (table origin inner) entries
    | some (series tables) =>
      match tables.getLast? with
      | none => none
      | some inner =>
        (change dotted edit? path .header inner).map fun inner =>
          put key (series (tables.dropLast ++ [inner])) entries
    | some (table origin inner) =>
      if dotted && origin = .header then none
      else (change dotted edit? path origin inner).map fun inner =>
        put key (table origin inner) entries
    | some _ => none

/-- Adds a value under a dotted key. A table named by a dotted key is completed by dotted keys only,
and no key is given twice. -/
def addValue? (path : List String) (key : String) (node : Node) (entries : Entries) :
    Option Entries :=
  change true
    (fun origin entries =>
      if decide (origin = .dotted) == path.isEmpty then none
      else if (entries.lookup key).isSome then none
      else some (put key node entries))
    path .header entries

/-- Opens the table of a header. One only implied so far is completed, and goes to the end. -/
def openTable? (path : List String) (key : String) (entries : Entries) : Option Entries :=
  change false
    (fun _ entries =>
      match entries.lookup key with
      | none => some (put key (table .header []) entries)
      | some (table .implied inner) =>
        some (entries.filter (fun entry => entry.1 != key) ++ [(key, table .header inner)])
      | some _ => none)
    path .header entries

/-- Adds a table to an array of tables. -/
def openItem? (path : List String) (key : String) (entries : Entries) : Option Entries :=
  change false
    (fun _ entries =>
      match entries.lookup key with
      | none => some (put key (series [[]]) entries)
      | some (series tables) => some (put key (series (tables ++ [[]])) entries)
      | some _ => none)
    path .header entries

/-- Edits the table that the latest header opened. -/
def inOpenTable? (header : List String) (edit? : Entries → Option Entries) (entries : Entries) :
    Option Entries :=
  change false (fun _ entries => edit? entries) header .header entries

end Node

/-- The key under which a table gives a moment as text, if it is the first key of the table. -/
def momentKey : String := "$__toml_private_datetime"

/-- The moment that a text gives in full. -/
def Node.writtenMoment? : Node → Option Moment
  | .scalar (.text content) => Moment.ofText? content.toList
  | _ => none

mutual

/-- A node as a setting. Moments become texts; there is none if a moment is misspelt. -/
def Node.toSetting? : Node → Option Setting
  | .scalar content => some content
  | .moment content => some (.text (String.ofList content.text))
  | .array items => (Node.toItems? items).map .list
  | .inline entries => Node.toTable? entries
  | .table _ entries => Node.toTable? entries
  | .series tables => (Node.toTables? tables).map .list

def Node.toItems? : List Node → Option (List Setting)
  | [] => some []
  | node :: rest => do
    let item ← node.toSetting?
    let items ← Node.toItems? rest
    some (item :: items)

def Node.toTables? : List (List (String × Node)) → Option (List Setting)
  | [] => some []
  | entries :: rest => do
    let item ← Node.toTable? entries
    let items ← Node.toTables? rest
    some (item :: items)

/-- A table, or the moment that it stands for; all other keys of such a table are ignored. -/
def Node.toTable? : List (String × Node) → Option Setting
  | [] => some (.table [])
  | (key, node) :: rest =>
    if key = momentKey then
      node.writtenMoment?.map fun content => .text (String.ofList content.text)
    else do
      let value ← node.toSetting?
      let fields ← Node.toFields? rest
      some (.table ((key, value) :: fields))

def Node.toFields? : List (String × Node) → Option Fields
  | [] => some []
  | (key, node) :: rest => do
    let value ← node.toSetting?
    let fields ← Node.toFields? rest
    some ((key, value) :: fields)

end

end Dimensional.Settings.Toml
