import Dimensional.Catalog.Decode
import Dimensional.Catalog.Emissions
import Dimensional.Settings.Path
import Dimensional.Settings.JsonText
import Dimensional.Settings.Toml.Read

/-!
Where declarations come from: a TOML text, or a file in TOML or JSON, or the built-in catalog, the
latter two with settings from the environment laid over them.
-/

set_option autoImplicit false

namespace Dimensional.Catalog

open Settings

inductive SourceError where
  | unparsable
  | unreadable (path : String)
  | misshapen
deriving DecidableEq

def SourceError.message : SourceError → String
  | .unparsable => "Failed to parse catalog"
  | .unreadable path => "Failed to read catalog " ++ path
  | .misshapen => "Failed to deserialize catalog"

/-- A declaration from a source of settings and what is laid over it. -/
def ofSources (source overrides : Fields) : Except SourceError Declaration :=
  match Declaration.decode?
      (Setting.addSource overrides (Setting.addSource source (.table []))) with
  | some declaration => .ok declaration
  | none => .error .misshapen

/-- A declaration in TOML. -/
def ofToml (text : String) : Except SourceError Declaration :=
  match Toml.read? text with
  | some source => ofSources source []
  | none => .error .unparsable

inductive Format where
  | toml
  | json
deriving DecidableEq

def Format.read? : Format → String → Option Fields
  | .toml => Toml.read?
  | .json => JsonText.read?

/-- The last part of a path. -/
def fileName (path : List Char) : List Char :=
  (path.reverse.takeWhile (· != '/')).reverse

/-- What follows the last point of a file name, unless this point is its first character. -/
def fileExtension? (path : String) : Option String :=
  let name := fileName path.toList
  let extension := (name.reverse.takeWhile (· != '.')).reverse
  if extension.length + 1 < name.length then some (String.ofList extension) else none

/-- The format of a file, by its extension. -/
def Format.ofPath? (path : String) : Option Format :=
  match fileExtension? path with
  | some extension =>
    if extension = "toml" then some .toml else if extension = "json" then some .json else none
  | none => none

namespace Environment

/-- What the names of environment variables for settings start with, in small letters. -/
def namePrefix : List Char := "quanta__".toList

/-- Two underscores in a row divide the keys of a path. -/
def divide : List Char → List Char
  | '_' :: '_' :: rest => '.' :: divide rest
  | c :: rest => c :: divide rest
  | [] => []

/-- The path of the setting that an environment variable overrides. -/
def settingPath? (name : String) : Option String :=
  let name := name.toList.map lower
  if namePrefix.isPrefixOf name then
    some (String.ofList (divide (name.drop namePrefix.length)))
  else none

/-- The settings in an environment, all of them texts. -/
def settings (environment : List (String × String)) : Fields :=
  environment.filterMap fun entry =>
    (settingPath? entry.1).map fun path => (path, Setting.text entry.2)

end Environment

/-- A catalog file: its path, and its content if there is such a file. -/
structure CatalogFile where
  path : String
  content : Option String

def CatalogFile.read? (file : CatalogFile) : Option Fields :=
  match file.content, Format.ofPath? file.path with
  | some content, some format => format.read? content
  | _, _ => none

/-- The declaration of a file, or the built-in one, under the settings of the environment. -/
def load (file : Option CatalogFile) (environment : List (String × String)) :
    Except SourceError Declaration :=
  let overrides := Environment.settings environment
  match file with
  | none => ofSources emissions.encode overrides
  | some file =>
    match file.read? with
    | some source => ofSources source overrides
    | none => .error (.unreadable file.path)

end Dimensional.Catalog
