import Dimensional.Catalog.Command
import Dimensional.Catalog.Source

/-!
Calls of the program: what their arguments ask for, and what is answered. An argument is a word or
an option; the first word names the command and the others are its operands. A catalog file and a
level for logging may be given with every command, other options only after a command that has them.
-/

set_option autoImplicit false

namespace Dimensional.Catalog

inductive OptionName where
  | catalog
  | logLevel
  | target
  | json
deriving DecidableEq

namespace OptionName

def long : OptionName → String
  | catalog => "catalog"
  | logLevel => "log-level"
  | target => "target"
  | json => "json"

def all : List OptionName := [catalog, logLevel, target, json]

def ofLong? (name : String) : Option OptionName := all.find? fun option => option.long == name

def takesValue (option : OptionName) : Bool := option != json

/-- Whether an option may stand anywhere. -/
def isGlobal (option : OptionName) : Bool := option == catalog || option == logLevel

theorem ofLong?_long (option : OptionName) : ofLong? option.long = some option := by
  cases option <;> decide

end OptionName

inductive UsageError where
  | unexpected (argument : String)
  | missingValue (option : OptionName)
  | repeated (option : OptionName)
  | unknownCommand (name : String)
  | missingOperand (name : String)
  | missingCommand
deriving DecidableEq

def usage : String :=
  "Usage: quanta [--catalog FILE] [--log-level LEVEL] COMMAND\n\n"
    ++ "Commands:\n"
    ++ "  eval EXPRESSION [-t UNIT | --target UNIT] [--json]   Evaluate a formula\n"
    ++ "  units [--json]                                       List catalog units\n"
    ++ "  convert FROM TO                                      Print a conversion factor\n"
    ++ "  variables                                            List catalog variables\n"

def UsageError.message : UsageError → String
  | .unexpected argument => "unexpected argument '" ++ argument ++ "' found"
  | .missingValue option => "a value is required for '--" ++ option.long ++ "'"
  | .repeated option => "the argument '--" ++ option.long ++ "' cannot be used multiple times"
  | .unknownCommand name => "unrecognized subcommand '" ++ name ++ "'"
  | .missingOperand name => "the required argument <" ++ name ++ "> was not provided"
  | .missingCommand => "a command is required"

/-- The arguments read so far. -/
structure Given where
  words : List String
  options : List (OptionName × String)

inductive Argument where
  | word (text : String)
  | option (name : OptionName) (value : Option String)
  | endOfOptions
  | unknown

/-- An argument by its form. The value of an option may follow an equals sign, and that of a short
option may follow its letter at once. -/
def Argument.ofText (text : String) : Argument :=
  match text.toList with
  | ['-', '-'] => .endOfOptions
  | '-' :: '-' :: rest =>
    let value := match rest.dropWhile (· != '=') with
      | [] => none
      | _ :: value => some (String.ofList value)
    match OptionName.ofLong? (String.ofList (rest.takeWhile (· != '='))) with
    | some name => if value.isSome && !name.takesValue then .unknown else .option name value
    | none => .unknown
  | ['-', 't'] => .option .target none
  | '-' :: 't' :: '=' :: value => .option .target (some (String.ofList value))
  | '-' :: 't' :: value => .option .target (some (String.ofList value))
  | ['-'] => .word text
  | '-' :: _ => .unknown
  | _ => .word text

namespace Given

def empty : Given := ⟨[], []⟩

/-- Adds an option. Only global ones may stand before the command, and each stands once. -/
def addOption (given : Given) (option : OptionName) (value : String) :
    Except UsageError Given :=
  if given.words.isEmpty && !option.isGlobal then .error (.unexpected ("--" ++ option.long))
  else if (given.options.lookup option).isSome then .error (.repeated option)
  else .ok { given with options := given.options ++ [(option, value)] }

/-- Reads arguments one after the other; after two dashes all of them are words. -/
def readFrom : Given → List String → Except UsageError Given
  | given, [] => .ok given
  | given, text :: rest =>
    match Argument.ofText text with
    | .word word => readFrom { given with words := given.words ++ [word] } rest
    | .endOfOptions => .ok { given with words := given.words ++ rest }
    | .unknown => .error (.unexpected text)
    | .option option (some value) =>
      match given.addOption option value with
      | .ok given => readFrom given rest
      | .error error => .error error
    | .option option none =>
      if option.takesValue then
        match rest with
        | [] => .error (.missingValue option)
        | value :: rest =>
          match Argument.ofText value, given.addOption option value with
          | .word _, .ok given => readFrom given rest
          | .word _, .error error => .error error
          | _, _ => .error (.missingValue option)
      else
        match given.addOption option "" with
        | .ok given => readFrom given rest
        | .error error => .error error

/-- Refuses options that the command does not have. -/
def allow (given : Given) (options : List OptionName) (command : Command) :
    Except UsageError Command :=
  match given.options.find? fun entry => !entry.1.isGlobal && !options.contains entry.1 with
  | some entry => .error (.unexpected ("--" ++ entry.1.long))
  | none => .ok command

def command (given : Given) : Except UsageError Command :=
  let json := (given.options.lookup .json).isSome
  match given.words with
  | [] => .error .missingCommand
  | ["eval"] => .error (.missingOperand "EXPRESSION")
  | ["eval", expression] =>
    given.allow [.target, .json] (.eval expression (given.options.lookup .target) json)
  | ["units"] => given.allow [.json] (.listUnits json)
  | ["convert"] => .error (.missingOperand "FROM")
  | ["convert", _] => .error (.missingOperand "TO")
  | ["convert", source, target] => given.allow [] (.convert source target)
  | ["variables"] => given.allow [] .listVariables
  | "eval" :: _ :: extra :: _ => .error (.unexpected extra)
  | "units" :: extra :: _ => .error (.unexpected extra)
  | "convert" :: _ :: _ :: extra :: _ => .error (.unexpected extra)
  | "variables" :: extra :: _ => .error (.unexpected extra)
  | name :: _ => .error (.unknownCommand name)

end Given

/-- A command, the path of the catalog that it runs on, and a level for logging instead of the
catalog's own. -/
structure Invocation where
  command : Command
  path : Option String
  logLevel : Option String

/-- Why a call has no answer. -/
inductive InvocationError where
  | loading (error : SourceError)
  | building (error : BuildError)
  | running (error : CommandError)

def InvocationError.message : InvocationError → String
  | .loading error => "Failed to load catalog: " ++ error.message
  | .building error => "Failed to build catalog: " ++ error.message
  | .running error => error.message

namespace Invocation

def read (arguments : List String) : Except UsageError Invocation := do
  let given ← Given.empty.readFrom arguments
  let command ← given.command
  .ok ⟨command, given.options.lookup .catalog, given.options.lookup .logLevel⟩

/-- The declaration that the call works with. -/
def configure (invocation : Invocation) (declaration : Declaration) : Declaration :=
  { declaration with
    logging := { declaration.logging with
      level := invocation.logLevel.getD declaration.logging.level } }

/-- What a call writes, given its catalog file and the variables of its environment. -/
def answer (invocation : Invocation) (file : Option CatalogFile)
    (environment : List (String × String)) : Except InvocationError String := do
  let declaration ← (load file environment).mapError InvocationError.loading
  let catalog ← (build (invocation.configure declaration)).mapError InvocationError.building
  (catalog.run invocation.command).mapError InvocationError.running

end Invocation

namespace Environment

/-- A variable and its value, divided by the first equals sign; none if there is no name. -/
def ofEntry? (entry : List Char) : Option (String × String) :=
  match entry.takeWhile (· != '='), entry.dropWhile (· != '=') with
  | [], _ => none
  | _, [] => none
  | name, _ :: value => some (String.ofList name, String.ofList value)

/-- The variables of a text in which each entry is followed by a null character. -/
def ofText (text : String) : List (String × String) :=
  (text.splitOn (String.singleton (Char.ofNat 0))).filterMap fun entry => ofEntry? entry.toList

end Environment

end Dimensional.Catalog
