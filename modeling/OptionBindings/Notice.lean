import OptionBindings.Path
import OptionBindings.Scope
import OptionBindings.Text.Quoted

/-!
# Failures and notices

The failures that the program reports by itself, each with what it is about, and what a run tells its
log, with the level, the part of the program that speaks, and the words.
-/

namespace OptionBindings

inductive Failure
  /-- A failure of no special kind. -/
  | general (reason : String)
  /-- The options could not be opened or read. -/
  | source (origin reason : String)
  /-- The options document is not well-formed. -/
  | document (reason : String) (line column : Option Int)
  /-- The bindings of a scope are malformed. -/
  | generation (reason : String)
  /-- The bindings could not be written. -/
  | emission (destination : Path) (reason : String)
  deriving DecidableEq, Repr

def Failure.message : Failure → String
  | general reason | generation reason | document reason none _ => reason
  | source origin reason => origin ++ ": " ++ reason
  | document reason (some line) column =>
    reason ++ " (line " ++ toString line ++ ", column " ++ (column.map toString).getD "None" ++ ")"
  | emission destination reason => destination.toString ++ ": " ++ reason

inductive Level
  | debug
  | info
  | warning
  | error
  deriving DecidableEq, Repr

namespace Level

def name : Level → String
  | debug => "DEBUG"
  | info => "INFO"
  | warning => "WARNING"
  | error => "ERROR"

def all : List Level :=
  [debug, info, warning, error]

def rank : Level → Nat
  | debug => 0
  | info => 1
  | warning => 2
  | error => 3

end Level

def quoted (text : String) : String :=
  String.ofList (Text.quote text.toList)

inductive Notice
  | ignoredOption (attributes : List (String × String))
  | documentRead (scopes options : Nat)
  | unknownScope (name : Option String)
  | optionOutsideScope (name : String)
  | incompleteOption (name code : String)
  | catalogLoaded (network database transaction : Nat)
  | rendered (count : Nat) (scope : Scope)
  | wrote (path : String)
  | unreadableOptions (reason : String)
  | skippedScope (scope : Scope) (reason : String)
  deriving DecidableEq, Repr

namespace Notice

def level : Notice → Level
  | catalogLoaded .. | wrote _ => .info
  | unreadableOptions _ | skippedScope .. => .error
  | _ => .debug

def speaker : Notice → String
  | ignoredOption _ | documentRead .. => "fdboptgen.parser"
  | unknownScope _ | optionOutsideScope _ | incompleteOption .. | catalogLoaded .. =>
    "fdboptgen.builder"
  | rendered .. => "fdboptgen.generator"
  | wrote _ => "fdboptgen.emit"
  | unreadableOptions _ | skippedScope .. => "fdboptgen"

def showAttributes (attributes : List (String × String)) : String :=
  let items := attributes.map fun (name, value) => quoted name ++ ": " ++ quoted value
  "\x7b" ++ ", ".intercalate items ++ "\x7d"

def message : Notice → String
  | ignoredOption attributes =>
    "Ignoring option without name or code: " ++ showAttributes attributes
  | documentRead scopes options =>
    "Parsed " ++ toString scopes ++ " scope(s) and " ++ toString options ++ " option(s)"
  | unknownScope name =>
    "Ignoring options in unknown scope " ++ (name.map quoted).getD "None"
  | optionOutsideScope name =>
    "Dropping option " ++ quoted name ++ " declared outside a known scope"
  | incompleteOption name code =>
    "Dropping option with empty name or code: " ++ quoted name ++ "=" ++ quoted code
  | catalogLoaded network database transaction =>
    "Loaded " ++ toString network ++ " network, " ++ toString database ++ " database and " ++
      toString transaction ++ " transaction option(s)"
  | rendered count scope =>
    "Rendered " ++ toString count ++ " option(s) for " ++ scope.typeName
  | wrote path => "Wrote " ++ path
  | unreadableOptions reason => "Unable to parse options: " ++ reason
  | skippedScope scope reason => "Skipping " ++ scope.typeName ++ ": " ++ reason

end Notice
end OptionBindings
