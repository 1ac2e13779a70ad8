import OptionBindings.Binding.Layout
import OptionBindings.Notice
import OptionBindings.Path

/-!
# Settings of a run

Each setting has a built-in value, which a variable of the environment replaces, which the command
line replaces.
-/

namespace OptionBindings

structure Settings where
  copyrightHolder : String := defaultCopyrightHolder
  inputFile : String := "/usr/local/include/foundationdb/fdb.options"
  logLevel : Level := .warning
  outputDirectory : Path
  package : String := defaultPackage
  stdout : Bool := false
  validate : Bool := true
  deriving DecidableEq, Repr

structure Overrides where
  copyrightHolder : Option String := none
  inputFile : Option String := none
  logLevel : Option Level := none
  outputDirectory : Option Path := none
  package : Option String := none
  stdout : Option Bool := none
  validate : Option Bool := none
  deriving DecidableEq, Repr

def Settings.override (settings : Settings) (overrides : Overrides) : Settings where
  copyrightHolder := overrides.copyrightHolder.getD settings.copyrightHolder
  inputFile := overrides.inputFile.getD settings.inputFile
  logLevel := overrides.logLevel.getD settings.logLevel
  outputDirectory := overrides.outputDirectory.getD settings.outputDirectory
  package := overrides.package.getD settings.package
  stdout := overrides.stdout.getD settings.stdout
  validate := overrides.validate.getD settings.validate

def truthValue? (word : String) : Option Bool :=
  let word := String.ofList (Text.lower word.toList)
  if word ∈ ["on", "1", "true", "yes"] then some true
  else if word ∈ ["off", "0", "false", "no", ""] then some false
  else none

def noTruthValue (word : String) : String :=
  "Invalid value " ++ word ++ " -- use true or false"

def Level.ofName? (name : String) : Option Level :=
  Level.all.find? (·.name = name)

abbrev Environment := List (String × String)

inductive VariableError
  | noTruthValue (name value : String)
  | noLevel (name value : String)
  deriving DecidableEq, Repr

def VariableError.message : VariableError → String
  | noTruthValue name value => name ++ ": " ++ OptionBindings.noTruthValue value
  | noLevel name value =>
    name ++ ": invalid choice " ++ quoted value ++ " (choose from " ++
      ", ".intercalate (Level.all.map (·.name)) ++ ")"

namespace Environment

def nameOf (setting : String) : String :=
  "FDBOPTGEN_" ++ setting

def get? (environment : Environment) (setting : String) : Option String :=
  environment.lookup (nameOf setting)

def level? (environment : Environment) (setting : String) : Except VariableError (Option Level) :=
  match environment.get? setting with
  | none => .ok none
  | some value =>
    match Level.ofName? value with
    | some level => .ok (some level)
    | none => .error (.noLevel (nameOf setting) value)

def truth? (environment : Environment) (setting : String) : Except VariableError (Option Bool) :=
  match environment.get? setting with
  | none => .ok none
  | some value =>
    match truthValue? value with
    | some truth => .ok (some truth)
    | none => .error (.noTruthValue (nameOf setting) value)

/-- The settings that the environment gives. Of several bad variables the first by name counts. -/
def overrides (environment : Environment) : Except VariableError Overrides := do
  let logLevel ← environment.level? "LOG_LEVEL"
  let stdout ← environment.truth? "STDOUT"
  let validate ← environment.truth? "VALIDATE"
  .ok
    { copyrightHolder := environment.get? "COPYRIGHT_HOLDER"
      inputFile := environment.get? "INPUT_FILE"
      logLevel
      outputDirectory := (environment.get? "OUTPUT_DIRECTORY").map Path.ofString
      package := environment.get? "PACKAGE"
      stdout
      validate }

end Environment

/-- The settings before the command line is known. -/
def Settings.ofEnvironment (current : Path) (environment : Environment) :
    Except VariableError Settings :=
  environment.overrides.map (Settings.override { outputDirectory := current })

end OptionBindings
