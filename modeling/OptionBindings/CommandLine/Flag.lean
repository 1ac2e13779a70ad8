import OptionBindings.Settings

/-!
# Flags of the command line

The options that an argument list may have, with their spellings and whether they take a value.
-/

namespace OptionBindings.CommandLine

inductive Flag
  | help
  | scope (scope : Scope)
  | copyrightHolder
  | logLevel
  | outputDirectory
  | package
  | stdout
  | noValidate
  deriving DecidableEq, Repr

namespace Flag

def spellings : Flag → List String
  | help => ["-h", "--help"]
  | scope .network => ["-n", "--network"]
  | scope .database => ["-d", "--database"]
  | scope .transaction => ["-t", "--transaction"]
  | copyrightHolder => ["--copyright-holder"]
  | logLevel => ["--log-level"]
  | outputDirectory => ["-o", "--output-directory"]
  | package => ["--package"]
  | stdout => ["--stdout"]
  | noValidate => ["--no-validate"]

def takesValue : Flag → Bool
  | copyrightHolder | logLevel | outputDirectory | package => true
  | _ => false

def title (flag : Flag) : String :=
  "/".intercalate flag.spellings

def settings : List Flag :=
  [copyrightHolder, logLevel, outputDirectory, package, stdout, noValidate]

end Flag

/-- Which flags there are: those for settings alone, or with the scopes to make bindings for. -/
inductive Interface
  | settingsOnly
  | full
  deriving DecidableEq, Repr

namespace Interface

def flags : Interface → List Flag
  | settingsOnly => .help :: Flag.settings
  | full => .help :: Scope.all.map Flag.scope ++ Flag.settings

def spellings (interface : Interface) : List (String × Flag) :=
  interface.flags.flatMap fun flag => flag.spellings.map (·, flag)

def flag? (interface : Interface) (spelling : String) : Option Flag :=
  interface.spellings.lookup spelling

end Interface
end OptionBindings.CommandLine
