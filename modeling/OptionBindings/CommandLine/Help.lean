import OptionBindings.CommandLine.Arguments

/-!
# Help texts

What the command line shows of itself: the usage in short, before a message, and all of it.
-/

namespace OptionBindings.CommandLine

def joinLines (texts : List String) : String :=
  String.join (texts.map (· ++ "\n"))

def levelNames : String :=
  "\x7b" ++ ",".intercalate (Level.all.map (·.name)) ++ "\x7d"

private def settingsUsage : List String :=
  ["                 [--log-level " ++ levelNames ++ "]",
   "                 [-o OUTPUT_DIRECTORY] [--package PACKAGE] [--stdout]",
   "                 [--no-validate]",
   "                 [file]"]

private def settingsHelp : List String :=
  ["positional arguments:",
   "  file                  Path to FoundationDB fdb.options file",
   "",
   "options:",
   "  -h, --help            show this help message and exit",
   "  --copyright-holder COPYRIGHT_HOLDER",
   "                        Copyright holder in the header of generated files",
   "  --log-level " ++ levelNames,
   "                        Logging level",
   "  -o OUTPUT_DIRECTORY, --output-directory OUTPUT_DIRECTORY",
   "                        Directory the generated Swift files are written to",
   "  --package PACKAGE     Package name in the header of generated files",
   "  --stdout              Write generated files to standard output (ignores",
   "                        --output-directory)",
   "  --no-validate         Skip the structural check of the generated source"]

private def scopesHelp : List String :=
  ["Generator options:",
   "  -n, --network         Generate Swift bindings for the FoundationDB network",
   "                        options",
   "  -d, --database        Generate Swift bindings for the FoundationDB database",
   "                        options",
   "  -t, --transaction     Generate Swift bindings for the FoundationDB",
   "                        transaction options",
   "",
   "Parses fdb.options from <file> and generates Swift bindings for every",
   "requested scope. Use either of --output-directory or --stdout to control where",
   "the generated Swift bindings go. Every option except the generator options can",
   "also be set through a FDBOPTGEN_<OPTION> environment variable."]

/-- The usage while the settings are not known yet. -/
def usageOfScopes : String :=
  joinLines ["usage: fdboptgen [-h] [-n] [-d] [-t]"]

namespace Interface

def usage : Interface → String
  | settingsOnly =>
    joinLines ("usage: fdboptgen [-h] [--copyright-holder COPYRIGHT_HOLDER]" :: settingsUsage)
  | full =>
    joinLines
      ("usage: fdboptgen [-h] [-n] [-d] [-t] [--copyright-holder COPYRIGHT_HOLDER]" ::
        settingsUsage)

def help (interface : Interface) : String :=
  match interface with
  | settingsOnly => interface.usage ++ joinLines ("" :: settingsHelp)
  | full =>
    interface.usage ++
      joinLines (["", "Generate Swift bindings from FoundationDB's fdb.options file", ""] ++
        settingsHelp ++ [""] ++ scopesHelp)

end Interface

def complaint (usage : String) (error : UsageError) : String :=
  usage ++ joinLines ["fdboptgen: error: " ++ error.message]

end OptionBindings.CommandLine
