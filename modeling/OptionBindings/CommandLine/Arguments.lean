import OptionBindings.CommandLine.Flag
import OptionBindings.Identifier
import OptionBindings.Text.Basic

/-!
# Argument lists

The words of an argument list are sorted into flags and others before any of them acts. Then they
are read in order: flags may stand in groups, take values, or stop the reading. The first word that
is no flag names the input file.
-/

namespace OptionBindings.CommandLine

inductive Word
  | plain (text : String)
  /-- The first pair of dashes, behind which no word is a flag. -/
  | dashes
  /-- A flag by its short spelling, with what comes behind it in the word. -/
  | short (flag : Flag) (behind : List Char)
  /-- A flag by a long spelling, with what comes behind its equals sign. -/
  | long (flag : Flag) (value : Option (List Char))
  /-- It looks like a flag, but there is none of that name. -/
  | unknown (text : String)
  deriving DecidableEq, Repr

inductive UsageError
  | ambiguous (word : String) (candidates : List String)
  | missingValue (flag : Flag)
  | ignoredValue (flag : Flag) (value : List Char)
  | noLevel (value : String)
  | unrecognized (words : List String)
  | noScope
  | badVariable (error : VariableError)
  deriving DecidableEq, Repr

namespace UsageError

private def onFlag (flag : Flag) (text : String) : String :=
  "argument " ++ flag.title ++ ": " ++ text

def message : UsageError → String
  | ambiguous word candidates =>
    "ambiguous option: " ++ word ++ " could match " ++ ", ".intercalate candidates
  | missingValue flag => onFlag flag "expected one argument"
  | ignoredValue flag value =>
    onFlag flag ("ignored explicit argument " ++ quoted (String.ofList value))
  | noLevel value =>
    onFlag .logLevel
      ("invalid choice: " ++ quoted value ++ " (choose from " ++
        ", ".intercalate (Level.all.map fun level => quoted level.name) ++ ")")
  | unrecognized words => "unrecognized arguments: " ++ " ".intercalate words
  | noScope =>
    "At least one of the generator options (" ++
      ", ".intercalate (Scope.all.map fun scope => "--" ++ scope.flag) ++ ") must be given"
  | badVariable error => error.message

end UsageError

namespace Word

/-- The parts of a word before and behind its first equals sign. -/
def cut (word : List Char) : List Char × Option (List Char) :=
  match word.dropWhile (· ≠ '=') with
  | [] => (word, none)
  | _ :: behind => (word.takeWhile (· ≠ '='), some behind)

/-- A minus sign with digits, which may have a point among them. -/
def isNegativeNumber : List Char → Bool
  | '-' :: rest =>
    let rest := Identifier.dropFinalFeed rest
    let whole := rest.takeWhile Text.isDecimal
    match rest.dropWhile Text.isDecimal with
    | [] => whole ≠ []
    | '.' :: fraction => fraction ≠ [] && fraction.all Text.isDecimal
    | _ => false
  | _ => false

/-- A word that starts with a dash but spells no flag. -/
def ofOther (word : String) : Word :=
  if isNegativeNumber word.toList || word.toList.contains ' ' then .plain word else .unknown word

def completions (interface : Interface) (start : List Char) : List (String × Flag) :=
  interface.spellings.filter fun (spelling, _) => start.isPrefixOf spelling.toList

/-- A word that starts with two dashes: a long spelling, or the start of one alone. -/
def ofLong (interface : Interface) (word : String) : Except UsageError Word :=
  let (start, value) := cut word.toList
  match interface.flag? (String.ofList start) with
  | some flag => .ok (.long flag value)
  | none =>
    match completions interface start with
    | [] => .ok (ofOther word)
    | [(_, flag)] => .ok (.long flag value)
    | several => .error (.ambiguous word (several.map (·.1)))

def ofShort (interface : Interface) (word : String) : Word :=
  match interface.flag? (String.ofList (word.toList.take 2)) with
  | some flag => .short flag (word.toList.drop 2)
  | none => ofOther word

def ofText (interface : Interface) (word : String) : Except UsageError Word :=
  match word.toList with
  | '-' :: '-' :: _ => ofLong interface word
  | '-' :: _ :: _ => .ok (ofShort interface word)
  | _ => .ok (.plain word)

end Word

def sortWords (interface : Interface) : List String → Except UsageError (List Word)
  | [] => .ok []
  | word :: rest =>
    if word = "--" then .ok (.dashes :: rest.map .plain)
    else do
      let first ← Word.ofText interface word
      let others ← sortWords interface rest
      .ok (first :: others)

/-- What one word of flags comes to. -/
structure Group where
  /-- Flags without values. -/
  flags : List Flag := []
  /-- The last flag, with its value if that is joined to it. -/
  valued : Option (Flag × Option String) := none
  /-- What is left of the word where no flag has its name. -/
  unknown : Option String := none
  deriving DecidableEq, Repr

def Group.ofFlag (flag : Flag) : Group :=
  if flag.takesValue then { valued := some (flag, none) } else { flags := [flag] }

def Group.ofValue (flag : Flag) (value : List Char) : Except UsageError Group :=
  if flag.takesValue then .ok { valued := some (flag, some (String.ofList value)) }
  else .error (.ignoredValue flag value)

/-- Reads what comes behind a short flag: its value, or more short flags. -/
def readGroup (interface : Interface) (flag : Flag) : List Char → Except UsageError Group
  | [] => .ok (.ofFlag flag)
  | '=' :: value => Group.ofValue flag value
  | c :: rest =>
    if flag.takesValue || c = '-' then Group.ofValue flag (c :: rest)
    else
      match interface.flag? (String.ofList ['-', c]) with
      | none => .ok { flags := [flag], unknown := some (String.ofList ('-' :: c :: rest)) }
      | some next =>
        (readGroup interface next rest).map fun group => { group with flags := flag :: group.flags }

def groupOf? (interface : Interface) : Word → Option (Except UsageError Group)
  | .short flag behind => some (readGroup interface flag behind)
  | .long flag none => some (.ok (.ofFlag flag))
  | .long flag (some value) => some (Group.ofValue flag value)
  | _ => none

structure Request where
  /-- The scopes in order, as often as they are asked for. -/
  scopes : List Scope := []
  overrides : Overrides := {}
  /-- Words that mean nothing. -/
  unrecognized : List String := []
  deriving DecidableEq, Repr

/-- Why the reading of an argument list stops before its end. -/
inductive Interruption
  | help
  | usage (error : UsageError)
  deriving DecidableEq, Repr

namespace Request

def setFlag (request : Request) : Flag → Except Interruption Request
  | .help => .error .help
  | .scope scope => .ok { request with scopes := request.scopes ++ [scope] }
  | .stdout => .ok { request with overrides.stdout := some true }
  | .noValidate => .ok { request with overrides.validate := some false }
  | _ => .ok request

def setValue (request : Request) (flag : Flag) (value : String) : Except Interruption Request :=
  match flag with
  | .copyrightHolder => .ok { request with overrides.copyrightHolder := some value }
  | .package => .ok { request with overrides.package := some value }
  | .outputDirectory =>
    .ok { request with overrides.outputDirectory := some (Path.ofString value) }
  | .logLevel =>
    match Level.ofName? value with
    | some level => .ok { request with overrides.logLevel := some level }
    | none => .error (.usage (.noLevel value))
  | _ => .ok request

def setFile (request : Request) (name : String) : Request :=
  { request with overrides.inputFile := some name }

def leave (request : Request) (words : List String) : Request :=
  { request with unrecognized := request.unrecognized ++ words }

/-- The flags of a group act in order, but not before all of it is understood. -/
def apply (request : Request) (group : Group) (value : Option String) :
    Except Interruption Request := do
  let request := request.leave group.unknown.toList
  let request ← group.flags.foldlM setFlag request
  match group.valued, value with
  | some (flag, _), some value => request.setValue flag value
  | _, _ => .ok request

end Request

/-- Reads sorted words in order. The first plain word is the input file, with the pair of dashes
before or behind it; other plain words mean nothing. -/
def readWords (interface : Interface) : List Word → Bool → Request → Except Interruption Request
  | [], _, request => .ok request
  | .plain name :: .dashes :: rest, false, request =>
    readWords interface rest true (request.setFile name)
  | .plain name :: rest, false, request => readWords interface rest true (request.setFile name)
  | .dashes :: .plain name :: rest, false, request =>
    readWords interface rest true (request.setFile name)
  | .dashes :: rest, false, request => readWords interface rest true request
  | .plain word :: rest, true, request => readWords interface rest true (request.leave [word])
  | .dashes :: rest, true, request => readWords interface rest true (request.leave ["--"])
  | .unknown word :: rest, hasFile, request =>
    readWords interface rest hasFile (request.leave [word])
  | word :: rest, hasFile, request =>
    match groupOf? interface word with
    | none => readWords interface rest hasFile request
    | some (.error error) => .error (.usage error)
    | some (.ok group) =>
      match group.valued with
      | some (last, none) =>
        match rest with
        | .plain value :: rest =>
          match request.apply group (some value) with
          | .ok request => readWords interface rest hasFile request
          | .error interruption => .error interruption
        | _ => .error (.usage (.missingValue last))
      | valued =>
        match request.apply group (valued.bind (·.2)) with
        | .ok request => readWords interface rest hasFile request
        | .error interruption => .error interruption

/-- Reads an argument list. Words without a meaning are refused at the end. -/
def readArguments (interface : Interface) (words : List String) : Except Interruption Request :=
  match sortWords interface words with
  | .error error => .error (.usage error)
  | .ok sorted =>
    match readWords interface sorted false {} with
    | .error interruption => .error interruption
    | .ok request =>
      if request.unrecognized.isEmpty then .ok request
      else .error (.usage (.unrecognized request.unrecognized))

end OptionBindings.CommandLine
