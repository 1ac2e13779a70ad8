import OptionBindings.Binding.Render
import OptionBindings.Catalog.Load
import OptionBindings.CommandLine.Help
import OptionBindings.Emission

/-!
# Runs

One run of the program on a file store and the standard streams: the settings are found, the catalog
is loaded, and each requested scope is rendered and written. A scope that fails does not stop the
others.
-/

namespace OptionBindings

/-- What a run changes. -/
structure World where
  store : FileStore
  stdout : Stream := {}
  stderr : String := ""
  /-- How many identifiers of files have been given out. -/
  issued : Nat := 0

/-- What a run finds and does not change. -/
structure Surroundings where
  environment : Environment
  year : Int
  /-- The identifiers that are given out in turn. -/
  uid : Nat → String
  /-- The time that the log shows. -/
  time : String
  /-- The steps that fail when the file of a scope is written. -/
  faults : Scope → Faults := fun _ => {}

inductive Ending
  | exit (status : Nat)
  /-- The document's encoding cannot be read, which no status tells. -/
  | uncaught (error : ReadError)
  deriving DecidableEq, Repr

namespace World

def complain (world : World) (text : String) : World :=
  { world with stderr := world.stderr ++ text }

/-- Shows a text whether or not it can be written. -/
def display (world : World) (text : String) : World :=
  { world with stdout := (world.stdout.emit text).1 }

def log (world : World) (time : String) (threshold : Level) (notice : Notice) : World :=
  if threshold.rank ≤ notice.level.rank then
    world.complain <|
      " - ".intercalate [time, notice.speaker, notice.level.name, notice.message] ++ "\n"
  else world

def logAll (world : World) (time : String) (threshold : Level) (notices : List Notice) : World :=
  notices.foldl (fun world notice => world.log time threshold notice) world

def emit (world : World) (faults : Faults) (settings : Settings) (scope : Scope) (text : String) :
    World × Except Failure (List Notice) :=
  if settings.stdout then
    let (stdout, outcome) := world.stdout.emit text
    ({ world with stdout }, outcome.map fun _ => [])
  else
    let (history, outcome) :=
      Emission.run faults world.store text settings.outputDirectory scope
    ({ world with store := history.now }, outcome.map fun target => [.wrote target.toString])

def generate (world : World) (surroundings : Surroundings) (settings : Settings)
    (catalog : Catalog) (scope : Scope) : World × List Notice × Except Failure Unit :=
  let imprint : Imprint :=
    { package := settings.package
      copyrightHolder := settings.copyrightHolder
      year := surroundings.year
      uid := surroundings.uid world.issued }
  let world := { world with issued := world.issued + 1 }
  let table := catalog.table scope
  match Render.source imprint settings.validate scope table with
  | .error error => (world, [], .error (Render.failure error))
  | .ok text =>
    let rendered := Notice.rendered table.size scope
    match world.emit (surroundings.faults scope) settings scope text with
    | (world, .ok notices) => (world, rendered :: notices, .ok ())
    | (world, .error failure) => (world, [rendered], .error failure)

/-- Makes the bindings of scopes in turn, and tells whether some failed. -/
def generateAll (surroundings : Surroundings) (settings : Settings) (catalog : Catalog) :
    List Scope → World → World × Bool
  | [], world => (world, false)
  | scope :: scopes, world =>
    let (world, notices, outcome) := world.generate surroundings settings catalog scope
    let world := world.logAll surroundings.time settings.logLevel notices
    match outcome with
    | .ok () => generateAll surroundings settings catalog scopes world
    | .error failure =>
      let world :=
        world.log surroundings.time settings.logLevel (.skippedScope scope failure.message)
      ((generateAll surroundings settings catalog scopes world).1, true)

def process (world : World) (surroundings : Surroundings) (settings : Settings)
    (scopes : List Scope) : World × Ending :=
  let loading := Catalog.loadFile world.store (Path.ofString settings.inputFile)
  let world := world.logAll surroundings.time settings.logLevel loading.notices
  match loading.outcome with
  | .ok catalog =>
    let (world, failed) := generateAll surroundings settings catalog scopes world
    (world, .exit (if failed then 3 else 0))
  | .error (.failure failure) =>
    (world.log surroundings.time settings.logLevel (.unreadableOptions failure.message), .exit 1)
  | .error error => (world, .uncaught error)

end World

structure Plan where
  settings : Settings
  /-- The scopes to make bindings for, each once. -/
  scopes : List Scope
  deriving DecidableEq, Repr

/-- Why a command line leads to no run. -/
inductive NoPlan
  | help
  /-- The settings of the environment are wrong, whatever the command line says. -/
  | environment (error : VariableError)
  | usage (error : CommandLine.UsageError)
  deriving DecidableEq, Repr

namespace Plan

def ofWords (current : Path) (environment : Environment) (words : List String) :
    Except NoPlan Plan :=
  match Settings.ofEnvironment current environment with
  | .error error => .error (.environment error)
  | .ok settings =>
    match CommandLine.readArguments .full words with
    | .error .help => .error .help
    | .error (.usage error) => .error (.usage error)
    | .ok request =>
      if request.scopes.isEmpty then .error (.usage .noScope)
      else .ok ⟨settings.override request.overrides, Scope.distinct request.scopes⟩

end Plan

namespace World

def decline (world : World) : NoPlan → World × Ending
  | .help => (world.display CommandLine.Interface.full.help, .exit 0)
  | .environment error =>
    (world.complain (CommandLine.complaint CommandLine.usageOfScopes (.badVariable error)), .exit 2)
  | .usage error =>
    (world.complain (CommandLine.complaint CommandLine.Interface.full.usage error), .exit 2)

def current (world : World) : Path :=
  ⟨.absolute, world.store.current⟩

def run (world : World) (surroundings : Surroundings) (words : List String) : World × Ending :=
  match Plan.ofWords world.current surroundings.environment words with
  | .error reason => world.decline reason
  | .ok plan => world.process surroundings plan.settings plan.scopes

end World
end OptionBindings
