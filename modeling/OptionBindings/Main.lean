import OptionBindings.Run
import Std.Time

/-!
# The program

The files that a run may look at are read first, then the run is worked out, then its changes and
its output are written.
-/

namespace OptionBindings

def locationText (location : Location) : String :=
  "/" ++ "/".intercalate location

def observe (store : FileStore) (location : Location) : IO FileStore := do
  let text := locationText location
  try
    let _ ← IO.FS.realPath (text ++ "/.")
    return store.put location .directory
  catch _ =>
    try return store.put location (.file (← IO.FS.readBinFile text))
    catch _ => return store

/-- Puts what a path passes and leads to into a store. -/
def observePath (store : FileStore) (path : Path) : IO FileStore := do
  let mut location := if path.root = .relative then store.current else []
  let mut store := store
  for part in path.parts do
    location := if part = ".." then location.dropLast else location ++ [part]
    store ← observe store location
  return store

def observePlan (store : FileStore) (plan : Plan) : IO FileStore := do
  let mut store ← observePath store (Path.ofString plan.settings.inputFile)
  for scope in plan.scopes do
    let target := Emission.target plan.settings.outputDirectory scope
    store ← observePath store target
    store ← observePath store (Emission.temporary target)
  return store

def writeWhole (location : Location) (content : ByteArray) : IO Unit := do
  let target := locationText location
  let temporary := target ++ ".tmp"
  IO.FS.writeBinFile temporary content
  IO.FS.rename temporary target

/-- Makes the changes of a run to the files. -/
def settle (before after : FileStore) : IO Unit := do
  for (location, _) in before.files do
    if (after.node? location).isNone then IO.FS.removeFile (locationText location)
  for (location, content) in after.files do
    if before.node? location ≠ some (.file content) then writeWhole location content

/-- A number of 128 bits with the marks of a random identifier. -/
def markRandom (n : Nat) : Nat :=
  n &&& 0xffffffffffff0fff3fffffffffffffff ||| 0x40008000000000000000

def settingNames : List String :=
  ["COPYRIGHT_HOLDER", "INPUT_FILE", "LOG_LEVEL", "OUTPUT_DIRECTORY", "PACKAGE", "STDOUT",
   "VALIDATE"].map Environment.nameOf

def readEnvironment : IO Environment :=
  settingNames.filterMapM fun name => do
    return (← IO.getEnv name).map (name, ·)

end OptionBindings

open OptionBindings in
def main (words : List String) : IO UInt32 := do
  let now ← Std.Time.PlainDateTime.now
  let uids ← (List.range Scope.all.length).mapM fun _ => IO.rand 0 0xffffffffffffffffffffffffffffffff
  let surroundings : Surroundings :=
    { environment := ← readEnvironment
      year := now.year.toInt
      uid := fun k => uuidText (markRandom (uids.getD k 0))
      time := now.format "uuuu-MM-dd HH:mm:ss,SSS" }
  let current := Path.ofString (← IO.currentDir).toString
  let empty := FileStore.empty current.parts
  let store ←
    match Plan.ofWords current surroundings.environment words with
    | .ok plan => observePlan empty plan
    | .error _ => pure empty
  let (world, ending) := World.run { store } surroundings words
  settle store world.store
  (← IO.getStdout).putStr world.stdout.written
  (← IO.getStderr).putStr world.stderr
  match ending with
  | .exit status => return UInt32.ofNat status
  | .uncaught error =>
    IO.eprintln error.message
    return 1
