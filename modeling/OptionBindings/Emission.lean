import OptionBindings.FileStore
import OptionBindings.Notice

/-!
# Writing bindings

A text goes to a temporary file beside its target, which then takes the target's place, so that no
reader sees half of it. Any step may fail; what a failed step leaves behind is removed.
-/

namespace OptionBindings

/-- The steps that fail by the will of the system. -/
structure Faults where
  opening : Option SystemError := none
  /-- The part of the content that is written before the failure, and the failure. -/
  writing : Option (ByteArray × SystemError) := none
  replacing : Option SystemError := none
  removing : Option SystemError := none

/-- The stores that a run of steps goes through, the last one first. -/
structure History where
  now : FileStore
  before : List FileStore := []

namespace History

def move (history : History) (store : FileStore) : History :=
  ⟨store, history.now :: history.before⟩

def states (history : History) : List FileStore :=
  history.now :: history.before

end History

namespace Emission

def target (directory : Path) (scope : Scope) : Path :=
  directory.child scope.fileName

def temporary (target : Path) : Path :=
  target.withEnding ".tmp"

/-- Creates an empty file, or empties the one that is there. -/
def openFile (store : FileStore) (location : Location) : Except SystemError FileStore :=
  if store.isDirectoryAt location then .error .isDirectory
  else .ok (store.put location (.file .empty))

/-- Moves a file to a location, over what is there unless that is a directory. -/
def replaceFile (store : FileStore) (source target : Location) (content : ByteArray) :
    Except SystemError FileStore :=
  if store.isDirectoryAt target then .error .isDirectory
  else .ok ((store.erase source).put target (.file content))

/-- Removes what a failed run has left of its temporary file. -/
def cleanUp (faults : Faults) (location : Location) (history : History) : History :=
  match history.now.node? location with
  | some (.file _) =>
    if faults.removing.isSome then history else history.move (history.now.erase location)
  | _ => history

/-- Writes a text in its steps: the temporary file is opened, written and moved to its target. -/
def write (faults : Faults) (history : History) (content : ByteArray)
    (directory : Location) (target temporary : Path) (targetName temporaryName : String) :
    History × Except String Unit :=
  let targetAt := directory ++ [targetName]
  let temporaryAt := directory ++ [temporaryName]
  match faults.opening.elim (openFile history.now temporaryAt) .error with
  | .error error => (cleanUp faults temporaryAt history, .error (error.message [temporary]))
  | .ok opened =>
    let history := history.move opened
    match faults.writing with
    | some (part, error) =>
      let history := history.move (history.now.put temporaryAt (.file part))
      (cleanUp faults temporaryAt history, .error error.message)
    | none =>
      let history := history.move (history.now.put temporaryAt (.file content))
      match faults.replacing.elim (replaceFile history.now temporaryAt targetAt content) .error with
      | .error error =>
        (cleanUp faults temporaryAt history, .error (error.message [temporary, target]))
      | .ok replaced => (history.move replaced, .ok ())

/-- Writes a text to the scope's file in a directory. The look for the directory is no step that may
fail here; a system that refuses it ends the writing with an error of its own before any step. -/
def run (faults : Faults) (store : FileStore) (text : String) (directory : Path) (scope : Scope) :
    History × Except Failure Path :=
  let target := target directory scope
  match (store.locate? directory).filter store.isDirectoryAt with
  | none => (⟨store, []⟩, .error (.emission target "output directory does not exist"))
  | some location =>
    let (history, outcome) :=
      write faults ⟨store, []⟩ text.toUTF8 location target (temporary target) scope.fileName
        (scope.fileName ++ ".tmp")
    match outcome with
    | .ok () => (history, .ok target)
    | .error reason => (history, .error (.emission target reason))

/-- Writes a text where no step fails but by what stands in the store. -/
def toDirectory (store : FileStore) (text : String) (directory : Path) (scope : Scope) :
    FileStore × Except Failure Path :=
  let (history, outcome) := run {} store text directory scope
  (history.now, outcome)

end Emission

structure Stream where
  written : String := ""
  /-- How often it has been written to. -/
  writes : Nat := 0
  /-- The writes that fail with nothing written. -/
  failing : List Nat := []

/-- Writes a text to the stream as a whole or not at all. -/
def Stream.emit (stream : Stream) (text : String) : Stream × Except Failure Unit :=
  let next := { stream with writes := stream.writes + 1 }
  if stream.failing.contains stream.writes then
    (next, .error (.emission (Path.ofString "<stdout>") (SystemError.message .brokenPipe)))
  else ({ next with written := stream.written ++ text }, .ok ())

end OptionBindings
