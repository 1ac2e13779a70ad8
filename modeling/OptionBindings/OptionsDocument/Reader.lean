import OptionBindings.FileStore
import OptionBindings.Notice
import OptionBindings.OptionsDocument.Event

/-!
# Readers of options documents

A reader belongs to one source and can be asked to read it more than once. A file is opened each
time, other sources can be read once. The counts of scopes and options run on from call to call.
-/

namespace OptionBindings

inductive DocumentSource
  | bytes (content : List UInt8)
  /-- A source that has been read already. -/
  | spent
  | file (path : Path)

/-- Why no document was read to its end. -/
inductive ReadError
  | failure (reason : Failure)
  | encoding (problem : Xml.EncodingProblem)
  /-- The source has been read already. -/
  | closed
  deriving DecidableEq, Repr

def ReadError.message : ReadError → String
  | failure reason => reason.message
  | encoding problem => problem.message
  | closed => "I/O operation on closed file."

structure OptionsReader where
  source : DocumentSource
  scopes : Nat := 0
  options : Nat := 0
  /-- The fault of the document that the last call came to. -/
  fault : Option Failure := none

structure ReadResult where
  reports : List Report
  outcome : Except ReadError Unit
  /-- What the log is told at the end. -/
  closing : List Notice

namespace OptionsReader

def ofBytes (content : List UInt8) : OptionsReader where
  source := .bytes content

def ofPath (store : FileStore) (path : Path) : Except Failure OptionsReader :=
  match store.read? path with
  | some _ => .ok { source := .file path }
  | none => .error (.source path.toString "options file not found")

def content (reader : OptionsReader) (store : FileStore) : Except ReadError (List UInt8) :=
  match reader.source with
  | .bytes content => .ok content
  | .spent => .error .closed
  | .file path =>
    match store.read path with
    | .ok content => .ok content.data.toList
    | .error error => .error (.failure (.source path.toString (error.message [path])))

def problemError : Xml.Problem → ReadError
  | .fault fault position =>
    .failure (.document fault.message (some position.line) (some position.column))
  | .encoding problem => .encoding problem

/-- The failure that a reader keeps of a call: only a fault of the document. -/
def faultOf : ReadError → Option Failure
  | .failure (.document reason line column) => some (.document reason line column)
  | _ => none

def sourceAfter : DocumentSource → DocumentSource
  | .file path => .file path
  | _ => .spent

def read (reader : OptionsReader) (store : FileStore) : OptionsReader × ReadResult :=
  let source := sourceAfter reader.source
  match reader.content store with
  | .error error => ({ reader with source, fault := none }, ⟨[], .error error, []⟩)
  | .ok bytes =>
    let reading := Xml.Document.read bytes
    let scopes := reader.scopes + countStarts "Scope" reading.tags
    let options := reader.options + countStarts "Option" reading.tags
    let reports := Report.ofTags reading.tags
    match reading.problem with
    | none => (⟨source, scopes, options, none⟩, ⟨reports, .ok (), [.documentRead scopes options]⟩)
    | some problem =>
      let error := problemError problem
      (⟨source, scopes, options, faultOf error⟩, ⟨reports, .error error, []⟩)

end OptionsReader

namespace ReadResult

def events (result : ReadResult) : List Event :=
  result.reports.filterMap Report.event?

/-- What the log is told when nobody listens or the listener says nothing. -/
def notices (result : ReadResult) : List Notice :=
  (result.reports.filterMap fun report =>
    match report with
    | .ignored attributes => some (.ignoredOption attributes)
    | .event _ => none) ++ result.closing

end ReadResult
end OptionBindings
