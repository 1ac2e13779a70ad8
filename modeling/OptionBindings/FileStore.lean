import OptionBindings.Path
import OptionBindings.Text.Quoted

/-!
# File stores

Regular files and directories under absolute locations. A path is looked up from the root or from
the current directory, one name after the other.

A store leaves out links and permissions, and it has no bound on the length of a name. So to look
where a path leads never fails, while a system may refuse that for a name that is too long or a
directory that may not be searched. Names and texts are texts of Unicode characters, which have no
lone surrogates and can always be written in UTF-8.
-/

namespace OptionBindings

inductive SystemError
  | notFound
  | isDirectory
  | brokenPipe
  | other (number : Nat) (reason : String)
  deriving DecidableEq, Repr

namespace SystemError

def number : SystemError → Nat
  | notFound => 2
  | isDirectory => 21
  | brokenPipe => 32
  | other number _ => number

def reason : SystemError → String
  | notFound => "No such file or directory"
  | isDirectory => "Is a directory"
  | brokenPipe => "Broken pipe"
  | other _ reason => reason

def message (error : SystemError) (paths : List Path := []) : String :=
  let shown := paths.map fun path => String.ofList (Text.quote path.toString.toList)
  "[Errno " ++ toString error.number ++ "] " ++ error.reason ++
    (if shown.isEmpty then "" else ": " ++ " -> ".intercalate shown)

end SystemError

abbrev Location := List String

inductive Node
  | file (content : ByteArray)
  | directory

instance : DecidableEq Node
  | .file a, .file b =>
    match ByteArray.instDecidableEq a b with
    | isTrue h => isTrue (congrArg Node.file h)
    | isFalse h => isFalse fun e => h (Node.file.inj e)
  | .directory, .directory => isTrue rfl
  | .file _, .directory => isFalse nofun
  | .directory, .file _ => isFalse nofun

structure FileStore where
  current : Location
  nodes : List (Location × Node)

namespace FileStore

def node? (store : FileStore) (location : Location) : Option Node :=
  store.nodes.lookup location

def erase (store : FileStore) (location : Location) : FileStore :=
  { store with nodes := store.nodes.filter (·.1 ≠ location) }

def put (store : FileStore) (location : Location) (node : Node) : FileStore :=
  { store with nodes := (location, node) :: (store.erase location).nodes }

theorem node?_erase (store : FileStore) (location other : Location) :
    (store.erase location).node? other = if other = location then none else store.node? other := by
  unfold erase node?
  induction store.nodes with
  | nil => simp
  | cons entry rest ih => grind

theorem node?_put (store : FileStore) (location other : Location) (node : Node) :
    (store.put location node).node? other =
      if other = location then some node else store.node? other := by
  have h := node?_erase store location other
  unfold node? at h
  unfold put node?
  grind

def isDirectoryAt (store : FileStore) (location : Location) : Bool :=
  store.node? location = some .directory

/-- The location that a path leads to. Each name on the way has to be that of a directory; two dots
lead to the directory above. -/
def locate? (store : FileStore) (path : Path) : Option Location :=
  let start := if path.root = .relative then store.current else []
  path.parts.foldlM (fun location part =>
    if !store.isDirectoryAt location then none
    else if part = ".." then some location.dropLast
    else some (location ++ [part])) start

def read? (store : FileStore) (path : Path) : Option ByteArray :=
  match (store.locate? path).bind store.node? with
  | some (.file content) => some content
  | _ => none

def read (store : FileStore) (path : Path) : Except SystemError ByteArray :=
  match (store.locate? path).bind store.node? with
  | some (.file content) => .ok content
  | some .directory => .error .isDirectory
  | none => .error .notFound

/-- Makes a location a directory together with all above it. -/
def addDirectory (store : FileStore) (location : Location) : FileStore :=
  (List.range (location.length + 1)).foldl
    (fun store depth => store.put (location.take depth) .directory) store

/-- A store whose only directories are the current one and those above it. -/
def empty (current : Location) : FileStore :=
  FileStore.addDirectory { current, nodes := [] } current

/-- Puts a file below the current directory, with the directories on the way to it. -/
def addFile (store : FileStore) (path : Path) (content : ByteArray) : FileStore :=
  let location := store.current ++ path.parts
  (store.addDirectory location.dropLast).put location (.file content)

def files (store : FileStore) : List (Location × ByteArray) :=
  store.nodes.filterMap fun (location, node) =>
    match node with
    | .file content => some (location, content)
    | .directory => none

end FileStore
end OptionBindings
