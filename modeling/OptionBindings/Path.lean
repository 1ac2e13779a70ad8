/-!
# Paths

A path is a root and the names below it. Empty components and single dots say nothing and are
dropped; two dots stay, since only a file store can tell where they lead.
-/

namespace OptionBindings

inductive PathRoot
  | relative
  | absolute
  /-- Exactly two slashes, which stay two. -/
  | doubled
  deriving DecidableEq, Repr

structure Path where
  root : PathRoot
  parts : List String
  deriving DecidableEq, Repr

namespace Path

def ofString (text : String) : Path where
  root :=
    match (text.toList.takeWhile (· = '/')).length with
    | 0 => .relative
    | 2 => .doubled
    | _ => .absolute
  parts :=
    ((text.toList.splitOn '/').filter fun part => part ≠ [] && part ≠ ['.']).map String.ofList

def rootText : PathRoot → String
  | .relative => ""
  | .absolute => "/"
  | .doubled => "//"

def toString (path : Path) : String :=
  match path.root, path.parts with
  | .relative, [] => "."
  | root, parts => rootText root ++ "/".intercalate parts

def child (path : Path) (name : String) : Path :=
  { path with parts := path.parts ++ [name] }

/-- The path with an ending added to its last name. -/
def withEnding (path : Path) (ending : String) : Path :=
  match path.parts.getLast? with
  | some last => { path with parts := path.parts.dropLast ++ [last ++ ending] }
  | none => path

end Path
end OptionBindings
