import OptionBindings.Identifier
import OptionBindings.Text.Basic
import OptionBindings.Text.Quoted

/-!
# Checking Swift sources

Outside of comments the brackets of a source have to be balanced, and each constant needs an
identifier and a value that is made from one symbol.
-/

namespace OptionBindings

open Text

inductive CheckError
  /-- A closing bracket without its opening one. -/
  | unbalanced (bracket : Char) (line : Nat)
  | invalidIdentifier (identifier : List Char) (line : Nat)
  | invalidInitializer (value : List Char) (line : Nat)
  /-- An opening bracket that is never closed. -/
  | unclosed (bracket : Char) (line : Nat)
  deriving DecidableEq, Repr

def CheckError.message : CheckError → String
  | unbalanced bracket line =>
    "Unbalanced '" ++ bracket.toString ++ "' on line " ++ toString line
  | invalidIdentifier identifier line =>
    "Invalid identifier " ++ String.ofList (quote identifier) ++ " on line " ++ toString line
  | invalidInitializer value line =>
    "Invalid initializer on line " ++ toString line ++ ": " ++ String.ofList value
  | unclosed bracket line =>
    "Unclosed '" ++ bracket.toString ++ "' opened on line " ++ toString line

namespace Check

/-- A line up to its first comment. -/
def code : List Char → List Char
  | [] => []
  | '/' :: '/' :: _ => []
  | c :: rest => c :: code rest

def isOpening (c : Char) : Bool :=
  c = '(' || c = '[' || c = '\x7b'

def opening? : Char → Option Char
  | ')' => some '('
  | ']' => some '['
  | '\x7d' => some '\x7b'
  | _ => none

/-- The open brackets with their lines, innermost first. -/
abbrev Pending := List (Char × Nat)

def bracket (line : Nat) (pending : Pending) (c : Char) : Except CheckError Pending :=
  if isOpening c then .ok ((c, line) :: pending)
  else
    match opening? c with
    | none => .ok pending
    | some opening =>
      match pending with
      | (innermost, _) :: outer =>
        if innermost = opening then .ok outer else .error (.unbalanced c line)
      | [] => .error (.unbalanced c line)

def brackets (line : Nat) (pending : Pending) (text : List Char) : Except CheckError Pending :=
  text.foldlM (bracket line) pending

/-- The text after something that it starts with. -/
def after? (start text : List Char) : Option (List Char) :=
  start.isPrefixOf? text

/-- The identifier and the value of a line that declares a constant. -/
def constant? (text : List Char) : Option (List Char × List Char) := do
  let rest ← after? "public static let ".toList (text.dropWhile isBlank)
  let identifier := rest.takeWhile (!isBlank ·)
  let value ← after? " = ".toList (rest.dropWhile (!isBlank ·))
  if identifier = [] then none else some (identifier, value)

/-- A type's name with one symbol as its raw value. -/
def isInitializer (value : List Char) : Bool :=
  let type := value.takeWhile Identifier.isPart
  match after? "(rawValue: ".toList (value.dropWhile Identifier.isPart) with
  | none => false
  | some rest =>
    Identifier.isWord type && rest.getLast? == some ')' && !rest.dropLast.contains ')' &&
      Identifier.accepts rest.dropLast

def constant (line : Nat) (text : List Char) : Except CheckError Unit :=
  match constant? text with
  | none => .ok ()
  | some (identifier, value) =>
    if !Identifier.accepts identifier then .error (.invalidIdentifier identifier line)
    else if !isInitializer (trim value) then .error (.invalidInitializer value line)
    else .ok ()

/-- Checks one line and gives the brackets that are open behind it. -/
def line (number : Nat) (pending : Pending) (text : List Char) : Except CheckError Pending := do
  let pending ← brackets number pending (code text)
  constant number (code text)
  .ok pending

def lines : Nat → Pending → List (List Char) → Except CheckError Pending
  | _, pending, [] => .ok pending
  | number, pending, text :: rest =>
    match line number pending text with
    | .ok pending => lines (number + 1) pending rest
    | .error error => .error error

theorem lines_append (number : Nat) (pending : Pending) (first second : List (List Char)) :
    lines number pending (first ++ second) =
      lines number pending first >>= fun pending =>
        lines (number + first.length) pending second := by
  induction first generalizing number pending with
  | nil => rfl
  | cons text rest ih =>
    cases h : line number pending text with
    | error error => simp [lines, h, bind, Except.bind]
    | ok pending =>
      have hn : number + (rest.length + 1) = number + 1 + rest.length := by omega
      simp [lines, h, ih, hn]

def source (text : List Char) : Except CheckError Unit :=
  match lines 1 [] (Text.lines text) with
  | .error error => .error error
  | .ok [] => .ok ()
  | .ok ((bracket, line) :: _) => .error (.unclosed bracket line)

end Check
end OptionBindings
