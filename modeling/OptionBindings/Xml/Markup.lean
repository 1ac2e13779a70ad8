import OptionBindings.Xml.Lexer

/-!
# Markup of the content

Tags are read as a whole, with the values of their attributes in pieces: characters, and references
that are resolved later. Nothing of a tag counts unless all of it can be read. The number that the
lexers of repeated parts take bounds the number of parts; the number of cells is enough.
-/

namespace OptionBindings.Xml

inductive Piece
  | char (c : Char)
  /-- A reference to an entity, with the place of its `&`. -/
  | entity (name : String) (place : Cells)
  /-- A reference to a character that does not exist. -/
  | noCharacter (place : Cells)
  /-- Something that no value can have here. -/
  | malformed (place : Cells)
  deriving DecidableEq, Repr

def Reference.piece (place : Cells) : Reference → Piece
  | entity name => .entity name place
  | character (some c) => .char c
  | character none => .noCharacter place

/-- The pieces of a value, read until `quote` or, without one, to the end. White space is read as
spaces. A value that cannot be read to its end has the place of the failing lexeme with the reason.
-/
def lexPieces (encoding : Encoding) (quote : Option Char) :
    Nat → Cells → List Piece × Except (Stop × Cells) Cells
  | 0, cells => ([], .error (.ended, cells))
  | fuel + 1, cells =>
    match cells with
    | .char c :: rest =>
      if quote = some c then ([], .ok rest)
      else if c = '<' then ([], .error (.invalid cells, cells))
      else if c = '&' then
        match lexReference encoding rest with
        | .error stop => ([], .error (stop, cells))
        | .ok (reference, rest') => more (reference.piece cells) (lexPieces encoding quote fuel rest')
      else if c = '\r' then
        match rest with
        | .char '\n' :: rest' => more (.char ' ') (lexPieces encoding quote fuel rest')
        | _ => more (.char ' ') (lexPieces encoding quote fuel rest)
      else
        more (.char (if isSpace c then ' ' else c)) (lexPieces encoding quote fuel rest)
    | [] => ([], if quote = none then .ok [] else .error (.ended, cells))
    | _ => ([], .error (unexpected cells, cells))
where
  more (piece : Piece) : List Piece × Except (Stop × Cells) Cells →
      List Piece × Except (Stop × Cells) Cells
    | (pieces, outcome) => (piece :: pieces, outcome)

structure RawAttribute where
  name : String
  /-- Where the name stands. -/
  place : Cells
  pieces : List Piece
  deriving DecidableEq, Repr

def lexQuoted (encoding : Encoding) (fuel : Nat) : Cells → Except Stop (List Piece × Cells)
  | .char c :: rest =>
    if c = '"' || c = '\'' then
      match lexPieces encoding (some c) fuel rest with
      | (pieces, .ok rest') => .ok (pieces, rest')
      | (_, .error (stop, _)) => .error stop
    else .error (.invalid (.char c :: rest))
  | cells => .error (unexpectedAscii cells)

def lexAttribute (encoding : Encoding) (fuel : Nat) (cells : Cells) :
    Except Stop (RawAttribute × Cells) := do
  let (name, rest) ← lexName encoding cells
  let rest ←
    match rest with
    | .char _ :: _ => expectChar '=' (skipSpace rest)
    | _ => .error (unexpected rest)
  let (pieces, rest) ← lexQuoted encoding fuel (skipSpace rest)
  .ok (⟨name, cells, pieces⟩, rest)

/-- The end of a start tag, if it comes next, and whether its element is empty. -/
def tagEnd? : Cells → Option (Except Stop (Bool × Cells))
  | .char '>' :: rest => some (.ok (false, rest))
  | .char '/' :: rest => some ((expectChar '>' rest).map (true, ·))
  | _ => none

def lexAttributes (encoding : Encoding) :
    Nat → Cells → Except Stop ((List RawAttribute × Bool) × Cells)
  | 0, _ => .error .ended
  | fuel + 1, cells =>
    match tagEnd? cells with
    | some outcome => outcome.map fun (empty, rest) => (([], empty), rest)
    | none =>
      match cells with
      | .char c :: _ =>
        if isSpace c then
          let next := skipSpace cells
          match tagEnd? next with
          | some outcome => outcome.map fun (empty, rest) => (([], empty), rest)
          | none => do
            let (first, rest) ← lexAttribute encoding fuel next
            let ((others, empty), rest) ← lexAttributes encoding fuel rest
            .ok ((first :: others, empty), rest)
        else .error (.invalid cells)
      | _ => .error (unexpectedAscii cells)

inductive Markup
  | startTag (name : String) (attributes : List RawAttribute) (empty : Bool)
  /-- An end tag, with the place of its name. -/
  | endTag (name : String) (place : Cells)
  /-- The opening of a section of character data. -/
  | openCData
  | comment
  | instruction (kind : Instruction)
  deriving DecidableEq, Repr

def lexStartTag (encoding : Encoding) (fuel : Nat) (cells : Cells) :
    Except Stop (Markup × Cells) := do
  let (name, rest) ← lexName encoding cells
  match rest with
  | .cut :: _ => .error .cutOff
  | _ =>
    let ((attributes, empty), rest) ← lexAttributes encoding fuel rest
    .ok (.startTag name attributes empty, rest)

def lexEndTag (encoding : Encoding) (cells : Cells) : Except Stop (Markup × Cells) := do
  let (name, rest) ← lexName encoding cells
  match rest with
  | .char _ :: _ => .ok (.endTag name cells, ← expectChar '>' (skipSpace rest))
  | _ => .error (unexpected rest)

def unitCount (encoding : Encoding) : Cells → Nat
  | [] => 0
  | cell :: rest => encoding.units cell + unitCount encoding rest

/-- The word after `<![`, once there is room for all of it. -/
def lexOpenCData (encoding : Encoding) (cells : Cells) : Except Stop (Markup × Cells) :=
  if unitCount encoding (cells.take 6) < 6 then .error .ended
  else do
    let rest ← ['C', 'D', 'A', 'T', 'A', '['].foldlM (fun rest c => expectChar c rest) cells
    .ok (.openCData, rest)

/-- Markup of the content, from behind its `<` on. -/
def lexMarkup (encoding : Encoding) (fuel : Nat) : Cells → Except Stop (Markup × Cells)
  | .char '!' :: rest =>
    match rest with
    | .char '-' :: _ => do .ok (.comment, ← lexComment rest)
    | .char '[' :: rest' => lexOpenCData encoding rest'
    | _ => .error (unexpectedAscii rest)
  | .char '?' :: rest => do
    let (kind, rest') ← lexInstruction encoding rest
    .ok (.instruction kind, rest')
  | .char '/' :: rest => lexEndTag encoding rest
  | cells => lexStartTag encoding fuel cells

/-- The rest of a section of character data, or the place where it cannot go on. -/
def skipCData : Cells → Except Stop Cells
  | .char ']' :: .char ']' :: .char '>' :: rest => .ok rest
  | .char _ :: rest => skipCData rest
  | rest => .error (unexpected rest)

end OptionBindings.Xml
