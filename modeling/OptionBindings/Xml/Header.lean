import OptionBindings.Xml.Lexer

/-!
# The XML declaration

A document may start with its version, then its encoding and whether it stands alone, each as a
word between quotes.
-/

namespace OptionBindings.Xml

structure Header where
  /-- The encoding's name, with the place of its first character. -/
  encoding : Option (String × Cells) := none
  standalone : Bool := false

namespace Header

structure Setting where
  name : String
  /-- Where the word stands. -/
  place : Cells
  value : String
  /-- Where the value stands, behind its quote. -/
  valuePlace : Cells

private def isNameChar : Cell → Bool
  | .char c => c.toNat < 0x80 && c ≠ '=' && !Xml.isSpace c
  | _ => false

private def isValueChar : Cell → Bool
  | .char c => c.isAlphanum || c ∈ ['.', '-', '_']
  | _ => false

private def textOf (cells : Cells) : String :=
  String.ofList <| cells.filterMap fun
    | .char c => some c
    | _ => none

/-- The setting that comes next, or nothing at the end. It needs white space before it. -/
def setting? (cells : Cells) : Except Cells (Option Setting × Cells) :=
  match cells with
  | [] => .ok (none, [])
  | first :: _ =>
    if !first.isSpace then .error cells
    else
      match skipSpace cells with
      | [] => .ok (none, [])
      | start =>
        let name := start.takeWhile isNameChar
        let afterName := start.dropWhile isNameChar
        match skipSpace afterName with
        | .char '=' :: rest =>
          if name.isEmpty then .error start
          else
            match skipSpace rest with
            | .char q :: value =>
              if q = '"' || q = '\'' then
                match value.dropWhile isValueChar with
                | .char e :: after =>
                  if e = q then
                    .ok (some ⟨textOf name, start, textOf (value.takeWhile isValueChar), value⟩,
                      after)
                  else .error (.char e :: after)
                | after => .error after
              else .error (.char q :: value)
            | rest => .error rest
        | rest => .error rest

def standalone? (header : Header) (setting : Option Setting) (rest : Cells) :
    Except Cells Header :=
  match setting with
  | none => .ok header
  | some s =>
    if s.name ≠ "standalone" then .error s.place
    else if s.value ≠ "yes" && s.value ≠ "no" then .error s.valuePlace
    else
      match skipSpace rest with
      | [] => .ok { header with standalone := s.value = "yes" }
      | junk => .error junk

/-- The declaration between its `<?xml` and `?>`, or the place of what is wrong with it. -/
def parse (cells : Cells) : Except Cells Header := do
  let (version, rest) ← setting? cells
  match version with
  | none => .error cells
  | some version =>
    if version.name ≠ "version" then .error version.place
    else
      let (second, rest) ← setting? rest
      match second with
      | some s =>
        if s.name = "encoding" then
          if s.value.toList.head?.any Char.isAlpha then
            let (third, rest) ← setting? rest
            standalone? { encoding := some (s.value, s.valuePlace) } third rest
          else .error s.valuePlace
        else standalone? {} second rest
      | none => .ok {}

end Header
end OptionBindings.Xml
