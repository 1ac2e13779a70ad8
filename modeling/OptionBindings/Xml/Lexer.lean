import OptionBindings.Xml.Encoding

/-!
# Lexemes shared by all parts of a document

Names, references, comments and processing instructions. A lexer gets the cells from its first
character on and returns what it read with the cells after it. A place of a document is the list of
cells from there to its end.
-/

namespace OptionBindings.Xml

abbrev Cells := List Cell

inductive Stop
  /-- No lexeme can have this cell here. -/
  | invalid (place : Cells)
  | ended
  /-- The input ends within a character. -/
  | cutOff
  deriving DecidableEq, Repr

def atEnd : Cells → Bool
  | [] | [.half] => true
  | _ => false

/-- What stops a lexeme that could go on with characters of every kind. -/
def unexpected (cells : Cells) : Stop :=
  if atEnd cells then .ended
  else
    match cells with
    | .cut :: _ => .cutOff
    | place => .invalid place

/-- What stops a lexeme that could go on with ASCII characters alone. -/
def unexpectedAscii (cells : Cells) : Stop :=
  if atEnd cells then .ended else .invalid cells

def isSpace (c : Char) : Bool :=
  c = ' ' || c = '\t' || c = '\n' || c = '\r'

def Cell.isSpace : Cell → Bool
  | .char c => Xml.isSpace c
  | _ => false

def skipSpace (cells : Cells) : Cells :=
  cells.dropWhile Cell.isSpace

def expectChar (c : Char) : Cells → Except Stop Cells
  | .char d :: rest => if d = c then .ok rest else .error (.invalid (.char d :: rest))
  | rest => .error (unexpectedAscii rest)

def nameChars (encoding : Encoding) : Cells → List Char × Cells
  | .char c :: rest =>
    if encoding.isName c then
      let (cs, rest') := nameChars encoding rest
      (c :: cs, rest')
    else ([], .char c :: rest)
  | rest => ([], rest)

def lexName (encoding : Encoding) : Cells → Except Stop (String × Cells)
  | .char c :: rest =>
    if encoding.isNameStart c then
      let (cs, rest') := nameChars encoding rest
      .ok (String.ofList (c :: cs), rest')
    else .error (.invalid (.char c :: rest))
  | rest => .error (unexpected rest)

def lexNameUntil (encoding : Encoding) (mark : Char) (cells : Cells) : Except Stop (String × Cells) := do
  let (name, rest) ← lexName encoding cells
  match rest with
  | .char c :: rest' => if c = mark then .ok (name, rest') else .error (.invalid rest)
  | _ => .error (unexpected rest)

inductive Reference
  | entity (name : String)
  /-- A character by its number, if there is a character of that number. -/
  | character (c : Option Char)
  deriving DecidableEq, Repr

def digitValue? (base : Nat) (c : Char) : Option Nat :=
  let n := c.toNat
  if 48 ≤ n && n ≤ 57 then some (n - 48)
  else if base = 16 && 97 ≤ n && n ≤ 102 then some (n - 87)
  else if base = 16 && 65 ≤ n && n ≤ 70 then some (n - 55)
  else none

/-- The digits up to a semicolon, added to a number. -/
def lexDigits (base : Nat) : Nat → Cells → Except Stop (Nat × Cells)
  | n, .char c :: rest =>
    if c = ';' then .ok (n, rest)
    else
      match digitValue? base c with
      | some d => lexDigits base (n * base + d) rest
      | none => .error (.invalid (.char c :: rest))
  | _, rest => .error (unexpectedAscii rest)

def lexNumber (base : Nat) : Cells → Except Stop (Nat × Cells)
  | .char ';' :: rest => .error (.invalid (.char ';' :: rest))
  | cells => lexDigits base 0 cells

def numbered? (n : Nat) : Option Char :=
  match Cell.ofNat n with
  | .char c => some c
  | _ => none

/-- A reference, from the character after its `&` on. -/
def lexReference (encoding : Encoding) : Cells → Except Stop (Reference × Cells)
  | .char '#' :: .char 'x' :: rest => do
    let (n, rest') ← lexNumber 16 rest
    .ok (.character (numbered? n), rest')
  | .char '#' :: rest => do
    let (n, rest') ← lexNumber 10 rest
    .ok (.character (numbered? n), rest')
  | cells => do
    let (name, rest) ← lexNameUntil encoding ';' cells
    .ok (.entity name, rest)

def skipComment : Cells → Except Stop Cells
  | .char '-' :: .char '-' :: rest => expectChar '>' rest
  | .char _ :: rest => skipComment rest
  | rest => .error (unexpected rest)

/-- A comment, from the hyphen after `<!` on. -/
def lexComment (cells : Cells) : Except Stop Cells := do
  skipComment (← expectChar '-' (← expectChar '-' cells))

def skipInstruction : Cells → Except Stop Cells
  | .char '?' :: .char '>' :: rest => .ok rest
  | .char _ :: rest => skipInstruction rest
  | rest => .error (unexpected rest)

inductive Instruction
  /-- A target that is `xml` exactly. -/
  | declaration
  | other
  deriving DecidableEq, Repr

/-- A target that is `xml` in other letters is refused. -/
def Instruction.ofTarget? (target : String) : Option Instruction :=
  if target = "xml" then some .declaration
  else if target.toList.map Char.toLower = ['x', 'm', 'l'] then none
  else some .other

/-- A processing instruction, from the character after `<?` on. -/
def lexInstruction (encoding : Encoding) (cells : Cells) : Except Stop (Instruction × Cells) := do
  let (target, rest) ← lexName encoding cells
  match rest with
  | .char c :: rest' =>
    match Instruction.ofTarget? target with
    | none => .error (.invalid rest)
    | some kind =>
      if isSpace c then .ok (kind, ← skipInstruction rest')
      else if c = '?' then .ok (kind, ← expectChar '>' rest')
      else .error (.invalid rest)
  | _ => .error (unexpected rest)

end OptionBindings.Xml
