import OptionBindings.Xml.Lexer

/-!
# Tokens of the prolog

The part of a document before and after its root, with the document type declaration, is read token
by token; the grammar decides later which of them may come.
-/

namespace OptionBindings.Xml.Prolog

inductive Token
  | space
  | comment
  | instruction (kind : Instruction)
  /-- A text between quotes. -/
  | literal (body : Cells)
  /-- The opening of a declaration, with its keyword. -/
  | openDeclaration (keyword : String)
  | openSection
  | closeSection
  | percent
  | parameter (name : String)
  | comma
  | openBracket
  | closeBracket
  | openParen
  /-- A closing parenthesis, with the mark of repetition after it. -/
  | closeParen (mark : Option Char)
  | bar
  /-- The end of a declaration. -/
  | close
  /-- A word after a number sign. -/
  | keyword (word : String)
  /-- A name, with the mark of repetition after it. -/
  | name (name : String) (mark : Option Char)
  /-- A run of name characters that is no name. -/
  | nameToken
  /-- The place where the root starts. -/
  | root
  deriving DecidableEq, Repr

/-- A token whose end shows only by what comes after it: one of some characters, or the end of the
input. -/
def endsBefore (token : Token) (isEnd : Char → Bool) (cells : Cells) :
    Except Stop (Token × Cells) :=
  match cells with
  | .char c :: _ => if isEnd c then .ok (token, cells) else .error (.invalid cells)
  | _ => if atEnd cells then .ok (token, []) else .error (.invalid cells)

def untilQuote (quote : Char) : Cells → Except Stop (Cells × Cells)
  | .char c :: rest =>
    if c = quote then .ok ([], rest)
    else do
      let (body, rest') ← untilQuote quote rest
      .ok (.char c :: body, rest')
  | rest => .error (unexpected rest)

def lexLiteral (quote : Char) (cells : Cells) : Except Stop (Token × Cells) := do
  let (body, rest) ← untilQuote quote cells
  endsBefore (.literal body) (fun c => isSpace c || c ∈ ['>', '%', '[']) rest

def keywordLetters (encoding : Encoding) : Cells → List Char × Cells
  | .char c :: rest =>
    if encoding.isKeywordLetter c then
      let (cs, rest') := keywordLetters encoding rest
      (c :: cs, rest')
    else ([], .char c :: rest)
  | rest => ([], rest)

/-- A declaration, from behind its `<!` on. No reference to a parameter may touch the keyword unless
it has its name. -/
def lexDeclaration (encoding : Encoding) : Cells → Except Stop (Token × Cells)
  | .char '-' :: rest => do .ok (.comment, ← lexComment (.char '-' :: rest))
  | .char '[' :: rest => .ok (.openSection, rest)
  | cells =>
    match keywordLetters encoding cells with
    | ([], rest) => .error (unexpectedAscii rest)
    | (letters, rest) =>
      let token := .openDeclaration (String.ofList letters)
      match rest with
      | .char '%' :: rest' =>
        match rest' with
        | .char c :: _ =>
          if isSpace c || c = '%' then .error (.invalid rest) else .ok (token, rest)
        | _ => if atEnd rest' then .error .ended else .ok (token, rest)
      | .char c :: _ => if isSpace c then .ok (token, rest) else .error (.invalid rest)
      | _ => .error (unexpectedAscii rest)

/-- A percent sign: alone if white space or another one is next, else a reference. -/
def lexPercent (encoding : Encoding) (cells : Cells) : Except Stop (Token × Cells) :=
  match cells with
  | .char c :: _ =>
    if isSpace c || c = '%' then .ok (.percent, cells)
    else do
      let (name, rest) ← lexNameUntil encoding ';' cells
      .ok (.parameter name, rest)
  | _ => .error (unexpected cells)

def lexKeyword (encoding : Encoding) (cells : Cells) : Except Stop (Token × Cells) := do
  let (word, rest) ← lexName encoding cells
  match rest with
  | .cut :: _ => .error .cutOff
  | _ => endsBefore (.keyword word) (fun c => isSpace c || c ∈ [')', '>', '%', '|']) rest

def isRepetition (c : Char) : Bool :=
  c = '?' || c = '*' || c = '+'

def lexWord (encoding : Encoding) (first : Char) (cells : Cells) : Except Stop (Token × Cells) :=
  let (cs, rest) := nameChars encoding cells
  let isName := encoding.isNameStart first
  let word := String.ofList (first :: cs)
  match rest with
  | .char c :: rest' =>
    if isRepetition c && isName then .ok (.name word (some c), rest')
    else ends isName word rest
  | .cut :: _ => .error .cutOff
  | _ => ends isName word rest
where
  ends (isName : Bool) (word : String) : Cells → Except Stop (Token × Cells) :=
    endsBefore (if isName then .name word none else .nameToken)
      fun c => isSpace c || c ∈ ['>', ')', ',', '|', '[', '%']

def lexToken (encoding : Encoding) (cells : Cells) : Except Stop (Token × Cells) :=
  match cells with
  | .char c :: rest =>
    if isSpace c then .ok (.space, skipSpace rest)
    else
      match c with
      | '"' | '\'' => lexLiteral c rest
      | '<' =>
        match rest with
        | .char '!' :: rest' => lexDeclaration encoding rest'
        | .char '?' :: rest' => do
          let (kind, rest'') ← lexInstruction encoding rest'
          .ok (.instruction kind, rest'')
        | cell :: _ =>
          if encoding.opensElement cell then .ok (.root, cells) else .error (unexpectedAscii rest)
        | [] => .error .ended
      | '%' => lexPercent encoding rest
      | ',' => .ok (.comma, rest)
      | '[' => .ok (.openBracket, rest)
      | ']' =>
        match rest with
        | .char ']' :: .char '>' :: rest' => .ok (.closeSection, rest')
        | .char ']' :: rest' => if atEnd rest' then .error .ended else .ok (.closeBracket, rest)
        | _ => .ok (.closeBracket, if atEnd rest then [] else rest)
      | '(' => .ok (.openParen, rest)
      | ')' =>
        match rest with
        | .char m :: rest' =>
          if isRepetition m then .ok (.closeParen (some m), rest')
          else endsBefore (.closeParen none) (fun c => isSpace c || c ∈ ['>', ',', '|', ')']) rest
        | _ => endsBefore (.closeParen none) (fun _ => false) rest
      | '|' => .ok (.bar, rest)
      | '>' => .ok (.close, rest)
      | '#' => lexKeyword encoding rest
      | _ => if encoding.isName c then lexWord encoding c rest else .error (.invalid cells)
  | _ => .error (unexpected cells)

end OptionBindings.Xml.Prolog
