import OptionBindings.Text.Case

/-!
# Swift identifiers

The grammar of identifiers, and the constant's name that is made from an option's name: its
segments between underscores joined in lower camel case, between backticks if that is a keyword.
-/

namespace OptionBindings.Identifier

open Text

def isStart (c : Char) : Bool :=
  c.isAlpha || c = '_'

def isPart (c : Char) : Bool :=
  c.isAlphanum || c = '_'

/-- An ASCII letter or underscore with ASCII letters, digits and underscores after it. -/
def isWord : List Char → Bool
  | [] => false
  | c :: rest => isStart c && rest.all isPart

def isEscapedWord : List Char → Bool
  | '`' :: rest => rest.getLast? == some '`' && isWord rest.dropLast
  | _ => false

def dropFinalFeed (text : List Char) : List Char :=
  if text.getLast? = some '\n' then text.dropLast else text

/-- The check of identifiers. A line feed at the end of the text goes unseen. -/
def accepts (text : List Char) : Bool :=
  isWord (dropFinalFeed text) || isEscapedWord (dropFinalFeed text)

/-- Words that no declaration can bind without backticks. -/
def keywords : List String :=
  ["associatedtype", "class", "deinit", "enum", "extension", "fileprivate",
   "func", "import", "init", "inout", "internal", "let", "open", "operator",
   "private", "precedencegroup", "protocol", "public", "rethrows", "static",
   "struct", "subscript", "typealias", "var", "break", "case", "catch",
   "continue", "default", "defer", "do", "else", "fallthrough", "for",
   "guard", "if", "in", "repeat", "return", "throw", "switch", "where",
   "while", "as", "false", "is", "nil", "self", "super", "throws", "true",
   "try"]

def segments (name : List Char) : List (List Char) :=
  (name.splitOn '_').filter (!·.isEmpty)

/-- A name that starts in lower case and has no underscore is in camel case already. -/
def isCamelCase (name : List Char) : Bool :=
  !name.contains '_' && name.head?.any isLower

def joinSegments : List (List Char) → List Char
  | [] => []
  | first :: rest => lower first ++ rest.flatMap capitalize

def camelCase (name : List Char) : List Char :=
  if isCamelCase name then name else joinSegments (segments name)

def escape (word : List Char) : List Char :=
  if keywords.contains (String.ofList word) then '`' :: word ++ ['`'] else word

def ofName (name : List Char) : List Char :=
  escape (camelCase name)

end OptionBindings.Identifier
