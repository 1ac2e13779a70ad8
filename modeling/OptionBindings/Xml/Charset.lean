/-!
# Character sets of one byte

What a document's encoding name may stand for when it is none of the names that every reader knows.
-/

namespace OptionBindings.Xml

/-- Encodings of host names and the like, which decode no whole text. -/
inductive Refusal
  | idna
  | punycode
  | undefined
  deriving DecidableEq, Repr

inductive Charset
  /-- ASCII without the `missing` characters, and `high` for the bytes from 0x80 on. -/
  | page (missing : List Char) (high : String)
  /-- The first 256 code points. -/
  | latin
  /-- One byte a character, but not a superset of ASCII. -/
  | otherSet
  /-- More than one byte for some characters. -/
  | wide
  /-- A conversion of bytes that yields no text. -/
  | noText
  | refusing (why : Refusal)

namespace Charset

/-- A character set with its names. Only in an alias may a dot stand for an underscore. -/
structure Entry where
  names : List String
  aliases : List String
  charset : Charset

/-- Lower case, with every run of punctuation other than dots as one underscore. -/
def foldName (name : List Char) : List Char :=
  ((name.map Char.toLower).splitOnP fun c => !(c.isAlphanum || c = '.')).filter (!·.isEmpty)
    |>.intersperse ['_'] |>.flatten

def find? (entries : List Entry) (name : String) : Option Charset :=
  let folded := foldName name.toList
  let undotted := folded.map fun c => if c = '.' then '_' else c
  let hasAlias (n : List Char) (e : Entry) := e.aliases.contains (String.ofList n)
  let entry? :=
    entries.find? (hasAlias folded) <|> entries.find? (hasAlias undotted) <|>
      entries.find? (·.names.contains (String.ofList folded))
  entry?.map (·.charset)

end Charset

end OptionBindings.Xml
