import OptionBindings.Text.CaseTable

/-!
# Case

Lower, upper and capitalized forms of a text. A form may have more characters than the text, and a
capital sigma at the end of a word has the final small sigma as its lower form.
-/

namespace OptionBindings.Text

def isLower (c : Char) : Bool :=
  inSpans CaseTable.lowercase c

/-- The lower form of a character outside of its context. -/
def lowerChar (c : Char) : List Char :=
  if c.toNat < 128 then [c.toLower]
  else
    (listed? CaseTable.lowerLong c).getD [(shifted? CaseTable.lower c).getD c]

def upperChar (c : Char) : List Char :=
  if c.toNat < 128 then [c.toUpper]
  else
    (listed? CaseTable.upperLong c).getD [(shifted? CaseTable.upper c).getD c]

/-- The form of a character that starts a capitalized word. -/
def titleChar (c : Char) : List Char :=
  if c.toNat < 128 then [c.toUpper]
  else if inSpans CaseTable.titleSelf c then [c]
  else (listed? CaseTable.titleOwn c).getD (upperChar c)

/-- The nearest character that is not skipped in the search is cased. -/
def meetsCased (text : List Char) : Bool :=
  ((text.dropWhile (inSpans CaseTable.caseIgnorable)).head?).any (inSpans CaseTable.cased)

/-- A capital sigma between these texts ends a word. The text before it is given backwards. -/
def endsWord (before after : List Char) : Bool :=
  meetsCased before && !meetsCased after

/-- The lower form of a text that follows `before`, which is given backwards. -/
def lowerAfter (before : List Char) : List Char → List Char
  | [] => []
  | c :: rest =>
    (if c = 'Σ' then (if endsWord before rest then ['ς'] else ['σ']) else lowerChar c) ++
      lowerAfter (c :: before) rest

def lower (text : List Char) : List Char :=
  lowerAfter [] text

def upper (text : List Char) : List Char :=
  text.flatMap upperChar

def capitalize : List Char → List Char
  | [] => []
  | c :: rest => titleChar c ++ lowerAfter [c] rest

end OptionBindings.Text
