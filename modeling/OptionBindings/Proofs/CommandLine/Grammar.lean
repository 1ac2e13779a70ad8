import OptionBindings.CommandLine.Arguments

/-!
# What argument lists say

A word may spell a flag in full, by the start of a long spelling alone, or with other flags in a
group; a value stands behind an equals sign, in the same word or in the next. This grammar tells which
lists are in order and what each gives, without a reader: a list of items, in the order in which they
are written.
-/

namespace OptionBindings.CommandLine

inductive Item
  /-- A flag that takes no value. -/
  | flag (flag : Flag)
  | value (flag : Flag) (text : String)
  /-- The name of the input file. -/
  | file (name : String)
  deriving DecidableEq, Repr

variable (interface : Interface)

/-- A long spelling of a flag, or a start that no other spelling has. -/
def IsLongName (start : List Char) (flag : Flag) : Prop :=
  (String.ofList start, flag) ∈ interface.spellings ∨
    ∃ entry ∈ interface.spellings, entry.2 = flag ∧ start <+: entry.1.toList ∧
      ∀ other ∈ interface.spellings, start <+: other.1.toList → other = entry

/-- What comes behind a flag in its word, with what both give. A flag whose value is not there is
left open. -/
inductive Behind : Flag → List Char → List Item → Option Flag → Prop
  | done {flag} : flag.takesValue = false → Behind flag [] [.flag flag] none
  | opened {flag} : flag.takesValue = true → Behind flag [] [] (some flag)
  | assigned {flag} (value : List Char) : flag.takesValue = true →
      Behind flag ('=' :: value) [.value flag (String.ofList value)] none
  | joined {flag} (c : Char) (rest : List Char) : flag.takesValue = true → c ≠ '=' →
      Behind flag (c :: rest) [.value flag (String.ofList (c :: rest))] none
  | more {flag next c rest items opened} : flag.takesValue = false → c ≠ '=' → c ≠ '-' →
      (String.ofList ['-', c], next) ∈ interface.spellings → Behind next rest items opened →
      Behind flag (c :: rest) (.flag flag :: items) opened

/-- A word of flags, with what it gives and the flag that it leaves open. -/
inductive Spells : List Char → List Item → Option Flag → Prop
  | long {start flag items opened} : IsLongName interface ('-' :: '-' :: start) flag →
      Behind interface flag [] items opened → Spells ('-' :: '-' :: start) items opened
  | assigned {start value flag items opened} : IsLongName interface ('-' :: '-' :: start) flag →
      Behind interface flag ('=' :: value) items opened →
      Spells ('-' :: '-' :: start ++ '=' :: value) items opened
  | short {c behind flag items opened} : c ≠ '-' →
      (String.ofList ['-', c], flag) ∈ interface.spellings →
      Behind interface flag behind items opened → Spells ('-' :: c :: behind) items opened

def IsHarmless (word : List Char) : Prop :=
  Word.isNegativeNumber word = true ∨ ' ' ∈ word

inductive IsPlain : List Char → Prop
  | empty : IsPlain []
  | undashed {c rest} : c ≠ '-' → IsPlain (c :: rest)
  | dash : IsPlain ['-']
  | long {rest} :
      (∀ entry ∈ interface.spellings,
        ¬ ('-' :: '-' :: rest).takeWhile (· ≠ '=') <+: entry.1.toList) →
      IsHarmless ('-' :: '-' :: rest) → IsPlain ('-' :: '-' :: rest)
  | short {c rest} : c ≠ '-' → (∀ flag, (String.ofList ['-', c], flag) ∉ interface.spellings) →
      IsHarmless ('-' :: c :: rest) → IsPlain ('-' :: c :: rest)

/-- An argument list in order, with what it gives. The truth value tells whether the input file has
been named before. The pair of dashes may stand on one side of the file. -/
inductive Gives : Bool → List String → List Item → Prop
  | nil {hasFile} : Gives hasFile [] []
  | flags {hasFile word words here items} : Spells interface word.toList here none →
      Gives hasFile words items → Gives hasFile (word :: words) (here ++ items)
  | valued {hasFile word value words here flag items} :
      Spells interface word.toList here (some flag) → IsPlain interface value.toList →
      Gives hasFile words items →
      Gives hasFile (word :: value :: words) (here ++ .value flag value :: items)
  | file {name words items} : IsPlain interface name.toList → Gives true words items →
      Gives false (name :: words) (.file name :: items)
  | dashes : Gives false ["--"] []
  | fileBeforeDashes {name} : IsPlain interface name.toList → Gives false [name, "--"] [.file name]
  | fileBehindDashes {name} : Gives false ["--", name] [.file name]

end OptionBindings.CommandLine
