import OptionBindings.Binding.Check
import OptionBindings.Binding.Layout
import OptionBindings.Notice

/-!
# Rendering bindings

The Swift file for a table of options, checked on demand.
-/

namespace OptionBindings

/-- A number of 128 bits in five groups of upper case digits. -/
def uuidText (n : Nat) : String :=
  let digits := (Text.hexDigits 32 n).map Char.toUpper
  let group (start size : Nat) := String.ofList ((digits.drop start).take size)
  "-".intercalate [group 0 8, group 8 4, group 12 4, group 16 4, group 20 12]

namespace Render

def text (imprint : Imprint) (scope : Scope) (table : OptionTable) : List Char :=
  Layout.file imprint scope (Declaration.ofTable scope table)

/-- The text of a file of bindings, refused if it is to be checked and fails. -/
def source (imprint : Imprint) (validate : Bool) (scope : Scope) (table : OptionTable) :
    Except CheckError String :=
  let text := text imprint scope table
  match if validate then Check.source text else .ok () with
  | .ok () => .ok (String.ofList text)
  | .error error => .error error

def failure (error : CheckError) : Failure :=
  .generation error.message

end Render
end OptionBindings
