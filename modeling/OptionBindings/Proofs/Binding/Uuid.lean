import OptionBindings.Proofs.Binding.CheckedFile

/-!
# The identifier of a file

The identifier stands on one line of the header, in a comment. Two renderings that differ in it alone
pass or fail alike and have the same text but for that line.
-/

namespace OptionBindings

open Text

/-! ## The text of an identifier -/

namespace Layout

/-! ## The line of the identifier -/

end Layout

namespace Render

end Render

end OptionBindings
