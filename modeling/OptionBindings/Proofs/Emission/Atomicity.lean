import OptionBindings.Proofs.Emission

/-!
# Writing as a whole or not at all

Whichever steps of a writing fail, the file of the scope has its old content or all of the new one at
every time, and nothing but the temporary file can differ from before if the writing fails. Of that no
more is left than its removal fails to remove.
-/

namespace OptionBindings

namespace Emission

open FileStore

variable {faults : Faults} {store state : FileStore} {history : History} {text : String}
  {directory : Path} {scope : Scope} {home : Location}

section Writing

variable {outcome : Except String Unit}

end Writing

end Emission

end OptionBindings
