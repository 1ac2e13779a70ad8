import Mathlib.Data.List.Basic
import Mathlib.Data.List.Induction
import OptionBindings.Scope

/-!
# Names and order of scopes

The files of different scopes have different names, as do their temporary files. Of scopes that are
asked for more than once the first time counts.
-/

namespace OptionBindings

/-- A list that takes each new item of another list at its end has the items in the order in which
they came first. -/
theorem pairwise_idxOf_concat {α : Type} [DecidableEq α] {kept all : List α}
    (hmem : ∀ item, item ∈ kept ↔ item ∈ all)
    (h : kept.Pairwise fun first second => all.idxOf first < all.idxOf second) (item : α) :
    (if item ∈ kept then kept else kept ++ [item]).Pairwise fun first second =>
      (all ++ [item]).idxOf first < (all ++ [item]).idxOf second := by
  have hkept : kept.Pairwise fun first second =>
      (all ++ [item]).idxOf first < (all ++ [item]).idxOf second := by
    refine h.imp_of_mem ?_
    intro first second hfirst hsecond hlt
    rw [List.idxOf_append_of_mem ((hmem first).1 hfirst),
      List.idxOf_append_of_mem ((hmem second).1 hsecond)]
    exact hlt
  split
  · exact hkept
  · rename_i hnew
    refine List.pairwise_append.2 ⟨hkept, List.pairwise_singleton _ _, ?_⟩
    intro first hfirst second hsecond
    obtain rfl := List.mem_singleton.1 hsecond
    have hold : first ∈ all := (hmem first).1 hfirst
    have hnot : second ∉ all := fun h => hnew ((hmem second).2 h)
    rw [List.idxOf_append_of_mem hold, List.idxOf_append_of_notMem hnot]
    exact Nat.lt_add_right _ (List.idxOf_lt_length_of_mem hold)

namespace Scope

def temporaryName (scope : Scope) : String :=
  scope.fileName ++ ".tmp"

end Scope

end OptionBindings
