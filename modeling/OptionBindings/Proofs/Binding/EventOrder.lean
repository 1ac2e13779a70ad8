import Mathlib.Data.List.Forall2
import OptionBindings.Binding.Render
import OptionBindings.Proofs.Catalog.Recording

/-!
# The order of events

A file of bindings shows nothing of the order in which its options were declared. It depends on the
last declaration of each name alone, and has the constants in the order of the names by code points.
-/

namespace OptionBindings

namespace OptionTable

def sortedKeys (table : OptionTable) : List String :=
  (table.entries.mergeSort fun a b => a.1 ≤ b.1).map (·.1)

theorem mem_sortedKeys {table : OptionTable} {key : String} :
    key ∈ table.sortedKeys ↔ key ∈ table.keys := by
  have hperm := (List.mergeSort_perm table.entries fun a b => a.1 ≤ b.1).map (·.1)
  exact hperm.mem_iff

theorem pairwise_sortedKeys (table : OptionTable) : table.sortedKeys.Pairwise (· < ·) := by
  have hperm := (List.mergeSort_perm table.entries fun a b => a.1 ≤ b.1).map (·.1)
  have hne : table.sortedKeys.Pairwise (· ≠ ·) := hperm.nodup_iff.2 table.nodup
  have hle : table.sortedKeys.Pairwise (· ≤ ·) := by
    have hsorted := List.pairwise_mergeSort key_le_trans key_le_total table.entries
    apply List.pairwise_map.2
    exact hsorted.imp fun h => of_decide_eq_true h
  exact (hle.and hne).imp fun h => Std.lt_of_le_of_ne h.1 h.2

theorem forall₂_sorted (table : OptionTable) :
    List.Forall₂ (fun key option => table.get? key = some option) table.sortedKeys table.sorted := by
  unfold sortedKeys sorted
  rw [List.forall₂_map_left_iff, List.forall₂_map_right_iff, List.forall₂_same]
  rintro ⟨key, option⟩ hentry
  exact mem_entries_iff.1 (List.mem_mergeSort.1 hentry)

end OptionTable

namespace Recorder

def lastAccepted? (scope : Scope) (events : List Event) (name : String) : Option OptionTag :=
  (accepted scope events).reverse.find? fun tag => tag.name = name

def tableAfter (scope : Scope) (events : List Event) : OptionTable :=
  (({} : Recorder).handleAll events).catalog.table scope

theorem tableAfter_eq (scope : Scope) (events : List Event) :
    tableAfter scope events =
      OptionTable.empty.insertAll ((accepted scope events).map (·.toOption)) :=
  table_handleAll_empty events scope

theorem get?_tableAfter (scope : Scope) (events : List Event) (name : String) :
    (tableAfter scope events).get? name = (lastAccepted? scope events name).map (·.toOption) := by
  have hnone : OptionTable.empty.get? name = none := rfl
  rw [tableAfter_eq, OptionTable.get?_insertAll, hnone, Option.or_none, ← List.map_reverse,
    List.find?_map]
  rfl

theorem mem_keys_tableAfter {scope : Scope} {events : List Event} {name : String} :
    name ∈ (tableAfter scope events).keys ↔ ∃ tag ∈ accepted scope events, tag.name = name :=
  (holds_handleAll events).mem_keys scope name

/-- One declaration for each name that some events declare, from the last option of the name, in
ascending order of the names. -/
def DeclaresInOrder (scope : Scope) (events : List Event) (declarations : List Declaration) : Prop :=
  ∃ names : List String,
    (∀ name, name ∈ names ↔ ∃ tag ∈ accepted scope events, tag.name = name) ∧
    names.Pairwise (· < ·) ∧
    List.Forall₂
      (fun name declaration => ∃ tag, lastAccepted? scope events name = some tag ∧
        declaration = Declaration.ofOption scope tag.toOption)
      names declarations

theorem declaresInOrder_ofTable (scope : Scope) (events : List Event) :
    DeclaresInOrder scope events (Declaration.ofTable scope (tableAfter scope events)) := by
  refine ⟨(tableAfter scope events).sortedKeys, ?_, OptionTable.pairwise_sortedKeys _, ?_⟩
  · intro name
    rw [OptionTable.mem_sortedKeys, mem_keys_tableAfter]
  · unfold Declaration.ofTable
    rw [List.forall₂_map_right_iff]
    apply (OptionTable.forall₂_sorted _).imp
    intro name option hoption
    rw [get?_tableAfter] at hoption
    obtain ⟨tag, htag, rfl⟩ := Option.map_eq_some_iff.1 hoption
    exact ⟨tag, htag, rfl⟩

theorem ofTable_tableAfter_eq {scope : Scope} {first second : List Event}
    (h : ∀ name, lastAccepted? scope first name = lastAccepted? scope second name) :
    Declaration.ofTable scope (tableAfter scope first) =
      Declaration.ofTable scope (tableAfter scope second) := by
  apply OptionTable.map_sorted_eq_of_get?
  intro name
  rw [get?_tableAfter, get?_tableAfter, h name]

/-- Events that agree on the last option of each name give the same file, or the same refusal of it.
Its constants are those of the last options, by name. -/
theorem source_tableAfter_eq {scope : Scope} {first second : List Event}
    (h : ∀ name, lastAccepted? scope first name = lastAccepted? scope second name) :
    (∀ imprint validate, Render.source imprint validate scope (tableAfter scope first) =
        Render.source imprint validate scope (tableAfter scope second)) ∧
      DeclaresInOrder scope first (Declaration.ofTable scope (tableAfter scope first)) ∧
      DeclaresInOrder scope second (Declaration.ofTable scope (tableAfter scope second)) := by
  refine ⟨?_, declaresInOrder_ofTable scope first, declaresInOrder_ofTable scope second⟩
  intro imprint validate
  have htext : Render.text imprint scope (tableAfter scope first) =
      Render.text imprint scope (tableAfter scope second) := by
    unfold Render.text
    rw [ofTable_tableAfter_eq h]
  unfold Render.source
  rw [htext]

def plainTag (name code : String) : OptionTag :=
  ⟨name, code, none, none, none⟩

/-- Two parts of a scope around another one, with an option that is overwritten and two that are
dropped. -/
def scatteredEvents : List Event :=
  [.scopeStart (some "NetworkOption"), .optionStart (plainTag "B" "1"), .optionEnd,
    .optionStart (plainTag "A" "2"), .optionEnd, .scopeEnd, .optionStart (plainTag "C" "3"),
    .scopeStart (some "DatabaseOption"), .optionStart (plainTag "A" "4"),
    .scopeStart (some "NetworkOption"), .optionStart (plainTag "B" "5"),
    .optionStart (plainTag "D" ""), .scopeEnd]

def orderedEvents : List Event :=
  [.scopeStart (some "NetworkOption"), .optionStart (plainTag "A" "2"),
    .optionStart (plainTag "B" "5")]

theorem lastAccepted?_scatteredEvents (name : String) :
    lastAccepted? .network scatteredEvents name = lastAccepted? .network orderedEvents name := by
  have hscattered : accepted .network scatteredEvents =
      [plainTag "B" "1", plainTag "A" "2", plainTag "B" "5"] := by
    decide +kernel
  have hordered : accepted .network orderedEvents = [plainTag "A" "2", plainTag "B" "5"] := by
    decide +kernel
  unfold lastAccepted?
  rw [hscattered, hordered]
  by_cases hname : "B" = name
  · simp [plainTag, hname]
  · simp [plainTag, hname, List.find?_cons]

theorem source_tableAfter_scatteredEvents :
    (∀ name, lastAccepted? .network scatteredEvents name =
        lastAccepted? .network orderedEvents name) ∧
      Render.source { year := 2024, uid := "0" } true .network
          (tableAfter .network scatteredEvents) =
        Render.source { year := 2024, uid := "0" } true .network
          (tableAfter .network orderedEvents) :=
  ⟨lastAccepted?_scatteredEvents,
    (source_tableAfter_eq lastAccepted?_scatteredEvents).1 { year := 2024, uid := "0" } true⟩

end Recorder

end OptionBindings
