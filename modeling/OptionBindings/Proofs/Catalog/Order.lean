import Mathlib.Data.List.Nodup
import OptionBindings.Catalog.Basic

/-!
# The order of options

A table is known from the order of its keys and from what stands under each. It has one option for a
key, so the order of its options by their keys depends on nothing but what stands under which key.
-/

namespace OptionBindings

namespace OptionTable

theorem ext_entries {first second : OptionTable} (h : first.entries = second.entries) :
    first = second := by
  cases first
  cases second
  simpa using h

theorem key_le_trans {α : Type} (a b c : String × α) :
    decide (a.1 ≤ b.1) = true → decide (b.1 ≤ c.1) = true → decide (a.1 ≤ c.1) = true := by
  simp only [decide_eq_true_eq]
  exact String.le_trans

theorem key_le_total {α : Type} (a b : String × α) :
    (decide (a.1 ≤ b.1) || decide (b.1 ≤ a.1)) = true := by
  simp only [Bool.or_eq_true, decide_eq_true_eq]
  exact String.le_total a.1 b.1

/-- Where no key stands twice, sorting by keys gives the same result from any order. -/
theorem mergeSort_eq_of_perm {α : Type} {first second : List (String × α)}
    (hperm : first.Perm second) (hnodup : (first.map (·.1)).Nodup) :
    first.mergeSort (fun a b => a.1 ≤ b.1) = second.mergeSort (fun a b => a.1 ≤ b.1) := by
  refine @List.Perm.eq_of_pairwise _ (fun a b => decide (a.1 ≤ b.1) = true) _ _ ?_ ?_ ?_ ?_
  · intro a b ha hb hab hba
    have hsecond : b ∈ first := hperm.mem_iff.2 (List.mem_mergeSort.1 hb)
    simp only [decide_eq_true_eq] at hab hba
    exact List.inj_on_of_nodup_map hnodup (List.mem_mergeSort.1 ha) hsecond
      (String.le_antisymm hab hba)
  · exact List.pairwise_mergeSort key_le_trans key_le_total first
  · exact List.pairwise_mergeSort key_le_trans key_le_total second
  · exact ((List.mergeSort_perm first _).trans hperm).trans (List.mergeSort_perm second _).symm

theorem mem_entries_iff {table : OptionTable} {key : String} {option : ClientOption} :
    (key, option) ∈ table.entries ↔ table.get? key = some option := by
  rw [get?, List.lookup_eq_some_iff]
  constructor
  · intro hmem
    obtain ⟨before, after, hsplit⟩ := List.append_of_mem hmem
    have hnodup := table.nodup
    rw [hsplit, List.map_append, List.map_cons, List.nodup_append] at hnodup
    refine ⟨before, after, hsplit, ?_⟩
    intro entry hentry
    have hne : entry.1 ≠ key := hnodup.2.2 entry.1 (List.mem_map_of_mem hentry) key (by simp)
    simpa using hne.symm
  · rintro ⟨before, after, hsplit, -⟩
    simp [hsplit]

theorem mem_keys_iff {table : OptionTable} {key : String} :
    key ∈ table.keys ↔ ∃ option, table.get? key = some option := by
  rw [keys, List.mem_map]
  constructor
  · rintro ⟨⟨_, option⟩, hentry, rfl⟩
    exact ⟨option, mem_entries_iff.1 hentry⟩
  · rintro ⟨option, hget⟩
    exact ⟨(key, option), mem_entries_iff.2 hget, rfl⟩

theorem get?_eq_none_iff {table : OptionTable} {key : String} :
    table.get? key = none ↔ key ∉ table.keys := by
  rw [mem_keys_iff, ← Option.ne_none_iff_exists', not_not]

theorem map_get?_keys (table : OptionTable) :
    table.keys.map (fun key => (key, table.get? key)) =
      table.entries.map fun entry => (entry.1, some entry.2) := by
  rw [keys, List.map_map]
  apply List.map_congr_left
  intro entry hentry
  exact congrArg (entry.1, ·) (mem_entries_iff.1 hentry)

/-- Tables with the same keys in the same order and the same options under them are the same. -/
theorem ext_keys {first second : OptionTable} (hkeys : first.keys = second.keys)
    (hget : ∀ key, first.get? key = second.get? key) : first = second := by
  have hentries : first.entries.map (fun entry => (entry.1, some entry.2)) =
      second.entries.map fun entry => (entry.1, some entry.2) := by
    rw [← map_get?_keys, ← map_get?_keys, hkeys]
    exact List.map_congr_left fun key _ => congrArg (key, ·) (hget key)
  apply ext_entries
  refine List.map_injective_iff.2 ?_ hentries
  rintro ⟨key, option⟩ ⟨key', option'⟩ heq
  simpa using heq

theorem map_sorted_eq_of_get? {α : Type} {f : ClientOption → α} {first second : OptionTable}
    (h : ∀ key, (first.get? key).map f = (second.get? key).map f) :
    first.sorted.map f = second.sorted.map f := by
  have hmap : ∀ table : OptionTable, table.sorted.map f =
      ((table.entries.map fun entry => (entry.1, f entry.2)).mergeSort
        fun a b => a.1 ≤ b.1).map (·.2) := by
    intro table
    rw [← List.map_mergeSort (r := fun a b => decide (a.1 ≤ b.1)) (fun _ _ _ _ => rfl), sorted,
      List.map_map, List.map_map]
    rfl
  have hnodup : ∀ table : OptionTable,
      ((table.entries.map fun entry => (entry.1, f entry.2)).map (·.1)).Nodup := by
    intro table
    rw [List.map_map]
    exact table.nodup
  have hmem : ∀ (table : OptionTable) (key : String) (a : α),
      (key, a) ∈ table.entries.map (fun entry => (entry.1, f entry.2)) ↔
        (table.get? key).map f = some a := by
    intro table key a
    simp only [List.mem_map, Prod.mk.injEq, Option.map_eq_some_iff, ← mem_entries_iff]
    constructor
    · rintro ⟨⟨_, option⟩, hentry, rfl, rfl⟩
      exact ⟨option, hentry, rfl⟩
    · rintro ⟨option, hentry, rfl⟩
      exact ⟨(key, option), hentry, rfl, rfl⟩
  have hperm : (first.entries.map fun entry => (entry.1, f entry.2)).Perm
      (second.entries.map fun entry => (entry.1, f entry.2)) := by
    rw [List.perm_ext_iff_of_nodup (hnodup first).of_map (hnodup second).of_map]
    rintro ⟨key, a⟩
    rw [hmem, hmem, h key]
  rw [hmap, hmap, mergeSort_eq_of_perm hperm (hnodup first)]

end OptionTable

theorem Catalog.ext_table {first second : Catalog}
    (h : ∀ scope, first.table scope = second.table scope) : first = second := by
  obtain ⟨network, database, transaction⟩ := first
  obtain ⟨network', database', transaction'⟩ := second
  obtain rfl : network = network' := h .network
  obtain rfl : database = database' := h .database
  obtain rfl : transaction = transaction' := h .transaction
  rfl

end OptionBindings
