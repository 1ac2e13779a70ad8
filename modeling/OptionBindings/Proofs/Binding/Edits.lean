import OptionBindings.Proofs.Binding.Blocks
import OptionBindings.Proofs.Binding.EventOrder

/-!
# Edits of a table

The place of a key cuts a file in two: the header with the blocks of the lower keys, and the blocks of
the higher keys with the footer. Neither part depends on what the table has under the key, so an option
that is added brings its own block, and one that is replaced changes its own block, and no other
character of the file changes.
-/

namespace OptionBindings

namespace OptionTable

/-! ## Parts of a table -/

theorem nodup_restrict (table : OptionTable) (p : String → Bool) :
    ((table.entries.filter fun entry => p entry.1).map (·.1)).Nodup :=
  table.nodup.sublist (List.filter_sublist.map _)

def restrict (table : OptionTable) (p : String → Bool) : OptionTable :=
  ⟨table.entries.filter fun entry => p entry.1, nodup_restrict table p⟩

theorem mem_entries_restrict {table : OptionTable} {p : String → Bool} {key : String}
    {option : ClientOption} :
    (key, option) ∈ (table.restrict p).entries ↔ p key = true ∧ table.get? key = some option := by
  rw [restrict, List.mem_filter, mem_entries_iff, and_comm]

theorem get?_restrict (table : OptionTable) (p : String → Bool) (key : String) :
    (table.restrict p).get? key = if p key then table.get? key else none := by
  apply Option.ext
  intro option
  rw [← mem_entries_iff, mem_entries_restrict]
  split
  · rename_i hp
    rw [and_iff_right hp]
  · rename_i hp
    simp [hp]

def below (table : OptionTable) (key : String) : OptionTable :=
  table.restrict fun other => other < key

def above (table : OptionTable) (key : String) : OptionTable :=
  table.restrict fun other => key < other

/-! ## The order of the parts -/

def ordered (table : OptionTable) : List (String × ClientOption) :=
  table.entries.mergeSort fun a b => a.1 ≤ b.1

theorem map_snd_ordered (table : OptionTable) : table.ordered.map (·.2) = table.sorted :=
  rfl

theorem mem_ordered {table : OptionTable} {entry : String × ClientOption} :
    entry ∈ table.ordered ↔ entry ∈ table.entries :=
  List.mem_mergeSort

theorem pairwise_ordered (table : OptionTable) :
    table.ordered.Pairwise fun first second => first.1 < second.1 :=
  List.pairwise_map.1 (pairwise_sortedKeys table)

/-- Entries in strict order of their keys are those of a table in order, if the table has just them. -/
theorem ordered_eq_of_pairwise {table : OptionTable} {entries : List (String × ClientOption)}
    (hpairwise : entries.Pairwise fun first second => first.1 < second.1)
    (hmem : ∀ entry, entry ∈ entries ↔ entry ∈ table.entries) : table.ordered = entries := by
  have hnodup : (entries.map (·.1)).Nodup :=
    List.pairwise_map.2 (hpairwise.imp fun hlt => String.ne_of_lt hlt)
  have hperm : table.entries.Perm entries :=
    (List.perm_ext_iff_of_nodup table.nodup.of_map hnodup.of_map).2 fun entry => (hmem entry).symm
  have hsorted : entries.Pairwise fun first second => decide (first.1 ≤ second.1) = true :=
    hpairwise.imp fun hlt => decide_eq_true (Std.le_of_lt hlt)
  rw [ordered, mergeSort_eq_of_perm hperm table.nodup, List.mergeSort_of_pairwise hsorted]

theorem mem_ordered_restrict {table : OptionTable} {p : String → Bool} {key : String}
    {option : ClientOption} :
    (key, option) ∈ (table.restrict p).ordered ↔ p key = true ∧ table.get? key = some option := by
  rw [mem_ordered, mem_entries_restrict]

def entryAt (table : OptionTable) (key : String) : List (String × ClientOption) :=
  (table.get? key).toList.map (key, ·)

theorem mem_entryAt {table : OptionTable} {key other : String} {option : ClientOption} :
    (other, option) ∈ table.entryAt key ↔ other = key ∧ table.get? other = some option := by
  rw [entryAt, List.mem_map]
  constructor
  · rintro ⟨found, hfound, heq⟩
    obtain ⟨rfl, rfl⟩ := Prod.mk.inj heq
    exact ⟨rfl, Option.mem_toList.1 hfound⟩
  · rintro ⟨rfl, hget⟩
    exact ⟨option, Option.mem_toList.2 hget, rfl⟩

theorem pairwise_parts (table : OptionTable) (key : String) :
    ((table.below key).ordered ++ (table.entryAt key ++ (table.above key).ordered)).Pairwise
      fun first second => first.1 < second.1 := by
  have hbelow : ∀ entry ∈ (table.below key).ordered, entry.1 < key :=
    fun _ hentry => of_decide_eq_true (mem_ordered_restrict.1 hentry).1
  have hhere : ∀ entry ∈ table.entryAt key, entry.1 = key :=
    fun _ hentry => (mem_entryAt.1 hentry).1
  have habove : ∀ entry ∈ (table.above key).ordered, key < entry.1 :=
    fun _ hentry => of_decide_eq_true (mem_ordered_restrict.1 hentry).1
  have hone : (table.entryAt key).Pairwise fun first second => first.1 < second.1 := by
    rw [entryAt]
    cases table.get? key <;> simp
  refine List.pairwise_append.2 ⟨pairwise_ordered _, List.pairwise_append.2
    ⟨hone, pairwise_ordered _, ?_⟩, ?_⟩
  · intro first hfirst second hsecond
    rw [hhere first hfirst]
    exact habove second hsecond
  · intro first hfirst second hsecond
    rcases List.mem_append.1 hsecond with hsecond | hsecond
    · rw [hhere second hsecond]
      exact hbelow first hfirst
    · exact String.lt_trans (hbelow first hfirst) (habove second hsecond)

theorem mem_parts {table : OptionTable} {key other : String} {option : ClientOption} :
    (other, option) ∈ (table.below key).ordered ++ (table.entryAt key ++ (table.above key).ordered) ↔
      table.get? other = some option := by
  rw [List.mem_append, List.mem_append, mem_entryAt, below, above, mem_ordered_restrict,
    mem_ordered_restrict, decide_eq_true_eq, decide_eq_true_eq, ← or_and_right, ← or_and_right]
  exact and_iff_right (Std.lt_trichotomy other key)

/-- In order, the options below a key come first, then the one under the key, then those above it. -/
theorem ordered_eq_append (table : OptionTable) (key : String) :
    table.ordered =
      (table.below key).ordered ++ (table.entryAt key ++ (table.above key).ordered) :=
  ordered_eq_of_pairwise (pairwise_parts table key) fun _ => mem_parts.trans mem_entries_iff.symm

theorem sorted_eq_append (table : OptionTable) (key : String) :
    table.sorted =
      (table.below key).sorted ++ ((table.get? key).toList ++ (table.above key).sorted) := by
  have hhere : (table.entryAt key).map (·.2) = (table.get? key).toList := by
    rw [entryAt, List.map_map]
    exact List.map_id _
  rw [← map_snd_ordered, ordered_eq_append table key, List.map_append, List.map_append, hhere]
  rfl

/-! ## Edited tables -/

/-- The second table has an option under a key, and under all other keys what the first one has. -/
def IsEdit (table : OptionTable) (key : String) (option : ClientOption) (edited : OptionTable) :
    Prop :=
  ∀ other, edited.get? other = if other = key then some option else table.get? other

theorem isEdit_insert (table : OptionTable) (key : String) (option : ClientOption) :
    table.IsEdit key option (table.insert key option) :=
  fun other => get?_insert table key other option

/-- The second table has what the first one has under the keys before a key, and the third what it has
under the keys behind it. -/
structure SplitsAt (table : OptionTable) (key : String) (lower upper : OptionTable) : Prop where
  lower : ∀ other, lower.get? other = if other < key then table.get? other else none
  upper : ∀ other, upper.get? other = if key < other then table.get? other else none

theorem splitsAt (table : OptionTable) (key : String) :
    table.SplitsAt key (table.below key) (table.above key) where
  lower other := by simp only [below, get?_restrict, decide_eq_true_eq]
  upper other := by simp only [above, get?_restrict, decide_eq_true_eq]

theorem SplitsAt.of_isEdit {table edited lower upper : OptionTable} {key : String}
    {option : ClientOption} (h : edited.SplitsAt key lower upper)
    (hedit : table.IsEdit key option edited) : table.SplitsAt key lower upper where
  lower other := by
    rw [h.lower, hedit other]
    split
    · rename_i hlt
      rw [if_neg (String.ne_of_lt hlt)]
    · rfl
  upper other := by
    rw [h.upper, hedit other]
    split
    · rename_i hlt
      rw [if_neg (String.ne_of_lt hlt).symm]
    · rfl

end OptionTable

namespace Declaration

variable {scope : Scope} {table lower upper : OptionTable} {key : String}

theorem ofTable_eq_append (h : table.SplitsAt key lower upper) :
    ofTable scope table =
      ofTable scope lower ++
        ((table.get? key).toList.map (ofOption scope) ++ ofTable scope upper) := by
  have hlower : ofTable scope (table.below key) = ofTable scope lower :=
    OptionTable.map_sorted_eq_of_get? fun other => by rw [(table.splitsAt key).lower, h.lower]
  have hupper : ofTable scope (table.above key) = ofTable scope upper :=
    OptionTable.map_sorted_eq_of_get? fun other => by rw [(table.splitsAt key).upper, h.upper]
  rw [← hlower, ← hupper]
  unfold ofTable
  rw [OptionTable.sorted_eq_append table key, List.map_append, List.map_append]

end Declaration

namespace Layout

def closing (later : List Declaration) : List Char :=
  later.flatMap block ++ footer

theorem file_append (imprint : Imprint) (scope : Scope) (earlier here later : List Declaration) :
    file imprint scope (earlier ++ (here ++ later)) =
      opening imprint scope earlier ++ here.flatMap block ++ closing later := by
  simp only [file, opening, closing, List.flatMap_append, List.append_assoc]

end Layout

namespace Render

open Declaration Layout

/-- The file of a table has a text: without a check, and with a check if it passes. -/
structure RendersTo (imprint : Imprint) (scope : Scope) (table : OptionTable) (text : List Char) :
    Prop where
  unchecked : source imprint false scope table = .ok (String.ofList text)
  checked : ∀ rendered, source imprint true scope table = .ok rendered →
    rendered = String.ofList text

theorem rendersTo_text (imprint : Imprint) (scope : Scope) (table : OptionTable) :
    RendersTo imprint scope table (text imprint scope table) where
  unchecked := source_unchecked imprint scope table
  checked rendered h := by
    rw [source_checked] at h
    cases hcheck : Check.source (text imprint scope table) with
    | error error =>
        rw [hcheck] at h
        cases h
    | ok passed =>
        rw [hcheck] at h
        exact (Except.ok.inj h).symm

def blockOf (scope : Scope) (option : ClientOption) : List Char :=
  block (ofOption scope option)

theorem rendersTo_split (imprint : Imprint) (scope : Scope) {table lower upper : OptionTable}
    {key : String} (h : table.SplitsAt key lower upper) :
    RendersTo imprint scope table
      (opening imprint scope (ofTable scope lower) ++
          (table.get? key).toList.flatMap (blockOf scope) ++
        closing (ofTable scope upper)) := by
  have htext := rendersTo_text imprint scope table
  rw [text, ofTable_eq_append h, file_append, List.flatMap_map] at htext
  exact htext

/-- What an edit under a key makes of a file that has a text before and a text behind the place of the
key. -/
structure IsLocalEdit (imprint : Imprint) (scope : Scope) (table edited : OptionTable) (key : String)
    (option : ClientOption) (before behind : List Char) : Prop where
  /-- If the key is new, nothing stands at its place. -/
  added : key ∉ table.keys → RendersTo imprint scope table (before ++ behind)
  /-- If the key is there already, the block of its option stands at its place. -/
  replaced : ∀ former, table.get? key = some former →
    RendersTo imprint scope table (before ++ blockOf scope former ++ behind)
  edited : RendersTo imprint scope edited (before ++ blockOf scope option ++ behind)

/-- To put an option under a key changes a file at one place: between the header with the blocks of the
lower keys and the blocks of the higher keys with the footer, the option's own block is added, or comes
for the block of the option that it replaces. -/
theorem isLocalEdit_of_isEdit (imprint : Imprint) (scope : Scope) {table edited : OptionTable}
    {key : String} {option : ClientOption} (h : table.IsEdit key option edited) :
    ∃ lower upper, table.SplitsAt key lower upper ∧
      (key ∉ table.keys → ofTable scope table = ofTable scope lower ++ ofTable scope upper) ∧
      IsLocalEdit imprint scope table edited key option
        (opening imprint scope (ofTable scope lower)) (closing (ofTable scope upper)) := by
  have hedited := edited.splitsAt key
  have htable := hedited.of_isEdit h
  have hsplit := rendersTo_split imprint scope htable
  refine ⟨edited.below key, edited.above key, htable, ?_, ?_, ?_, ?_⟩
  · intro hkey
    rw [ofTable_eq_append htable, OptionTable.get?_eq_none_iff.2 hkey]
    rfl
  · intro hkey
    rw [OptionTable.get?_eq_none_iff.2 hkey, Option.toList_none, List.flatMap_nil,
      List.append_nil] at hsplit
    exact hsplit
  · intro former hformer
    rw [hformer, Option.toList_some, List.flatMap_singleton] at hsplit
    exact hsplit
  · have hoption : edited.get? key = some option := by rw [h key, if_pos rfl]
    have hnew := rendersTo_split imprint scope hedited
    rw [hoption, Option.toList_some, List.flatMap_singleton] at hnew
    exact hnew

def neighbours : OptionTable where
  entries :=
    [("C", { name := "C", code := "3", description := some "Deprecated" }),
      ("A", { name := "A", code := "1", parameter := some { type := "Int" } })]
  nodup := by decide

def twoLined : ClientOption where
  name := "TRACE_FILE"
  code := "2"
  description := some "// one\n  two \x7d\n"

theorem isLocalEdit_of_isEdit_neighbours :
    ∃ before behind : List Char,
      RendersTo { year := 2024, uid := "0" } .network neighbours (before ++ behind) ∧
        RendersTo { year := 2024, uid := "0" } .network (neighbours.insert "B" twoLined)
          (before ++ ("\n    /// // one\n    ///   two \x7d\n    public static let traceFile = " ++
            "NetworkOption(rawValue: FDB_NET_OPTION_TRACE_FILE)\n").toList ++ behind) := by
  have hkey : "B" ∉ neighbours.keys := by decide
  have hblock : blockOf .network twoLined =
      ("\n    /// // one\n    ///   two \x7d\n    public static let traceFile = " ++
        "NetworkOption(rawValue: FDB_NET_OPTION_TRACE_FILE)\n").toList := by
    decide +kernel
  obtain ⟨lower, upper, -, -, hlocal⟩ := isLocalEdit_of_isEdit { year := 2024, uid := "0" } .network
    (neighbours.isEdit_insert "B" twoLined)
  rw [← hblock]
  exact ⟨_, _, hlocal.added hkey, hlocal.edited⟩

end Render

end OptionBindings
