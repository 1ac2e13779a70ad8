import OptionBindings.Proofs.Catalog.Recording

/-!
# Recording into a catalog that is there already

What a recorder makes of a catalog is the catalog with another one laid over it: the one that the same
events make of an empty catalog. Laying over is associative, and a catalog laid over twice is laid over
once.
-/

namespace OptionBindings

namespace OptionTable

/-- The entries of a table, with the options of another one under the keys that both have, and the
other entries of that one behind them. -/
def overlayEntries (base top : OptionTable) : List (String × ClientOption) :=
  base.entries.map (fun entry => (entry.1, (top.get? entry.1).getD entry.2)) ++
    top.entries.filter fun entry => entry.1 ∉ base.keys

theorem map_fst_overlayEntries (base top : OptionTable) :
    (overlayEntries base top).map (·.1) = base.keys ++ top.keys.filter (· ∉ base.keys) := by
  rw [overlayEntries, List.map_append, List.map_map, keys, keys, List.filter_map]
  rfl

theorem nodup_overlayEntries (base top : OptionTable) :
    ((overlayEntries base top).map (·.1)).Nodup := by
  rw [map_fst_overlayEntries, List.nodup_append]
  refine ⟨base.nodup, List.Nodup.filter _ top.nodup, ?_⟩
  intro key hkey other hother heq
  have hnot := (List.mem_filter.1 hother).2
  rw [decide_eq_true_eq] at hnot
  exact hnot (heq ▸ hkey)

def overlay (base top : OptionTable) : OptionTable :=
  ⟨overlayEntries base top, nodup_overlayEntries base top⟩

theorem entries_overlay (base top : OptionTable) :
    (base.overlay top).entries =
      base.entries.map (fun entry => (entry.1, (top.get? entry.1).getD entry.2)) ++
        top.entries.filter fun entry => entry.1 ∉ base.keys :=
  rfl

theorem keys_overlay (base top : OptionTable) :
    (base.overlay top).keys = base.keys ++ top.keys.filter (· ∉ base.keys) :=
  map_fst_overlayEntries base top

theorem get?_overlay (base top : OptionTable) (key : String) :
    (base.overlay top).get? key = (top.get? key).or (base.get? key) := by
  apply Option.ext
  intro option
  have hmem : (base.overlay top).get? key = some option ↔
      (∃ former, base.get? key = some former ∧ (top.get? key).getD former = option) ∨
        top.get? key = some option ∧ key ∉ base.keys := by
    rw [← mem_entries_iff, entries_overlay, List.mem_append, List.mem_map, List.mem_filter,
      decide_eq_true_eq, mem_entries_iff]
    apply or_congr_left
    constructor
    · rintro ⟨⟨_, former⟩, hentry, heq⟩
      obtain ⟨rfl, hformer⟩ := Prod.mk.inj heq
      exact ⟨former, mem_entries_iff.1 hentry, hformer⟩
    · rintro ⟨former, hget, rfl⟩
      exact ⟨(key, former), mem_entries_iff.2 hget, rfl⟩
  rw [hmem, mem_keys_iff]
  cases top.get? key with
  | none => simp
  | some given =>
      cases base.get? key <;> simp

theorem overlay_insert (base top : OptionTable) (key : String) (option : ClientOption) :
    base.overlay (top.insert key option) = (base.overlay top).insert key option := by
  apply ext_keys
  · rw [keys_insert, keys_overlay, keys_overlay, keys_insert]
    by_cases htop : key ∈ top.keys
    · by_cases hbase : key ∈ base.keys
      · simp [htop, hbase]
      · simp [htop, hbase]
    · by_cases hbase : key ∈ base.keys
      · simp [htop, hbase]
      · simp [htop, hbase]
  · intro other
    rw [get?_insert, get?_overlay, get?_overlay, get?_insert]
    split
    · rfl
    · rfl

theorem overlay_empty (base : OptionTable) : base.overlay empty = base := by
  apply ext_keys
  · rw [keys_overlay]
    exact List.append_nil _
  · intro key
    rw [get?_overlay]
    rfl

/-- Options put into a table one after the other make the table with their own table laid over it. -/
theorem insertAll_eq_overlay (base : OptionTable) (options : List ClientOption) :
    base.insertAll options = base.overlay (empty.insertAll options) := by
  induction options using List.reverseRecOn with
  | nil => exact (overlay_empty base).symm
  | append_singleton options option ih =>
      rw [insertAll_concat, insertAll_concat, overlay_insert, ih]

theorem overlay_overlay_self (base top : OptionTable) :
    (base.overlay top).overlay top = base.overlay top := by
  apply ext_keys
  · rw [keys_overlay, keys_overlay]
    have hnew : top.keys.filter (· ∉ base.keys ++ top.keys.filter (· ∉ base.keys)) = [] := by
      rw [List.filter_eq_nil_iff]
      intro key hkey
      by_cases hbase : key ∈ base.keys
      · simp [hbase]
      · simp [hbase, hkey]
    rw [hnew, List.append_nil]
  · intro key
    rw [get?_overlay, get?_overlay, ← Option.or_assoc, Option.or_self]

theorem overlay_assoc (base first second : OptionTable) :
    (base.overlay first).overlay second = base.overlay (first.overlay second) := by
  apply ext_keys
  · simp only [keys_overlay, List.filter_append, List.append_assoc, List.filter_filter]
    congr 2
    apply List.filter_congr
    intro key _
    by_cases hbase : key ∈ base.keys
    · simp [hbase]
    · simp [hbase]
  · intro key
    rw [get?_overlay, get?_overlay, get?_overlay, get?_overlay, Option.or_assoc]

end OptionTable

namespace Catalog

def overlay (base top : Catalog) : Catalog where
  network := base.network.overlay top.network
  database := base.database.overlay top.database
  transaction := base.transaction.overlay top.transaction

theorem table_overlay (base top : Catalog) (scope : Scope) :
    (base.overlay top).table scope = (base.table scope).overlay (top.table scope) := by
  cases scope <;> rfl

def record (catalog : Catalog) (events : List Event) : Catalog :=
  (({ catalog := catalog } : Recorder).handleAll events).catalog

theorem table_record (catalog : Catalog) (events : List Event) (scope : Scope) :
    (catalog.record events).table scope =
      (catalog.table scope).insertAll ((Recorder.accepted scope events).map (·.toOption)) :=
  Recorder.table_handleAll rfl events scope

theorem record_eq_overlay (catalog : Catalog) (events : List Event) :
    catalog.record events = catalog.overlay (record {} events) := by
  apply ext_table
  intro scope
  have halone : (record {} events).table scope =
      OptionTable.empty.insertAll ((Recorder.accepted scope events).map (·.toOption)) :=
    Recorder.table_handleAll_empty events scope
  rw [table_record, table_overlay, halone]
  exact OptionTable.insertAll_eq_overlay _ _

theorem overlay_overlay_self (base top : Catalog) :
    (base.overlay top).overlay top = base.overlay top := by
  apply ext_table
  intro scope
  rw [table_overlay, table_overlay]
  exact OptionTable.overlay_overlay_self _ _

theorem overlay_assoc (base first second : Catalog) :
    (base.overlay first).overlay second = base.overlay (first.overlay second) := by
  apply ext_table
  intro scope
  simp only [table_overlay]
  exact OptionTable.overlay_assoc _ _ _

/-- Events recorded into a catalog lay the catalog that they make alone over it. So to record them
again changes nothing, and to record others after them lays the others' catalog over the result. -/
theorem isOverlaid_record (catalog : Catalog) :
    (∀ events, catalog.record events = catalog.overlay (record {} events)) ∧
      (∀ events, (catalog.record events).record events = catalog.record events) ∧
      ∀ first second,
        (catalog.record first).record second =
            (catalog.overlay (record {} first)).overlay (record {} second) ∧
          (catalog.record first).record second =
            catalog.overlay ((record {} first).overlay (record {} second)) := by
  have htwo : ∀ first second, (catalog.record first).record second =
      (catalog.overlay (record {} first)).overlay (record {} second) := by
    intro first second
    rw [record_eq_overlay (catalog.record first), record_eq_overlay catalog]
  refine ⟨record_eq_overlay catalog, ?_, ?_⟩
  · intro events
    rw [htwo, overlay_overlay_self, ← record_eq_overlay]
  · intro first second
    exact ⟨htwo first second, by rw [htwo, overlay_assoc]⟩

end Catalog

end OptionBindings
