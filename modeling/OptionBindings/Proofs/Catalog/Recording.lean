import Mathlib.Data.List.Induction
import OptionBindings.Catalog.Recorder
import OptionBindings.Proofs.Catalog.Order
import OptionBindings.Proofs.Scope

/-!
# What a recorder makes of its events

An option is accepted for a scope if the last event of a scope before it opens this scope and the
option has a name and a code. A new recorder files the accepted options and no others: under each name
the last of them, with the names in the order of the first of them.
-/

namespace OptionBindings

namespace OptionTable

def insertAll (table : OptionTable) (options : List ClientOption) : OptionTable :=
  options.foldl (fun table option => table.insert option.name option) table

theorem insertAll_concat (table : OptionTable) (options : List ClientOption)
    (option : ClientOption) :
    table.insertAll (options ++ [option]) =
      (table.insertAll options).insert option.name option :=
  List.foldl_append

theorem get?_insertAll (table : OptionTable) (options : List ClientOption) (key : String) :
    (table.insertAll options).get? key =
      (options.reverse.find? fun option => option.name = key).or (table.get? key) := by
  induction options using List.reverseRecOn with
  | nil => rfl
  | append_singleton options option ih =>
      rw [insertAll_concat, get?_insert, ih, List.reverse_append, List.reverse_singleton,
        List.singleton_append, List.find?_cons]
      by_cases hname : option.name = key
      · simp [hname]
      · simp [hname, Ne.symm hname]

theorem keys_insertAll_concat (table : OptionTable) (options : List ClientOption)
    (option : ClientOption) :
    (table.insertAll (options ++ [option])).keys =
      if option.name ∈ (table.insertAll options).keys then (table.insertAll options).keys
      else (table.insertAll options).keys ++ [option.name] := by
  rw [insertAll_concat, keys_insert]

theorem mem_keys_insertAll {table : OptionTable} {options : List ClientOption} {key : String} :
    key ∈ (table.insertAll options).keys ↔ key ∈ table.keys ∨ key ∈ options.map (·.name) := by
  induction options using List.reverseRecOn with
  | nil => simp [insertAll]
  | append_singleton options option ih =>
      rw [keys_insertAll_concat, List.map_append, List.mem_append, ← or_assoc, ← ih]
      split <;> grind

/-- In a table that was empty the keys have the order of the first options of their names. -/
theorem pairwise_idxOf_keys_insertAll (options : List ClientOption) :
    (empty.insertAll options).keys.Pairwise fun first second =>
      (options.map (·.name)).idxOf first < (options.map (·.name)).idxOf second := by
  induction options using List.reverseRecOn with
  | nil => exact List.Pairwise.nil
  | append_singleton options option ih =>
      rw [keys_insertAll_concat, List.map_append, List.map_singleton]
      refine pairwise_idxOf_concat (fun key => ?_) ih option.name
      rw [mem_keys_insertAll]
      simp [empty, keys]

end OptionTable

def Event.isOfScope : Event → Bool
  | .scopeStart _ | .scopeEnd => true
  | .optionStart _ | .optionEnd => false

namespace Recorder

/-! ## The last event of a scope -/

def lastOfScope? (events : List Event) : Option Event :=
  events.reverse.find? Event.isOfScope

/-- The scope that is open behind some events, where nothing is known of unknown ones. -/
def scopeAfter (events : List Event) : Option Scope :=
  match lastOfScope? events with
  | some (.scopeStart marker) => Scope.ofMarker? marker
  | _ => none

theorem lastOfScope?_concat (events : List Event) (event : Event) :
    lastOfScope? (events ++ [event]) =
      if event.isOfScope then some event else lastOfScope? events := by
  rw [lastOfScope?, List.reverse_append, List.reverse_singleton, List.singleton_append,
    List.find?_cons]
  cases event.isOfScope <;> rfl

theorem handleAll_concat (recorder : Recorder) (events : List Event) (event : Event) :
    recorder.handleAll (events ++ [event]) = (recorder.handleAll events).handle event :=
  List.foldl_append

theorem current_handle (recorder : Recorder) (event : Event) :
    (recorder.handle event).current =
      match event with
      | .scopeStart marker => Scope.ofMarker? marker
      | .scopeEnd => none
      | _ => recorder.current := by
  cases event with
  | optionStart tag =>
      rw [handle]
      split
      · split <;> rfl
      · rfl
  | _ => rfl

theorem current_handleAll {recorder : Recorder} (h : recorder.current = none)
    (events : List Event) : (recorder.handleAll events).current = scopeAfter events := by
  induction events using List.reverseRecOn with
  | nil => exact h
  | append_singleton events event ih =>
      rw [handleAll_concat, current_handle, scopeAfter, lastOfScope?_concat]
      cases event with
      | scopeStart marker => rfl
      | scopeEnd => rfl
      | optionStart tag => exact ih
      | optionEnd => exact ih

/-! ## Accepted options -/

/-- The option that is told at an index, if it is accepted for the scope. -/
def acceptedAt? (scope : Scope) (events : List Event) (index : Nat) : Option OptionTag :=
  match events[index]? with
  | some (.optionStart tag) =>
    if lastOfScope? (events.take index) = some (.scopeStart (some scope.typeName)) ∧
        tag.name ≠ "" ∧ tag.code ≠ "" then some tag
    else none
  | _ => none

def accepted (scope : Scope) (events : List Event) : List OptionTag :=
  (List.range events.length).filterMap (acceptedAt? scope events)

theorem acceptedAt?_concat_of_lt (scope : Scope) {events : List Event} (event : Event)
    {index : Nat} (h : index < events.length) :
    acceptedAt? scope (events ++ [event]) index = acceptedAt? scope events index := by
  rw [acceptedAt?, acceptedAt?, List.getElem?_append_left h,
    List.take_append_of_le_length (Nat.le_of_lt h)]

theorem accepted_concat (scope : Scope) (events : List Event) (event : Event) :
    accepted scope (events ++ [event]) =
      accepted scope events ++ (acceptedAt? scope (events ++ [event]) events.length).toList := by
  have hold : (List.range events.length).filterMap (acceptedAt? scope (events ++ [event])) =
      (List.range events.length).filterMap (acceptedAt? scope events) :=
    List.filterMap_congr fun index hindex =>
      acceptedAt?_concat_of_lt scope event (List.mem_range.1 hindex)
  rw [accepted, List.length_append, List.length_singleton, List.range_succ, List.filterMap_append,
    hold, accepted]
  cases h : acceptedAt? scope (events ++ [event]) events.length <;> simp [h]

theorem acceptedAt?_length (scope : Scope) (events : List Event) (event : Event) :
    acceptedAt? scope (events ++ [event]) events.length =
      match event with
      | .optionStart tag => if scopeAfter events = some scope ∧ tag.isComplete then some tag else none
      | _ => none := by
  have hopen : lastOfScope? events = some (.scopeStart (some scope.typeName)) ↔
      scopeAfter events = some scope := by
    rw [scopeAfter]
    split
    · rename_i marker hlast
      rw [hlast, Scope.ofMarker?_eq_some_iff]
      simp
    · rename_i hlast
      simp only [reduceCtorEq, iff_false]
      exact hlast (some scope.typeName)
  rw [acceptedAt?, List.getElem?_concat_length, List.take_left]
  cases event with
  | optionStart tag => simp only [hopen, OptionTag.isComplete, Bool.and_eq_true, decide_eq_true_eq]
  | _ => rfl

theorem table_handle (recorder : Recorder) (event : Event) (scope : Scope) :
    (recorder.handle event).catalog.table scope =
      match event with
      | .optionStart tag =>
        if recorder.current = some scope ∧ tag.isComplete then
          (recorder.catalog.table scope).insert tag.name tag.toOption
        else recorder.catalog.table scope
      | _ => recorder.catalog.table scope := by
  cases event with
  | optionStart tag =>
      rw [handle]
      cases hcurrent : recorder.current with
      | none => simp
      | some current =>
          by_cases hcomplete : tag.isComplete
          · simp only [hcomplete, if_true, Catalog.table_insert]
            by_cases hsame : scope = current
            · simp [hsame, OptionTag.toOption]
            · simp [hsame, Ne.symm hsame]
          · simp [hcomplete]
  | _ => rfl

/-- A recorder that no scope is open for puts the accepted options into its tables in order. -/
theorem table_handleAll {recorder : Recorder} (h : recorder.current = none) (events : List Event)
    (scope : Scope) :
    (recorder.handleAll events).catalog.table scope =
      (recorder.catalog.table scope).insertAll ((accepted scope events).map (·.toOption)) := by
  induction events using List.reverseRecOn with
  | nil => rfl
  | append_singleton events event ih =>
      rw [handleAll_concat, table_handle, current_handleAll h, accepted_concat, acceptedAt?_length,
        List.map_append]
      cases event with
      | optionStart tag =>
          simp only
          split
          · rw [ih, Option.toList_some, List.map_singleton, OptionTable.insertAll_concat]
            rfl
          · rw [ih, Option.toList_none, List.map_nil, List.append_nil]
      | _ => simpa using ih

theorem table_handleAll_empty (events : List Event) (scope : Scope) :
    (({} : Recorder).handleAll events).catalog.table scope =
      OptionTable.empty.insertAll ((accepted scope events).map (·.toOption)) := by
  rw [table_handleAll rfl]
  cases scope <;> rfl

theorem isComplete_of_mem_accepted {scope : Scope} {events : List Event} {tag : OptionTag}
    (h : tag ∈ accepted scope events) : tag.name ≠ "" ∧ tag.code ≠ "" := by
  obtain ⟨index, -, hat⟩ := List.mem_filterMap.1 h
  rw [acceptedAt?] at hat
  split at hat
  · split at hat
    · rename_i hcomplete
      obtain rfl := Option.some.inj hat
      exact hcomplete.2
    · cases hat
  · cases hat

/-! ## The meaning of a run -/

/-- A recorder holds just what some events declare. -/
structure Holds (recorder : Recorder) (events : List Event) : Prop where
  mem_keys : ∀ scope key, key ∈ (recorder.catalog.table scope).keys ↔
    ∃ tag ∈ accepted scope events, tag.name = key
  once : ∀ scope, (recorder.catalog.table scope).keys.Nodup
  /-- The names stand in the order of their first declarations. -/
  order : ∀ scope, (recorder.catalog.table scope).keys.Pairwise fun first second =>
    ((accepted scope events).map (·.name)).idxOf first <
      ((accepted scope events).map (·.name)).idxOf second
  /-- Under a name stands its last declaration. -/
  value : ∀ scope key option, (recorder.catalog.table scope).get? key = some option ↔
    ∃ earlier tag later, accepted scope events = earlier ++ tag :: later ∧ tag.name = key ∧
      (∀ other ∈ later, other.name ≠ key) ∧
      option.name = key ∧ option.code = tag.code ∧ option.description = tag.description ∧
      option.parameter =
        match tag.parameterType with
        | some type => some ⟨type, tag.parameterDescription⟩
        | none => none
  filed : ∀ scope, ∀ entry ∈ (recorder.catalog.table scope).entries,
    entry.2.name = entry.1 ∧ entry.2.name ≠ "" ∧ entry.2.code ≠ ""
  /-- A scope is open if the last event of a scope opens it and it is known. -/
  current : recorder.current =
    match lastOfScope? events with
    | some (.scopeStart marker) => Scope.ofMarker? marker
    | _ => none

theorem get?_handleAll {events : List Event} {scope : Scope} {key : String}
    {option : ClientOption} :
    (((({} : Recorder).handleAll events).catalog.table scope).get? key = some option) ↔
      ∃ earlier tag later, accepted scope events = earlier ++ tag :: later ∧ tag.name = key ∧
        (∀ other ∈ later, other.name ≠ key) ∧ option = tag.toOption := by
  have hempty : ((({} : Recorder).catalog.table scope).get? key) = none := by
    cases scope <;> rfl
  have hnamed : (fun option : ClientOption => decide (option.name = key)) ∘ OptionTag.toOption =
      fun tag => decide (tag.name = key) :=
    rfl
  rw [table_handleAll rfl, OptionTable.get?_insertAll, hempty, Option.or_none, ← List.map_reverse,
    List.find?_map, hnamed, Option.map_eq_some_iff]
  constructor
  · rintro ⟨tag, hfind, rfl⟩
    obtain ⟨hname, before, after, hsplit, hbefore⟩ := List.find?_eq_some_iff_append.1 hfind
    refine ⟨after.reverse, tag, before.reverse, ?_, by simpa using hname, ?_, rfl⟩
    · simpa using congrArg List.reverse hsplit
    · intro other hother
      simpa using hbefore other (List.mem_reverse.1 hother)
  · rintro ⟨earlier, tag, later, hsplit, hname, hlater, rfl⟩
    refine ⟨tag, List.find?_eq_some_iff_append.2 ⟨by simpa using hname, later.reverse,
      earlier.reverse, by simp [hsplit], ?_⟩, rfl⟩
    intro other hother
    simpa using hlater other (List.mem_reverse.1 hother)

theorem holds_handleAll (events : List Event) : (({} : Recorder).handleAll events).Holds events := by
  have htable : ∀ scope, (({} : Recorder).handleAll events).catalog.table scope =
      OptionTable.empty.insertAll ((accepted scope events).map (·.toOption)) := by
    intro scope
    rw [table_handleAll rfl]
    cases scope <;> rfl
  have hnames : ∀ scope, ((accepted scope events).map (·.toOption)).map (·.name) =
      (accepted scope events).map (·.name) := by
    intro scope
    rw [List.map_map]
    rfl
  refine ⟨?_, ?_, ?_, ?_, ?_, current_handleAll rfl events⟩
  · intro scope key
    rw [htable, OptionTable.mem_keys_insertAll, hnames]
    simp [OptionTable.keys, OptionTable.empty]
  · exact fun scope => OptionTable.nodup _
  · intro scope
    rw [htable, ← hnames]
    exact OptionTable.pairwise_idxOf_keys_insertAll _
  · intro scope key option
    rw [get?_handleAll]
    constructor
    · rintro ⟨earlier, tag, later, hsplit, hname, hlater, rfl⟩
      refine ⟨earlier, tag, later, hsplit, hname, hlater, hname, rfl, rfl, ?_⟩
      cases htype : tag.parameterType <;> simp [OptionTag.toOption, htype]
    · rintro ⟨earlier, tag, later, hsplit, hname, hlater, hoption, hcode, hdescription, hparameter⟩
      refine ⟨earlier, tag, later, hsplit, hname, hlater, ?_⟩
      cases option
      cases htype : tag.parameterType <;> simp_all [OptionTag.toOption]
  · rintro scope ⟨key, option⟩ hentry
    obtain ⟨earlier, tag, later, hsplit, rfl, -, rfl⟩ :=
      get?_handleAll.1 (OptionTable.mem_entries_iff.1 hentry)
    have hmem : tag ∈ accepted scope events := by simp [hsplit]
    exact ⟨rfl, isComplete_of_mem_accepted hmem⟩

end Recorder

end OptionBindings
