import OptionBindings.Proofs.Catalog.Nesting
import OptionBindings.Proofs.OptionsDocument.Outcome
import OptionBindings.Proofs.Xml.NestedTags

/-!
# Events in pairs

A listener hears the starts and ends of scopes and options as they are nested in the document, up to
where the reading stops. Only the ends of options without a name or code come without their starts.
-/

namespace OptionBindings

open Xml (Tag)

namespace Xml.Tag

def starts (element : String) : Tag → Bool
  | start name _ => name = element
  | finish _ => false

def finishes (element : String) : Tag → Bool
  | start _ _ => false
  | finish name => name = element

def isIgnoredOption : Tag → Bool
  | start name attributes => name = "Option" && (OptionTag.ofAttributes? attributes).isNone
  | finish _ => false

theorem starts_of_pairs (element : String) :
    ∀ a b : Tag, Pairs a b →
      finishes element a = false ∧ (finishes element b = true → starts element a = true) := by
  rintro _ _ ⟨name, attributes⟩
  exact ⟨rfl, id⟩

theorem starts_iff_of_pairs (element : String) :
    ∀ a b : Tag, Pairs a b →
      finishes element a = false ∧ starts element b = false ∧
        finishes element b = starts element a := by
  rintro _ _ ⟨name, attributes⟩
  exact ⟨rfl, rfl, rfl⟩

end Xml.Tag

theorem countStarts_eq (element : String) (tags : List Tag) :
    countStarts element tags = tags.countP (Tag.starts element) := by
  rw [countStarts]
  congr 1

/-! ## The events of tags -/

namespace Event

inductive Pairs : Event → Event → Prop
  | scope (name : Option String) : Pairs (.scopeStart name) .scopeEnd
  | option (tag : OptionTag) : Pairs (.optionStart tag) .optionEnd

def isScopeStart : Event → Bool
  | scopeStart _ => true
  | _ => false

def isScopeEnd : Event → Bool
  | scopeEnd => true
  | _ => false

def isOptionStart : Event → Bool
  | optionStart _ => true
  | _ => false

def isOptionEnd : Event → Bool
  | optionEnd => true
  | _ => false

def ofTag? (tag : Tag) : Option Event :=
  (Report.ofTag? tag).bind Report.event?

def ofTags (tags : List Tag) : List Event :=
  tags.filterMap ofTag?

theorem filterMap_reports (tags : List Tag) :
    (Report.ofTags tags).filterMap Report.event? = ofTags tags := by
  rw [Report.ofTags, List.filterMap_filterMap]
  rfl

theorem ofTag?_start (name : String) (attributes : List (String × String)) :
    ofTag? (.start name attributes) =
      if name = "Scope" then some (.scopeStart (attributes.lookup "name"))
      else if name = "Option" then (OptionTag.ofAttributes? attributes).map .optionStart
      else none := by
  rw [ofTag?, Report.ofTag?_start]
  by_cases hscope : name = "Scope"
  · simp [hscope, Report.event?]
  by_cases hoption : name = "Option"
  · cases OptionTag.ofAttributes? attributes <;> simp [hoption, Report.event?]
  · simp [hscope, hoption]

theorem ofTag?_finish (name : String) :
    ofTag? (.finish name) =
      if name = "Scope" then some .scopeEnd
      else if name = "Option" then some .optionEnd
      else none := by
  rw [ofTag?, Report.ofTag?_finish]
  by_cases hscope : name = "Scope"
  · simp [hscope, Report.event?]
  by_cases hoption : name = "Option"
  · simp [hoption, Report.event?]
  · simp [hscope, hoption]

/-- What is heard of the tags of scopes, of options and of other elements. -/
inductive Hears : Tag → Option Event → Prop
  | scopeStart (attributes : List (String × String)) :
    Hears (.start "Scope" attributes) (some (.scopeStart (attributes.lookup "name")))
  | optionStart {attributes : List (String × String)} {option : OptionTag}
    (h : OptionTag.ofAttributes? attributes = some option) :
    Hears (.start "Option" attributes) (some (.optionStart option))
  | ignored {attributes : List (String × String)}
    (h : OptionTag.ofAttributes? attributes = none) : Hears (.start "Option" attributes) none
  | scopeEnd : Hears (.finish "Scope") (some .scopeEnd)
  | optionEnd : Hears (.finish "Option") (some .optionEnd)
  | otherStart {name : String} (attributes : List (String × String)) (hscope : name ≠ "Scope")
    (hoption : name ≠ "Option") : Hears (.start name attributes) none
  | otherEnd {name : String} (hscope : name ≠ "Scope") (hoption : name ≠ "Option") :
    Hears (.finish name) none

theorem hears (tag : Tag) : Hears tag (ofTag? tag) := by
  cases tag with
  | start name attributes =>
      rw [ofTag?_start]
      by_cases hscope : name = "Scope"
      · rw [if_pos hscope, hscope]
        exact .scopeStart attributes
      rw [if_neg hscope]
      by_cases hoption : name = "Option"
      · rw [if_pos hoption, hoption]
        cases h : OptionTag.ofAttributes? attributes with
        | none => exact .ignored h
        | some option => exact .optionStart h
      · rw [if_neg hoption]
        exact .otherStart attributes hscope hoption
  | finish name =>
      rw [ofTag?_finish]
      by_cases hscope : name = "Scope"
      · rw [if_pos hscope, hscope]
        exact .scopeEnd
      rw [if_neg hscope]
      by_cases hoption : name = "Option"
      · rw [if_pos hoption, hoption]
        exact .optionEnd
      · rw [if_neg hoption]
        exact .otherEnd hscope hoption

theorem ofTags_cons (tag : Tag) (tags : List Tag) :
    ofTags (tag :: tags) = (ofTag? tag).toList ++ ofTags tags := by
  rw [ofTags, List.filterMap_cons]
  cases ofTag? tag <;> rfl

theorem exists_prefix_of_prefix {heard : List Event} {tags : List Tag} (h : heard <+: ofTags tags) :
    ∃ seen, seen <+: tags ∧ ofTags seen = heard := by
  obtain ⟨later, hlater⟩ := h
  obtain ⟨seen, rest, rfl, hseen, -⟩ := List.filterMap_eq_append_iff.1 hlater.symm
  exact ⟨seen, List.prefix_append seen rest, hseen⟩

/-! ## Counting -/

theorem countP_ofTags {told : Event → Bool} {of : Tag → Bool}
    (h : ∀ tag event, Hears tag event → (event.map told).getD false = of tag) (tags : List Tag) :
    (ofTags tags).countP told = tags.countP of := by
  rw [ofTags, List.countP_filterMap]
  congr 1
  exact funext fun tag => h tag (ofTag? tag) (hears tag)

theorem countP_isScopeStart (tags : List Tag) :
    (ofTags tags).countP isScopeStart = tags.countP (Tag.starts "Scope") := by
  apply countP_ofTags
  intro tag event h
  cases h <;> simp_all [isScopeStart, Tag.starts]

theorem countP_isScopeEnd (tags : List Tag) :
    (ofTags tags).countP isScopeEnd = tags.countP (Tag.finishes "Scope") := by
  apply countP_ofTags
  intro tag event h
  cases h <;> simp_all [isScopeEnd, Tag.finishes]

theorem countP_isOptionEnd (tags : List Tag) :
    (ofTags tags).countP isOptionEnd = tags.countP (Tag.finishes "Option") := by
  apply countP_ofTags
  intro tag event h
  cases h <;> simp_all [isOptionEnd, Tag.finishes]

theorem countP_isOptionStart_le (tags : List Tag) :
    (ofTags tags).countP isOptionStart ≤ tags.countP (Tag.starts "Option") := by
  rw [ofTags, List.countP_filterMap]
  apply List.countP_mono_left
  intro tag _ htold
  have h := hears tag
  generalize ofTag? tag = event at h htold
  cases h <;> simp_all [isOptionStart, Tag.starts]

/-! ## Starts and ends -/

/-- The open elements after a tag, innermost first, by whether they are ignored options. -/
def openAfter (ignored : List Bool) : Tag → List Bool
  | .start name attributes => (Tag.start name attributes).isIgnoredOption :: ignored
  | .finish _ => ignored.tail

def endsIgnored (ignored : List Bool) : Tag → Bool
  | .start _ _ => false
  | .finish _ => ignored.headD false

/-- What is heard of tags, each event with whether it is the end of an ignored option. -/
def marked (ignored : List Bool) : List Tag → List (Event × Bool)
  | [] => []
  | tag :: tags =>
    (ofTag? tag).toList.map (·, endsIgnored ignored tag) ++ marked (openAfter ignored tag) tags

def paired (ignored : List Bool) (tags : List Tag) : List Event :=
  ((marked ignored tags).filter (!·.2)).map (·.1)

theorem map_fst_marked (ignored : List Bool) (tags : List Tag) :
    (marked ignored tags).map (·.1) = ofTags tags := by
  induction tags generalizing ignored with
  | nil => rfl
  | cons tag tags ih =>
      rw [marked, List.map_append, ih, ofTags_cons]
      cases ofTag? tag <;> rfl

theorem marked_append (ignored : List Bool) (first second : List Tag) :
    marked ignored (first ++ second) =
      marked ignored first ++ marked (first.foldl openAfter ignored) second := by
  induction first generalizing ignored with
  | nil => rfl
  | cons tag first ih =>
      rw [List.cons_append, marked, ih, marked, List.append_assoc, List.foldl_cons]

theorem paired_append (ignored : List Bool) (first second : List Tag) :
    paired ignored (first ++ second) =
      paired ignored first ++ paired (first.foldl openAfter ignored) second := by
  rw [paired, marked_append, List.filter_append, List.map_append]
  rfl

theorem foldl_openAfter {tags : List Tag} (h : WellNested Tag.Pairs tags) (ignored : List Bool) :
    tags.foldl openAfter ignored = ignored := by
  induction h generalizing ignored with
  | nil => rfl
  | append _ _ ihfirst ihsecond => rw [List.foldl_append, ihfirst, ihsecond]
  | within hpair _ ih =>
      obtain ⟨name, attributes⟩ := hpair
      rw [List.foldl_append, List.foldl_cons, List.foldl_nil, List.foldl_cons, ih]
      rfl

theorem marked_element (ignored : List Bool) (name : String) (attributes : List (String × String))
    {inner : List Tag} (h : WellNested Tag.Pairs inner) :
    marked ignored (.start name attributes :: inner ++ [.finish name]) =
      (ofTag? (.start name attributes)).toList.map (·, false) ++
        marked ((Tag.start name attributes).isIgnoredOption :: ignored) inner ++
        (ofTag? (.finish name)).toList.map (·, (Tag.start name attributes).isIgnoredOption) := by
  rw [marked_append, List.foldl_cons, foldl_openAfter (h := h), marked]
  simp only [openAfter, endsIgnored, marked, List.headD_cons, List.append_nil]

/-- Nothing but ends of options goes without its start. -/
theorem eq_optionEnd_of_mem_marked {tags : List Tag} (h : WellNested Tag.Pairs tags)
    (ignored : List Bool) {event : Event} (hmem : (event, true) ∈ marked ignored tags) :
    event = .optionEnd := by
  induction h generalizing ignored with
  | nil => cases hmem
  | append hfirst _ ihfirst ihsecond =>
      rw [marked_append] at hmem
      rcases List.mem_append.1 hmem with hmem | hmem
      · exact ihfirst _ hmem
      · exact ihsecond _ hmem
  | within hpair hinner ih =>
      obtain ⟨name, attributes⟩ := hpair
      rw [marked_element ignored name attributes hinner] at hmem
      rcases List.mem_append.1 hmem with hmem | hmem
      · rcases List.mem_append.1 hmem with hmem | hmem
        · simp at hmem
        · exact ih _ hmem
      · obtain ⟨told, htold, hpair⟩ := List.mem_map.1 hmem
        obtain ⟨rfl, hignored⟩ := Prod.mk.inj hpair
        rw [Tag.isIgnoredOption, Bool.and_eq_true, decide_eq_true_eq] at hignored
        rw [hignored.1, ofTag?_finish] at htold
        simpa using htold

theorem map_filter_flag (events : List Event) (flag : Bool) :
    ((events.map (·, flag)).filter (!·.2)).map (·.1) = if flag then [] else events := by
  cases flag <;> simp [List.filter_map, Function.comp_def]

theorem paired_element (ignored : List Bool) (name : String) (attributes : List (String × String))
    {inner : List Tag} (h : WellNested Tag.Pairs inner) :
    paired ignored (.start name attributes :: inner ++ [.finish name]) =
      (ofTag? (.start name attributes)).toList ++
        paired ((Tag.start name attributes).isIgnoredOption :: ignored) inner ++
        if (Tag.start name attributes).isIgnoredOption then []
        else (ofTag? (.finish name)).toList := by
  rw [paired, marked_element ignored name attributes h, List.filter_append, List.filter_append,
    List.map_append, List.map_append, map_filter_flag, map_filter_flag]
  rfl

/-- What is heard of whole elements, the ends of ignored options apart, is well nested. -/
theorem wellNested_paired {tags : List Tag} (h : WellNested Tag.Pairs tags) (ignored : List Bool) :
    WellNested Pairs (paired ignored tags) := by
  induction h generalizing ignored with
  | nil => exact .nil
  | append _ _ ihfirst ihsecond =>
      rw [paired_append]
      exact (ihfirst _).append (ihsecond _)
  | within hpair hinner ih =>
      obtain ⟨name, attributes⟩ := hpair
      have hinside := ih ((Tag.start name attributes).isIgnoredOption :: ignored)
      rw [paired_element ignored name attributes hinner]
      have hstart := hears (.start name attributes)
      generalize ofTag? (.start name attributes) = event at hstart ⊢
      cases hstart with
      | scopeStart => exact hinside.within (.scope _)
      | optionStart h =>
          simp only [Tag.isIgnoredOption, h] at hinside ⊢
          exact hinside.within (.option _)
      | ignored h =>
          simpa [Tag.isIgnoredOption, h] using hinside
      | otherStart _ hscope hoption =>
          simpa [ofTag?_finish, hscope, hoption] using hinside

end Event

/-! ## Listeners -/

/-- A recorder has no scope behind whole elements, unless they have no scopes either. -/
theorem Recorder.current_hearAll {tags : List Tag} (h : WellNested Tag.Pairs tags)
    (recorder : Recorder) :
    (recorder.hearAll tags).current = none ∨
      tags.countP (Tag.starts "Scope") = 0 ∧ (recorder.hearAll tags).current = recorder.current := by
  induction h generalizing recorder with
  | nil => exact .inr ⟨rfl, rfl⟩
  | append _ _ ihfirst ihsecond =>
      rw [hearAll_append, List.countP_append]
      rcases ihsecond (recorder.hearAll _) with hnone | ⟨hsecond, hsame⟩
      · exact .inl hnone
      · rw [hsame, hsecond]
        exact ihfirst recorder
  | @within _ _ inner hpair _ ih =>
      obtain ⟨name, attributes⟩ := hpair
      obtain ⟨catalog, current⟩ := recorder
      have hbehind : ∀ inside : Recorder,
          (inside.hearAll [.finish name]).current =
            if name = "Scope" then none else inside.current := by
        intro inside
        exact congrArg Recorder.current (hear_finish inside.catalog inside.current name)
      rw [hearAll_append, hbehind, hearAll_cons, hear_start, List.cons_append]
      by_cases hname : name = "Scope"
      · exact .inl (by rw [if_pos hname])
      · have hcount : (Tag.start name attributes :: (inner ++ [Tag.finish name])).countP
            (Tag.starts "Scope") = inner.countP (Tag.starts "Scope") := by
          simp [Tag.starts, hname]
        rw [if_neg hname, hcount]
        simpa [Xml.Elements.within, hname] using
          ih ⟨catalog.insertAll (Xml.Elements.declaredBy current name attributes).toList, current⟩

namespace OptionsReader

def tags (reader : OptionsReader) (store : FileStore) : List Tag :=
  match reader.content store with
  | .ok content => (Xml.Document.read content).tags
  | .error _ => []

theorem events_read (reader : OptionsReader) (store : FileStore) :
    (reader.read store).2.events = Event.ofTags (reader.tags store) := by
  rw [tags, ReadResult.events]
  cases hcontent : reader.content store with
  | error error =>
      rw [read, hcontent]
      rfl
  | ok content => rw [reports_read hcontent, Event.filterMap_reports]

theorem exists_wellNested_tags (reader : OptionsReader) (store : FileStore) :
    ∃ rest, WellNested Tag.Pairs (reader.tags store ++ rest) ∧
      ((reader.read store).2.outcome = .ok () → rest = []) := by
  rw [tags]
  cases hcontent : reader.content store with
  | error error => exact ⟨[], .nil, fun _ => rfl⟩
  | ok content =>
      obtain ⟨rest, hrest, hend⟩ := Xml.Document.isNested_read content
      refine ⟨rest, hrest, fun houtcome => hend ?_⟩
      rw [outcome_read hcontent] at houtcome
      cases hproblem : (Xml.Document.read content).problem with
      | none => rfl
      | some problem =>
          rw [hproblem] at houtcome
          cases houtcome

theorem closing_read {reader : OptionsReader} {store : FileStore}
    (h : (reader.read store).2.outcome = .ok ()) :
    (reader.read store).2.closing =
      [.documentRead (reader.scopes + countStarts "Scope" (reader.tags store))
        (reader.options + countStarts "Option" (reader.tags store))] := by
  rw [tags]
  cases hcontent : reader.content store with
  | error error =>
      rw [read, hcontent] at h
      cases h
  | ok content =>
      rw [outcome_read hcontent] at h
      rw [read, hcontent]
      cases hproblem : (Xml.Document.read content).problem with
      | none => simp [hproblem]
      | some problem =>
          rw [hproblem] at h
          cases h

end OptionsReader

/-- A listener hears scopes and options start and end as they are nested. -/
structure HearsInPairs (reader : OptionsReader) (store : FileStore) : Prop where
  /-- At no time have more scopes ended than begun. -/
  scopes : ∀ heard, heard <+: (reader.read store).2.events →
    heard.countP Event.isScopeEnd ≤ heard.countP Event.isScopeStart
  /-- At no time has more been heard of options, one way or the other, than have started. -/
  options : ∀ heard, heard <+: (reader.read store).2.events →
    (∃ seen, seen <+: reader.tags store ∧ Event.ofTags seen = heard) ∧
      ∀ seen, seen <+: reader.tags store → Event.ofTags seen = heard →
        heard.countP Event.isOptionEnd ≤ countStarts "Option" seen ∧
          heard.countP Event.isOptionStart ≤ countStarts "Option" seen
  /-- All that is heard is marked, and nothing but ends of options is marked as ends of ignored ones. -/
  marked : (Event.marked [] (reader.tags store)).map (·.1) = (reader.read store).2.events ∧
    ∀ event, (event, true) ∈ Event.marked [] (reader.tags store) → event = .optionEnd
  /-- Without what is marked it is well nested as far as it goes, and complete on success. -/
  nested : ∃ rest, WellNested Event.Pairs (Event.paired [] (reader.tags store) ++ rest) ∧
    ((reader.read store).2.outcome = .ok () → rest = [])
  /-- A new reader that succeeds gives the numbers of the scopes and of the options that ended. -/
  numbers : (reader.read store).2.outcome = .ok () → reader.scopes = 0 → reader.options = 0 →
    (reader.read store).2.events.countP Event.isScopeStart =
        (reader.read store).2.events.countP Event.isScopeEnd ∧
      (reader.read store).2.closing =
        [.documentRead ((reader.read store).2.events.countP Event.isScopeEnd)
          ((reader.read store).2.events.countP Event.isOptionEnd)]
  /-- A recorder that had no scope, or heard of one, has none in the end. -/
  recorder : (reader.read store).2.outcome = .ok () → ∀ recorder : Recorder,
    recorder.current = none ∨ 0 < (reader.read store).2.events.countP Event.isScopeStart →
      (recorder.handleAll (reader.read store).2.events).current = none

theorem hearsInPairs_read (reader : OptionsReader) (store : FileStore) :
    HearsInPairs reader store := by
  obtain ⟨rest, hnested, hend⟩ := reader.exists_wellNested_tags store
  have hevents := reader.events_read store
  have hseen : ∀ seen, seen <+: reader.tags store → ∀ element,
      seen.countP (Tag.finishes element) ≤ seen.countP (Tag.starts element) := by
    rintro seen ⟨more, hmore⟩ element
    rw [← hmore, List.append_assoc] at hnested
    exact hnested.countP_le (Tag.starts_of_pairs element)
  have hwhole : (reader.read store).2.outcome = .ok () →
      WellNested Tag.Pairs (reader.tags store) := by
    intro houtcome
    rw [hend houtcome, List.append_nil] at hnested
    exact hnested
  refine ⟨?_, ?_, ⟨?_, ?_⟩, ?_, ?_, ?_⟩
  · intro heard hheard
    rw [hevents] at hheard
    obtain ⟨seen, hprefix, rfl⟩ := Event.exists_prefix_of_prefix hheard
    rw [Event.countP_isScopeEnd, Event.countP_isScopeStart]
    exact hseen seen hprefix "Scope"
  · intro heard hheard
    rw [hevents] at hheard
    refine ⟨Event.exists_prefix_of_prefix hheard, ?_⟩
    rintro seen hprefix rfl
    rw [countStarts_eq, Event.countP_isOptionEnd]
    exact ⟨hseen seen hprefix "Option", Event.countP_isOptionStart_le seen⟩
  · rw [Event.map_fst_marked, hevents]
  · intro event hmem
    refine Event.eq_optionEnd_of_mem_marked hnested [] ?_
    rw [Event.marked_append]
    exact List.mem_append_left _ hmem
  · have hpaired := Event.wellNested_paired hnested []
    rw [Event.paired_append] at hpaired
    refine ⟨_, hpaired, fun houtcome => ?_⟩
    rw [hend houtcome]
    rfl
  · intro houtcome hscopes hoptions
    have hequal : ∀ element, (reader.tags store).countP (Tag.finishes element) =
        (reader.tags store).countP (Tag.starts element) :=
      fun element => (hwhole houtcome).countP_eq (Tag.starts_iff_of_pairs element)
    rw [OptionsReader.closing_read houtcome, hevents, Event.countP_isScopeStart,
      Event.countP_isScopeEnd, Event.countP_isOptionEnd, countStarts_eq, countStarts_eq, hscopes,
      hoptions, hequal, hequal, Nat.zero_add, Nat.zero_add]
    exact ⟨rfl, rfl⟩
  · intro houtcome recorder hrecorder
    rw [hevents, Event.countP_isScopeStart] at hrecorder
    rw [hevents, ← Event.filterMap_reports]
    rcases Recorder.current_hearAll (hwhole houtcome) recorder with hnone | ⟨hcount, hsame⟩
    · exact hnone
    · exact hsame.trans (hrecorder.resolve_right (by omega))

end OptionBindings
