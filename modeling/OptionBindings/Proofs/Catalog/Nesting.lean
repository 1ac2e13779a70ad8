import OptionBindings.Catalog.Recorder
import OptionBindings.Proofs.Xml.Writing

/-!
# Scopes within scopes

A recorder knows one scope at a time and forgets it at the end of any scope. So it follows the
nesting of a document's elements just where no scope stands in a known one: there the current scope
is that of the innermost open scope element after every tag, and each option is filed under the scope
of the nearest scope element around it.
-/

namespace OptionBindings

open Xml (Tag Elements)

namespace Xml.Elements

/-- The scope of the innermost scope element within an element, if it is a known one. -/
def within (enclosing : Option Scope) (name : String) (attributes : List (String × String)) :
    Option Scope :=
  if name = "Scope" then Scope.ofMarker? (attributes.lookup "name") else enclosing

def innermost (enclosing : Option Scope) : Elements → List (Option Scope)
  | none => []
  | cons name attributes inner later =>
    within enclosing name attributes ::
      (inner.innermost (within enclosing name attributes) ++ enclosing :: later.innermost enclosing)

def declaredBy (enclosing : Option Scope) (name : String) (attributes : List (String × String)) :
    Option (Scope × ClientOption) :=
  if name = "Option" then do
    let scope ← enclosing
    let tag ← OptionTag.ofAttributes? attributes
    if tag.isComplete then some (scope, tag.toOption) else .none
  else .none

/-- The options in the order of their elements, each with the scope of the nearest scope element
around it. Options of unknown scopes are left out. -/
def declared (enclosing : Option Scope) : Elements → List (Scope × ClientOption)
  | none => []
  | cons name attributes inner later =>
    (declaredBy enclosing name attributes).toList ++
      (inner.declared (within enclosing name attributes) ++ later.declared enclosing)

/-- No scope element has a known scope element as the nearest one around it. -/
def KeepsApart (enclosing : Option Scope) : Elements → Prop
  | none => True
  | cons name attributes inner later =>
    (name = "Scope" → enclosing = .none) ∧
      inner.KeepsApart (within enclosing name attributes) ∧ later.KeepsApart enclosing

theorem length_innermost (enclosing : Option Scope) (elements : Elements) :
    (elements.innermost enclosing).length = elements.tags.length := by
  induction elements generalizing enclosing with
  | none => rfl
  | cons name attributes inner later ihinner ihlater =>
      simp only [innermost, tags, List.length_cons, List.length_append, ihinner, ihlater]

end Xml.Elements

def Catalog.insertAll (catalog : Catalog) (options : List (Scope × ClientOption)) : Catalog :=
  options.foldl (fun catalog (scope, option) => catalog.insert scope option) catalog

theorem Catalog.insertAll_append (catalog : Catalog) (first second : List (Scope × ClientOption)) :
    catalog.insertAll (first ++ second) = (catalog.insertAll first).insertAll second :=
  List.foldl_append

namespace Report

theorem ofTag?_start (name : String) (attributes : List (String × String)) :
    ofTag? (.start name attributes) =
      if name = "Scope" then some (.event (.scopeStart (attributes.lookup "name")))
      else if name = "Option" then
        some <| match OptionTag.ofAttributes? attributes with
          | some tag => .event (.optionStart tag)
          | none => .ignored attributes
      else none := by
  by_cases hscope : name = "Scope"
  · subst hscope
    rfl
  by_cases hoption : name = "Option"
  · subst hoption
    rw [ofTag?]
    split <;> simp_all
  · simp [ofTag?, hscope, hoption]

theorem ofTag?_finish (name : String) :
    ofTag? (.finish name) =
      if name = "Scope" then some (.event .scopeEnd)
      else if name = "Option" then some (.event .optionEnd)
      else none := by
  by_cases hscope : name = "Scope"
  · subst hscope
    rfl
  by_cases hoption : name = "Option"
  · subst hoption
    rfl
  · simp [ofTag?, hscope, hoption]

end Report

namespace Recorder

def hear (recorder : Recorder) (tag : Tag) : Recorder :=
  recorder.handleAll ((Report.ofTags [tag]).filterMap Report.event?)

def hearAll (recorder : Recorder) (tags : List Tag) : Recorder :=
  recorder.handleAll ((Report.ofTags tags).filterMap Report.event?)

def currents (recorder : Recorder) : List Tag → List (Option Scope)
  | [] => []
  | tag :: tags => (recorder.hear tag).current :: (recorder.hear tag).currents tags

theorem hearAll_append (recorder : Recorder) (first second : List Tag) :
    recorder.hearAll (first ++ second) = (recorder.hearAll first).hearAll second := by
  rw [hearAll, Report.ofTags, List.filterMap_append, List.filterMap_append, handleAll_append]
  rfl

theorem hearAll_cons (recorder : Recorder) (tag : Tag) (tags : List Tag) :
    recorder.hearAll (tag :: tags) = (recorder.hear tag).hearAll tags :=
  hearAll_append recorder [tag] tags

theorem currents_append (recorder : Recorder) (first second : List Tag) :
    recorder.currents (first ++ second) =
      recorder.currents first ++ (recorder.hearAll first).currents second := by
  induction first generalizing recorder with
  | nil => rfl
  | cons tag first ih => rw [List.cons_append, currents, ih, currents, hearAll_cons, List.cons_append]

theorem length_currents (recorder : Recorder) (tags : List Tag) :
    (recorder.currents tags).length = tags.length := by
  induction tags generalizing recorder with
  | nil => rfl
  | cons tag tags ih => rw [currents, List.length_cons, ih, List.length_cons]

theorem hear_eq (recorder : Recorder) (tag : Tag) :
    recorder.hear tag =
      match Report.ofTag? tag with
      | some (.event event) => recorder.handle event
      | _ => recorder := by
  rw [hear, Report.ofTags, List.filterMap_cons, List.filterMap_nil]
  cases h : Report.ofTag? tag with
  | none => rfl
  | some report => cases report <;> rfl

theorem hear_start (catalog : Catalog) (current : Option Scope) (name : String)
    (attributes : List (String × String)) :
    (⟨catalog, current⟩ : Recorder).hear (.start name attributes) =
      ⟨catalog.insertAll (Elements.declaredBy current name attributes).toList,
        Elements.within current name attributes⟩ := by
  rw [hear_eq, Report.ofTag?_start]
  by_cases hscope : name = "Scope"
  · simp [hscope, handle, Elements.declaredBy, Elements.within, Catalog.insertAll]
  by_cases hoption : name = "Option"
  · cases htag : OptionTag.ofAttributes? attributes with
    | none => simp [hoption, htag, Elements.declaredBy, Elements.within, Catalog.insertAll]
    | some tag =>
        cases current with
        | none => simp [hoption, handle, Elements.declaredBy, Elements.within, Catalog.insertAll]
        | some scope =>
            by_cases hcomplete : tag.isComplete <;>
              simp [hoption, htag, hcomplete, handle, Elements.declaredBy, Elements.within,
                Catalog.insertAll]
  · simp [hscope, hoption, Elements.declaredBy, Elements.within, Catalog.insertAll]

theorem hear_finish (catalog : Catalog) (current : Option Scope) (name : String) :
    (⟨catalog, current⟩ : Recorder).hear (.finish name) =
      ⟨catalog, if name = "Scope" then none else current⟩ := by
  rw [hear_eq, Report.ofTag?_finish]
  by_cases hscope : name = "Scope"
  · simp [hscope, handle]
  by_cases hoption : name = "Option"
  · simp [hoption, handle]
  · simp [hscope, hoption]

/-- What is left behind an element is what was there before it, unless it is a scope in a known one. -/
theorem restored_iff (enclosing : Option Scope) (name : String)
    (attributes : List (String × String)) :
    (if name = "Scope" then none else Elements.within enclosing name attributes) = enclosing ↔
      (name = "Scope" → enclosing = none) := by
  by_cases hname : name = "Scope"
  · simp [hname, eq_comm]
  · simp [hname, Elements.within]

theorem hearAll_of_keepsApart {enclosing : Option Scope} {elements : Elements}
    (h : elements.KeepsApart enclosing) (catalog : Catalog) :
    (⟨catalog, enclosing⟩ : Recorder).hearAll elements.tags =
      ⟨catalog.insertAll (elements.declared enclosing), enclosing⟩ := by
  induction elements generalizing enclosing catalog with
  | none => rfl
  | cons name attributes inner later ihinner ihlater =>
      obtain ⟨hscope, hinner, hlater⟩ := h
      rw [Elements.tags, hearAll_cons, hear_start, hearAll_append, ihinner hinner, hearAll_cons,
        hear_finish, (restored_iff enclosing name attributes).2 hscope, ihlater hlater,
        Elements.declared, Catalog.insertAll_append, Catalog.insertAll_append]

theorem currents_eq_innermost_iff (enclosing : Option Scope) (catalog : Catalog)
    (elements : Elements) :
    (⟨catalog, enclosing⟩ : Recorder).currents elements.tags = elements.innermost enclosing ↔
      elements.KeepsApart enclosing := by
  induction elements generalizing enclosing catalog with
  | none => exact ⟨fun _ => trivial, fun _ => rfl⟩
  | cons name attributes inner later ihinner ihlater =>
      have hlength : ((⟨catalog.insertAll (Elements.declaredBy enclosing name attributes).toList,
          Elements.within enclosing name attributes⟩ : Recorder).currents inner.tags).length =
            (inner.innermost (Elements.within enclosing name attributes)).length := by
        rw [length_currents, Elements.length_innermost]
      rw [Elements.tags, currents, hear_start, currents_append, Elements.innermost,
        Elements.KeepsApart, List.cons_inj_right]
      constructor
      · intro h
        obtain ⟨hinner, htail⟩ := List.append_inj h hlength
        have hkeeps := (ihinner _ _).1 hinner
        rw [hearAll_of_keepsApart hkeeps, currents, hear_finish, List.cons.injEq] at htail
        obtain ⟨hcurrent, hlater⟩ := htail
        have hscope := (restored_iff enclosing name attributes).1 hcurrent
        rw [(restored_iff enclosing name attributes).2 hscope, ihlater] at hlater
        exact ⟨hscope, hkeeps, hlater⟩
      · rintro ⟨hscope, hinner, hlater⟩
        rw [(ihinner _ _).2 hinner, hearAll_of_keepsApart hinner, currents, hear_finish,
          (restored_iff enclosing name attributes).2 hscope, (ihlater _ _).2 hlater]

/-- A new recorder follows the nesting of elements: its current scope is the innermost one after every
tag, and it files each option under the scope of the nearest scope element around it. -/
structure FollowsNesting (elements : Elements) : Prop where
  current : ({} : Recorder).currents elements.tags = elements.innermost none
  filed : (({} : Recorder).hearAll elements.tags).catalog =
    Catalog.insertAll {} (elements.declared none)

theorem followsNesting_iff_keepsApart (elements : Elements) :
    FollowsNesting elements ↔ elements.KeepsApart none := by
  constructor
  · exact fun h => (currents_eq_innermost_iff none {} elements).1 h.current
  · intro h
    refine ⟨(currents_eq_innermost_iff none {} elements).2 h, ?_⟩
    exact congrArg Recorder.catalog (hearAll_of_keepsApart h {})

def scopeInScope : Elements :=
  .cons "Scope" [("name", "NetworkOption")]
    (.cons "Scope" [("name", "Other")] .none
      (.cons "Option" [("name", "a"), ("code", "1")] .none .none))
    .none

/-- The option has a known scope around it and is filed under none. -/
theorem not_followsNesting_scopeInScope : ¬FollowsNesting scopeInScope := by
  intro h
  have hlost : (({} : Recorder).hearAll scopeInScope.tags).catalog ≠
      Catalog.insertAll {} (scopeInScope.declared none) := by
    decide +kernel
  exact hlost h.filed

end Recorder

end OptionBindings
