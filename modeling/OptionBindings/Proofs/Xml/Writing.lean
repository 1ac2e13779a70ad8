import OptionBindings.Proofs.Xml.Utf8
import OptionBindings.Xml.Reader

/-!
# Writing elements

A tag is written with the values of its attributes between double quotes. A character that may not
stand in a value, or that would be read as a space, is written as a reference. What is written has no
character that a document may not hold.
-/

namespace OptionBindings.Xml

/-! ## Trees of elements -/

/-- Elements side by side, each with the elements within it. -/
inductive Elements
  | none
  | cons (name : String) (attributes : List (String × String)) (inner later : Elements)

def Elements.tags : Elements → List Tag
  | none => []
  | cons name attributes inner later =>
    .start name attributes :: (inner.tags ++ .finish name :: later.tags)

/-! ## Tags -/

def charText (c : Char) : List Char :=
  if c = '&' then "&amp;".toList
  else if c = '<' then "&lt;".toList
  else if c = '"' then "&quot;".toList
  else if c = '\t' then "&#9;".toList
  else if c = '\n' then "&#10;".toList
  else if c = '\r' then "&#13;".toList
  else [c]

def valueText (value : String) : List Char :=
  value.toList.flatMap charText

def attributeText (name value : String) : List Char :=
  ' ' :: name.toList ++ "=\"".toList ++ valueText value ++ ['"']

def attributesText (attributes : List (String × String)) : List Char :=
  attributes.flatMap fun (name, value) => attributeText name value

/-- How a start tag ends, and the one tag of an empty element. -/
def tagEndText (empty : Bool) : List Char :=
  if empty then "/>".toList else ['>']

def startTagText (name : String) (attributes : List (String × String)) (empty : Bool) : List Char :=
  '<' :: name.toList ++ attributesText attributes ++ tagEndText empty

def endTagText (name : String) : List Char :=
  "</".toList ++ name.toList ++ ['>']

/-! ## Elements -/

def isXmlName (encoding : Encoding) (name : String) : Bool :=
  name.toList.head?.any encoding.isNameStart && name.toList.tail.all encoding.isName

theorem exists_of_isXmlName {encoding : Encoding} {name : String} (h : isXmlName encoding name) :
    ∃ first others, name.toList = first :: others ∧ encoding.isNameStart first ∧
      ∀ c ∈ others, encoding.isName c := by
  rw [isXmlName, Bool.and_eq_true, Option.any_eq_true, List.all_eq_true] at h
  obtain ⟨⟨first, hhead, hfirst⟩, hothers⟩ := h
  obtain ⟨others, hname⟩ := List.head?_eq_some_iff.1 hhead
  exact ⟨first, others, hname, hfirst, by rwa [hname] at hothers⟩

/-- A tag that can be written: its names are names, no two attributes have the same one, and a
document may hold the values. -/
structure IsTag (name : String) (attributes : List (String × String)) : Prop where
  element : isXmlName .utf8 name
  named : ∀ written ∈ attributes, isXmlName .utf8 written.1
  distinct : (attributes.map (·.1)).Nodup
  values : ∀ written ∈ attributes, ∀ c ∈ written.2.toList, IsXmlChar c

/-- The text is a way to write the elements. An element without content has one tag or two. -/
inductive Writes : Elements → List Char → Prop
  | none : Writes .none []
  | empty {name : String} {attributes : List (String × String)} {later : Elements}
    {laterText : List Char} :
    IsTag name attributes → Writes later laterText →
      Writes (.cons name attributes .none later) (startTagText name attributes true ++ laterText)
  | around {name : String} {attributes : List (String × String)} {inner later : Elements}
    {innerText laterText : List Char} :
    IsTag name attributes → Writes inner innerText → Writes later laterText →
      Writes (.cons name attributes inner later)
        (startTagText name attributes false ++ innerText ++ endTagText name ++ laterText)

/-! ## Characters -/

theorem isXmlChar_of_isName {c : Char} (h : Encoding.isName .utf8 c) : IsXmlChar c := by
  have hspans : ∀ spans, (∀ span ∈ spans, 0x20 ≤ span.first ∧ span.last ≤ 0xd7ff) →
      Text.inSpans spans c → IsXmlChar c := by
    intro spans hbounds hin
    obtain ⟨span, hspan, hcontains⟩ := List.any_eq_true.1 hin
    have hbound := hbounds span hspan
    simp only [Text.Span.contains, Bool.and_eq_true, decide_eq_true_eq] at hcontains
    exact .inr (.inr (.inr (.inl (by omega))))
  have hletters : ∀ span ∈ NameTable.letters, 0x20 ≤ span.first ∧ span.last ≤ 0xd7ff := by
    decide +kernel
  have hextenders : ∀ span ∈ NameTable.extenders, 0x20 ≤ span.first ∧ span.last ≤ 0xd7ff := by
    decide +kernel
  simp only [Encoding.isName, Encoding.isNameStart, Encoding.hasLatinClasses, Bool.or_eq_true,
    decide_eq_true_eq, Bool.false_and, Bool.or_false] at h
  obtain ((rfl | rfl) | (rfl | rfl) | h) | h := h
  · decide
  · decide
  · decide
  · decide
  · exact hspans _ hletters h
  · exact hspans _ hextenders h

theorem isXmlChar_charText {c : Char} (h : IsXmlChar c) : ∀ d ∈ charText c, IsXmlChar d := by
  unfold charText
  repeat' split
  · decide
  · decide
  · decide
  · decide
  · decide
  · decide
  · exact fun d hd => List.mem_singleton.1 hd ▸ h

theorem isXmlChar_of_isXmlName {name : String} (h : isXmlName .utf8 name) :
    ∀ c ∈ name.toList, IsXmlChar c := by
  obtain ⟨first, others, hname, hfirst, hothers⟩ := exists_of_isXmlName h
  rw [hname]
  intro c hc
  refine isXmlChar_of_isName ?_
  rcases List.mem_cons.1 hc with rfl | hc
  · simp [Encoding.isName, hfirst]
  · exact hothers c hc

theorem isXmlChar_startTagText {name : String} {attributes : List (String × String)}
    (h : IsTag name attributes) (empty : Bool) :
    ∀ c ∈ startTagText name attributes empty, IsXmlChar c := by
  have hend : ∀ c ∈ tagEndText empty, IsXmlChar c := by
    cases empty <;> decide
  have hattributes : ∀ c ∈ attributesText attributes, IsXmlChar c := by
    rw [attributesText, List.forall_mem_flatMap]
    intro written hwritten
    have hvalue : ∀ c ∈ valueText written.2, IsXmlChar c :=
      List.forall_mem_flatMap.2 fun c hc => isXmlChar_charText (h.values written hwritten c hc)
    simp only [attributeText, List.forall_mem_append, List.forall_mem_cons]
    exact ⟨⟨⟨⟨by decide, isXmlChar_of_isXmlName (h.named written hwritten)⟩, by decide⟩, hvalue⟩,
      by decide⟩
  simp only [startTagText, List.forall_mem_append, List.forall_mem_cons]
  exact ⟨⟨⟨by decide, isXmlChar_of_isXmlName h.element⟩, hattributes⟩, hend⟩

theorem isXmlChar_endTagText {name : String} (h : isXmlName .utf8 name) :
    ∀ c ∈ endTagText name, IsXmlChar c := by
  simp only [endTagText, List.forall_mem_append]
  exact ⟨⟨by decide, isXmlChar_of_isXmlName h⟩, by decide⟩

theorem Writes.isXmlChar {elements : Elements} {text : List Char} (h : Writes elements text) :
    ∀ c ∈ text, IsXmlChar c := by
  induction h with
  | none => exact fun c hc => absurd hc List.not_mem_nil
  | empty htag _ ih =>
      rw [List.forall_mem_append]
      exact ⟨isXmlChar_startTagText htag true, ih⟩
  | around htag _ _ ihinner ihlater =>
      simp only [List.forall_mem_append]
      exact ⟨⟨⟨isXmlChar_startTagText htag false, ihinner⟩, isXmlChar_endTagText htag.element⟩,
        ihlater⟩

end OptionBindings.Xml
