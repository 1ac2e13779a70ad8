import OptionBindings.Binding.Declaration
import OptionBindings.Proofs.Text.Lines
import OptionBindings.Proofs.Text.Words

/-!
# The lines of documentation

A description is cut at its line ends and the words of a parameter's description are joined by
spaces, so neither brings a line end into the documentation. The type of a parameter is put in as it
is.
-/

namespace OptionBindings.Declaration

open Text

theorem onOneLine_of_mem_descriptionLines {description : Option String} {text : List Char}
    (h : text ∈ descriptionLines description) : OnOneLine text := by
  cases description with
  | none => cases h
  | some source =>
      rw [descriptionLines] at h
      split at h
      · cases h
      · obtain ⟨line, hline, rfl⟩ := List.mem_map.1 h
        intro c hc
        exact isLineEnd_of_mem_lines (List.mem_filter.1 hline).1 c
          ((trimRight_prefix_self line).subset hc)

theorem onOneLine_intercalate_space {parts : List (List Char)}
    (h : ∀ part ∈ parts, OnOneLine part) : OnOneLine (List.intercalate [' '] parts) := by
  induction parts with
  | nil => exact onOneLine_nil
  | cons part parts ih =>
      by_cases hparts : parts = []
      · rw [hparts, List.intercalate_singleton]
        exact h part (by simp)
      · rw [List.intercalate_cons_of_ne_nil hparts, onOneLine_append, onOneLine_append]
        exact ⟨⟨h part (by simp), by decide⟩, ih fun other hother => h other (by simp [hother])⟩

def detail (parameter : Parameter) : List Char :=
  match parameter.description with
  | some text => if text = "" then [] else "; ".toList ++ List.intercalate [' '] (words text.toList)
  | none => []

theorem parameterLine_eq (parameter : Parameter) :
    parameterLine parameter =
      "Parameter type: ".toList ++ parameter.displayType.toList ++ detail parameter :=
  rfl

theorem onOneLine_detail (parameter : Parameter) : OnOneLine (detail parameter) := by
  rw [detail]
  split
  · split
    · exact onOneLine_nil
    · refine onOneLine_append.2 ⟨by decide, onOneLine_intercalate_space ?_⟩
      intro word hword
      exact onOneLine_of_not_isBlank (not_isBlank_of_mem_words hword)
  · exact onOneLine_nil

theorem onOneLine_displayType {parameter : Parameter} (h : OnOneLine parameter.type.toList) :
    OnOneLine parameter.displayType.toList := by
  rw [Parameter.displayType]
  split
  · decide
  · exact h

theorem onOneLine_parameterLine {parameter : Parameter} (h : OnOneLine parameter.type.toList) :
    OnOneLine (parameterLine parameter) := by
  rw [parameterLine_eq, onOneLine_append, onOneLine_append]
  exact ⟨⟨by decide, onOneLine_displayType h⟩, onOneLine_detail parameter⟩

theorem onOneLine_of_mem_docLines {scope : Scope} {option : ClientOption}
    (h : ∀ parameter ∈ option.parameter, OnOneLine parameter.type.toList) {text : List Char}
    (htext : text ∈ (ofOption scope option).docLines) : OnOneLine text := by
  rcases List.mem_append.1 htext with htext | htext
  · exact onOneLine_of_mem_descriptionLines htext
  · obtain ⟨parameter, hparameter, rfl⟩ := List.mem_map.1 htext
    exact onOneLine_parameterLine (h parameter (Option.mem_toList.1 hparameter))

end OptionBindings.Declaration
