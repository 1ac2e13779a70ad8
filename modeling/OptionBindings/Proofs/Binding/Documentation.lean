import Mathlib.Data.List.Forall2
import OptionBindings.Proofs.Binding.DocLines

/-!
# What the documentation says

The lines of documentation have all words of an option's description in order, and behind them all
words of its parameter's description. Every line end is white space, so a description may be cut into
lines, and its lines may be trimmed, without a change of its words.
-/

namespace OptionBindings

open Text

/-! ## Words of lines -/

namespace Text

theorem words_eq_flatMap_of_head {text : List Char}
    (h : words text = words ((lines text).headD []) ++ (lines text).tail.flatMap words) :
    words text = (lines text).flatMap words := by
  rw [h]
  cases lines text <;> rfl

private theorem words_append_within_line {first rest : List Char} {c : Char}
    (hc : isLineEnd c = false)
    (ih : ∀ first, words (first ++ rest) =
      words (first ++ (lines rest).headD []) ++ (lines rest).tail.flatMap words) :
    words (first ++ c :: rest) =
      words (first ++ (lines (c :: rest)).headD []) ++ (lines (c :: rest)).tail.flatMap words := by
  have hstep := ih (first ++ [c])
  rw [List.append_assoc, List.append_assoc] at hstep
  rw [lines_cons_of_not_isLineEnd hc]
  exact hstep

/-- Text in front of other text lengthens its first line and has no part in the other lines. -/
theorem words_append_eq (first text : List Char) :
    words (first ++ text) =
      words (first ++ (lines text).headD []) ++ (lines text).tail.flatMap words := by
  induction text using lines.induct generalizing first with
  | case1 => simp [lines]
  | case2 rest ih =>
      rw [lines_return_feed, List.headD_cons, List.tail_cons, List.append_nil,
        words_append_cons first _ (by decide), words_cons_of_isBlank (by decide)]
      exact congrArg (words first ++ ·) (words_eq_flatMap_of_head (ih []))
  | case3 c rest hpair hc ih =>
      have hlines : lines (c :: rest) = [] :: lines rest := by
        rw [lines, if_pos hc]
        exact hpair
      rw [hlines, List.headD_cons, List.tail_cons, List.append_nil,
        words_append_cons first _ (isBlank_of_isLineEnd hc)]
      exact congrArg (words first ++ ·) (words_eq_flatMap_of_head (ih []))
  | case4 c rest _ hc _ ih =>
      exact words_append_within_line (by simpa using hc) ih
  | case5 c rest _ hc _ _ _ ih =>
      exact words_append_within_line (by simpa using hc) ih

theorem words_eq_flatMap_lines (text : List Char) : words text = (lines text).flatMap words :=
  words_eq_flatMap_of_head (words_append_eq [] text)

theorem not_all_isBlank_iff {line : List Char} :
    (!line.all isBlank) = true ↔ ∃ c ∈ line, isBlank c = false := by
  simp

theorem flatMap_words_filter (parts : List (List Char)) :
    (parts.filter fun line => !line.all isBlank).flatMap words = parts.flatMap words := by
  induction parts with
  | nil => rfl
  | cons line parts ih =>
      rw [List.filter_cons, List.flatMap_cons]
      split
      · rw [List.flatMap_cons, ih]
      · rename_i hall
        have hline : words line = [] := words_eq_nil_iff.2 (by simpa using hall)
        rw [ih, hline, List.nil_append]

end Text

namespace Declaration

/-- The lines say just what the text says, each of them as a start of one of its lines. -/
structure Describes (text : List Char) (described : List (List Char)) : Prop where
  words_eq : described.flatMap words = words text
  isStart : ∀ line ∈ described, ∃ whole ∈ lines text, line <+: whole
  onOneLine : ∀ line ∈ described, OnOneLine line
  ends : ∀ line ∈ described, ∃ c ∈ line.getLast?, isBlank c = false
  ne_nil_iff : described ≠ [] ↔ ∃ c ∈ text, isBlank c = false

/-- The line on a parameter names its type, and behind it has the words of its description if that is
not empty. -/
inductive TellsParameter (parameter : Parameter) : List Char → Prop
  | bare (h : ∀ text ∈ parameter.description, text = "") :
      TellsParameter parameter ("Parameter type: ".toList ++ parameter.displayType.toList)
  | described {text : String} (h : parameter.description = some text) (hne : text ≠ "") :
      TellsParameter parameter ("Parameter type: ".toList ++ parameter.displayType.toList ++
        ("; ".toList ++ List.intercalate [' '] (words text.toList)))

/-- The lines tell an option's description, unless it only marks deprecation, and in one line more
its parameter, if it has one. -/
structure Documents (option : ClientOption) (described parameterLines : List (List Char)) :
    Prop where
  describes : ∀ text ∈ option.description, lower text.toList ≠ "deprecated".toList →
    Describes text.toList described
  silent : (∀ text ∈ option.description, lower text.toList = "deprecated".toList) → described = []
  tells : List.Forall₂ TellsParameter option.parameter.toList parameterLines

theorem descriptionLines_eq {text : String} (h : lower text.toList ≠ "deprecated".toList) :
    descriptionLines (some text) =
      ((lines text.toList).filter fun line => !line.all isBlank).map trimRight := by
  have hmarks : marksDeprecation text = false := decide_eq_false h
  rw [descriptionLines, hmarks, if_neg Bool.false_ne_true]

theorem descriptionLines_eq_nil {description : Option String}
    (h : ∀ text ∈ description, lower text.toList = "deprecated".toList) :
    descriptionLines description = [] := by
  cases description with
  | none => rfl
  | some text =>
      have hmarks : marksDeprecation text = true := decide_eq_true (h text rfl)
      rw [descriptionLines, hmarks, if_pos rfl]

theorem flatMap_words_descriptionLines {text : String}
    (h : lower text.toList ≠ "deprecated".toList) :
    (descriptionLines (some text)).flatMap words = words text.toList :=
  calc (descriptionLines (some text)).flatMap words
      = ((lines text.toList).filter fun line => !line.all isBlank).flatMap
          fun line => words (trimRight line) := by
        rw [descriptionLines_eq h, List.flatMap_map]
    _ = ((lines text.toList).filter fun line => !line.all isBlank).flatMap words := by
        simp only [words_trimRight]
    _ = words text.toList := by
        rw [flatMap_words_filter, ← words_eq_flatMap_lines]

theorem exists_line_of_mem_descriptionLines {text : String}
    (h : lower text.toList ≠ "deprecated".toList) {line : List Char}
    (hline : line ∈ descriptionLines (some text)) :
    ∃ whole ∈ lines text.toList, (∃ c ∈ whole, isBlank c = false) ∧ trimRight whole = line := by
  rw [descriptionLines_eq h] at hline
  obtain ⟨whole, hmem, heq⟩ := List.mem_map.1 hline
  obtain ⟨hwhole, hnot⟩ := List.mem_filter.1 hmem
  exact ⟨whole, hwhole, not_all_isBlank_iff.1 hnot, heq⟩

theorem describes_descriptionLines {text : String} (h : lower text.toList ≠ "deprecated".toList) :
    Describes text.toList (descriptionLines (some text)) := by
  have hends : ∀ line ∈ descriptionLines (some text), ∃ c ∈ line.getLast?, isBlank c = false := by
    intro line hline
    obtain ⟨whole, -, hnot, rfl⟩ := exists_line_of_mem_descriptionLines h hline
    exact exists_getLast?_trimRight hnot
  refine ⟨flatMap_words_descriptionLines h, ?_, fun line => onOneLine_of_mem_descriptionLines,
    hends, ?_⟩
  · intro line hline
    obtain ⟨whole, hwhole, -, rfl⟩ := exists_line_of_mem_descriptionLines h hline
    exact ⟨whole, hwhole, trimRight_prefix_self whole⟩
  · rw [← words_ne_nil_iff, ← flatMap_words_descriptionLines h]
    constructor
    · intro hne hnil
      obtain ⟨line, hline⟩ := List.exists_mem_of_ne_nil _ hne
      obtain ⟨c, hc, hblank⟩ := hends line hline
      exact words_ne_nil_iff.2 ⟨c, List.mem_of_getLast? hc, hblank⟩
        (List.flatMap_eq_nil_iff.1 hnil line hline)
    · intro hne hnil
      rw [hnil] at hne
      exact hne rfl

theorem tellsParameter_parameterLine (parameter : Parameter) :
    TellsParameter parameter (parameterLine parameter) := by
  rw [parameterLine_eq, detail]
  split
  · rename_i text hdescription
    split
    · rename_i hempty
      rw [List.append_nil]
      exact .bare fun other hother => by
        rw [hdescription] at hother
        exact (Option.some.inj hother).symm.trans hempty
    · exact .described hdescription ‹_›
  · rename_i hnone
    rw [List.append_nil]
    exact .bare fun text htext => by
      rw [hnone] at htext
      cases htext

/-- Documentation loses and moves nothing: it has the words of an option's description in its first
lines, and those of its parameter's in the last. -/
theorem documents_docLines (scope : Scope) (option : ClientOption) :
    ∃ described parameterLines, (ofOption scope option).docLines = described ++ parameterLines ∧
      Documents option described parameterLines := by
  refine ⟨descriptionLines option.description, option.parameter.toList.map parameterLine, rfl,
    ?_, descriptionLines_eq_nil, ?_⟩
  · intro text htext h
    rw [Option.mem_def.1 htext]
    exact describes_descriptionLines h
  · rw [List.forall₂_map_right_iff, List.forall₂_same]
    exact fun parameter _ => tellsParameter_parameterLine parameter

end Declaration

end OptionBindings
