import OptionBindings.Binding.Render
import OptionBindings.Proofs.Binding.CheckedLine
import OptionBindings.Proofs.Text.Lines

/-!
# The lines of a rendered file

Header, blocks and footer each stop at a line feed, so a file has the lines of its parts in turn. A
block is what leads up to its constant, and one more line for the constant itself.
-/

namespace OptionBindings.Layout

open Text

/-- The part of a block before its constant: an empty line, the documentation, the attribute. -/
def lead (declaration : Declaration) : List Char :=
  line [] ++
    (declaration.docLines.flatMap fun text => line ("    /// ".toList ++ text)) ++
    (if declaration.deprecated then line "    @available(*, deprecated)".toList else [])

def constant (declaration : Declaration) : List Char :=
  "    public static let ".toList ++ declaration.identifier ++ " = ".toList ++ declaration.value

theorem constant_eq (declaration : Declaration) :
    constant declaration =
      "    public static let ".toList ++ declaration.identifier ++ " = ".toList ++ declaration.value :=
  rfl

theorem block_eq (declaration : Declaration) :
    block declaration = lead declaration ++ line (constant declaration) :=
  rfl

theorem endsLine_line (text : List Char) : EndsLine (line text) :=
  endsLine_feed text

theorem endsLine_fixed (texts : List String) : EndsLine (fixed texts) :=
  endsLine_flatMap fun text _ => endsLine_line text.toList

theorem endsLine_header (imprint : Imprint) (scope : Scope) : EndsLine (header imprint scope) :=
  endsLine_fixed _

theorem endsLine_lead (declaration : Declaration) : EndsLine (lead declaration) := by
  have hdoc : EndsLine (declaration.docLines.flatMap fun text => line ("    /// ".toList ++ text)) :=
    endsLine_flatMap fun text _ => endsLine_line _
  have hattribute :
      EndsLine (if declaration.deprecated then line "    @available(*, deprecated)".toList else []) := by
    split
    · exact endsLine_line _
    · exact .inl rfl
  exact ((endsLine_line []).append hdoc).append hattribute

theorem endsLine_block (declaration : Declaration) : EndsLine (block declaration) :=
  (endsLine_lead declaration).append (endsLine_line (constant declaration))

def opening (imprint : Imprint) (scope : Scope) (earlier : List Declaration) : List Char :=
  header imprint scope ++ earlier.flatMap block

theorem endsLine_opening (imprint : Imprint) (scope : Scope) (earlier : List Declaration) :
    EndsLine (opening imprint scope earlier) :=
  (endsLine_header imprint scope).append (endsLine_flatMap fun declaration _ => endsLine_block declaration)

theorem endsLine_file (imprint : Imprint) (scope : Scope) (declarations : List Declaration) :
    EndsLine (file imprint scope declarations) :=
  (endsLine_opening imprint scope declarations).append (endsLine_fixed footerTexts)

theorem file_split (imprint : Imprint) (scope : Scope) (earlier later : List Declaration)
    (declaration : Declaration) :
    file imprint scope (earlier ++ declaration :: later) =
      opening imprint scope earlier ++ lead declaration ++ line (constant declaration) ++
        (later.flatMap block ++ footer) := by
  simp only [file, opening, List.flatMap_append, List.flatMap_cons, block_eq, List.append_assoc]

/-- A constant without a line end stands on a line of its own. -/
theorem lines_file_split (imprint : Imprint) (scope : Scope) (earlier later : List Declaration)
    {declaration : Declaration} (h : OnOneLine (constant declaration)) :
    lines (file imprint scope (earlier ++ declaration :: later)) =
      lines (opening imprint scope earlier ++ lead declaration) ++
        constant declaration :: lines (later.flatMap block ++ footer) := by
  have hlead : EndsLine (opening imprint scope earlier ++ lead declaration) :=
    (endsLine_opening imprint scope earlier).append (endsLine_lead declaration)
  have hconstant : lines (line (constant declaration) ++ (later.flatMap block ++ footer)) =
      constant declaration :: lines (later.flatMap block ++ footer) := by
    rw [line, List.append_assoc, List.singleton_append, lines_append_feed_of_onOneLine h]
  rw [file_split, List.append_assoc, lines_append hlead, hconstant]

end OptionBindings.Layout

namespace OptionBindings.Check

open Text

theorem line_of_lines_eq_ok {number : Nat} {pending rest : Pending} {before after : List (List Char)}
    {text : List Char} (h : lines number pending (before ++ text :: after) = .ok rest) :
    ∃ opened closed, line (number + before.length) opened text = .ok closed := by
  rw [lines_append] at h
  cases hbefore : lines number pending before with
  | error error =>
      rw [hbefore] at h
      cases h
  | ok opened =>
      rw [hbefore] at h
      replace h : lines (number + before.length) opened (text :: after) = .ok rest := h
      rw [lines] at h
      cases hline : line (number + before.length) opened text with
      | error error =>
          rw [hline] at h
          cases h
      | ok closed => exact ⟨opened, closed, hline⟩

theorem lines_of_source_eq_ok {text : List Char} (h : source text = .ok ()) :
    lines 1 [] (Text.lines text) = .ok [] := by
  rw [source] at h
  split at h
  · cases h
  · assumption
  · cases h

end OptionBindings.Check

namespace OptionBindings.Render

theorem source_unchecked (imprint : Imprint) (scope : Scope) (table : OptionTable) :
    source imprint false scope table = .ok (String.ofList (text imprint scope table)) :=
  rfl

theorem source_checked (imprint : Imprint) (scope : Scope) (table : OptionTable) :
    source imprint true scope table =
      (Check.source (text imprint scope table)).map
        fun _ => String.ofList (text imprint scope table) := by
  simp only [source, if_true]
  cases Check.source (text imprint scope table) <;> rfl

end OptionBindings.Render
