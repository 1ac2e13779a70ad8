import OptionBindings.Proofs.Binding.Blocks
import OptionBindings.Proofs.Binding.DocLines
import OptionBindings.Proofs.Catalog.Order

/-!
# The code of a file

The code of a file is what its lines hold besides comments. Descriptions stay in comments whatever
they are. The type of a parameter stays there up to its first line end, and what it has on further
lines is code. So two files for the same names have the same code if no type spills.
-/

namespace OptionBindings

open Text

namespace Check

/-- The lines without their comments, less the blank ones. -/
def codeLines (texts : List (List Char)) : List (List Char) :=
  (texts.map code).filter fun text => !text.all isBlank

def codeOf (text : List Char) : List (List Char) :=
  codeLines (Text.lines text)

theorem codeLines_append (first second : List (List Char)) :
    codeLines (first ++ second) = codeLines first ++ codeLines second := by
  rw [codeLines, List.map_append, List.filter_append]
  rfl

theorem codeLines_cons_of_isBlank_code {text : List Char} (h : ∀ c ∈ code text, isBlank c = true)
    (rest : List (List Char)) : codeLines (text :: rest) = codeLines rest := by
  have hall : (code text).all isBlank = true := List.all_eq_true.2 h
  rw [codeLines, List.map_cons, List.filter_cons_of_neg (by simp [hall])]
  rfl

theorem codeOf_append {first : List Char} (h : EndsLine first) (second : List Char) :
    codeOf (first ++ second) = codeOf first ++ codeOf second := by
  rw [codeOf, Text.lines_append h, codeLines_append]
  rfl

theorem codeOf_flatMap {α : Type} {f : α → List Char} {parts : List α}
    (h : ∀ part ∈ parts, EndsLine (f part)) :
    codeOf (parts.flatMap f) = parts.flatMap fun part => codeOf (f part) := by
  induction parts with
  | nil => rfl
  | cons part parts ih =>
      rw [List.flatMap_cons, List.flatMap_cons, codeOf_append (h part (by simp)),
        ih fun other hother => h other (by simp [hother])]

theorem codeLines_tail_append_feed (text : List Char) :
    codeLines (Text.lines (text ++ ['\n'])).tail = codeLines (Text.lines text).tail := by
  rcases lines_append_feed_cases text with h | h
  · rw [h]
  · rw [h]
    cases Text.lines text with
    | nil => rfl
    | cons line more =>
        rw [List.cons_append, List.tail_cons, List.tail_cons, codeLines_append]
        exact List.append_nil _

end Check

namespace Layout

open Check

/-! ## Blocks -/

def binding (declaration : Declaration) : List Char :=
  (if declaration.deprecated then line "    @available(*, deprecated)".toList else []) ++
    line (constant declaration)

theorem block_eq_binding (declaration : Declaration) :
    block declaration = line [] ++
      (declaration.docLines.flatMap fun text => line ("    /// ".toList ++ text)) ++
        binding declaration := by
  rw [binding, ← List.append_assoc]
  rfl

/-- Of a text in the documentation the first line is in a comment, and the others are not. -/
theorem codeOf_docLine (text : List Char) :
    codeOf (line ("    /// ".toList ++ text)) = codeLines (lines text).tail := by
  have hslashes : "    /// ".toList = "    ".toList ++ ['/', '/', '/', ' '] := by decide +kernel
  have hcomment : ∀ rest, ∀ c ∈ code ("    /// ".toList ++ rest), isBlank c = true := by
    intro rest
    have hcode : code ("    /// ".toList ++ rest) = "    ".toList := by
      rw [hslashes, List.append_assoc]
      exact code_append_slashes (by decide +kernel) ('/' :: ' ' :: rest)
    rw [hcode]
    decide +kernel
  rw [codeOf, line, List.append_assoc,
    lines_append_of_onOneLine (by decide +kernel) (by decide +kernel),
    codeLines_cons_of_isBlank_code (hcomment _), codeLines_tail_append_feed]

theorem codeOf_block (declaration : Declaration) :
    codeOf (block declaration) =
      (declaration.docLines.flatMap fun text => codeLines (lines text).tail) ++
        codeOf (binding declaration) := by
  have hempty : codeOf (line []) = [] := rfl
  have hdoc : EndsLine
      (declaration.docLines.flatMap fun text => line ("    /// ".toList ++ text)) :=
    endsLine_flatMap fun text _ => endsLine_line _
  rw [block_eq_binding, codeOf_append ((endsLine_line []).append hdoc), codeOf_append (endsLine_line []),
    codeOf_flatMap fun text _ => endsLine_line _, hempty, List.nil_append]
  simp only [codeOf_docLine]

end Layout

namespace Declaration

open Check

theorem lines_tail_of_onOneLine {text : List Char} (h : OnOneLine text) : (lines text).tail = [] := by
  by_cases hne : text = []
  · rw [hne]
    rfl
  · have hlines := lines_append_of_onOneLine h hne []
    rw [List.append_nil] at hlines
    rw [hlines]
    rfl

/-- The code that an option's documentation brings in: what the line on its parameter has behind a
line end. -/
def spilled (option : ClientOption) : List (List Char) :=
  option.parameter.toList.flatMap fun parameter => codeLines (lines (parameterLine parameter)).tail

def declared (scope : Scope) (option : ClientOption) : List (List Char) :=
  codeOf (Layout.binding (ofOption scope option))

theorem spilled_eq_nil_of_onOneLine {option : ClientOption}
    (h : ∀ parameter ∈ option.parameter, OnOneLine parameter.type.toList) : spilled option = [] := by
  rw [spilled, List.flatMap_eq_nil_iff]
  intro parameter hparameter
  rw [lines_tail_of_onOneLine (onOneLine_parameterLine (h parameter (Option.mem_toList.1 hparameter)))]
  rfl

theorem codeOf_block_ofOption (scope : Scope) (option : ClientOption) :
    codeOf (Layout.block (ofOption scope option)) = spilled option ++ declared scope option := by
  have hdescription : ((descriptionLines option.description).flatMap fun text =>
      codeLines (lines text).tail) = [] := by
    rw [List.flatMap_eq_nil_iff]
    intro text htext
    rw [lines_tail_of_onOneLine (onOneLine_of_mem_descriptionLines htext)]
    rfl
  have hdocLines : (ofOption scope option).docLines =
      descriptionLines option.description ++ option.parameter.toList.map parameterLine :=
    rfl
  rw [Layout.codeOf_block, hdocLines, List.flatMap_append, hdescription, List.nil_append,
    List.flatMap_map, spilled, declared]

/-- What two options share if they differ in their documentation alone. -/
def outline (option : ClientOption) : String × Bool :=
  (option.name, option.isDeprecated)

theorem declared_eq_of_outline_eq {first second : ClientOption} (scope : Scope)
    (h : outline first = outline second) : declared scope first = declared scope second := by
  obtain ⟨hname, hdeprecated⟩ := Prod.mk.inj h
  have hconstant : Layout.constant (ofOption scope first) = Layout.constant (ofOption scope second) := by
    rw [Layout.constant_eq, Layout.constant_eq, ofOption, ofOption, hname]
  have hmark : (ofOption scope first).deprecated = (ofOption scope second).deprecated := hdeprecated
  rw [declared, declared, Layout.binding, Layout.binding, hconstant, hmark]

/-! ## Files -/

theorem flatMap_append_eq_iff {α β : Type} {f g : α → List β} {items : List α} :
    items.flatMap (fun item => f item ++ g item) = items.flatMap g ↔ ∀ item ∈ items, f item = [] := by
  constructor
  · intro h
    have hlength : (items.flatMap fun item => f item ++ g item).length =
        (items.flatMap f).length + (items.flatMap g).length := by
      clear h
      induction items with
      | nil => rfl
      | cons item items ih =>
          rw [List.flatMap_cons, List.flatMap_cons, List.flatMap_cons, List.length_append, ih]
          simp only [List.length_append]
          omega
    rw [h] at hlength
    have hnil : items.flatMap f = [] := List.length_eq_zero_iff.1 (by omega)
    exact List.flatMap_eq_nil_iff.1 hnil
  · intro h
    induction items with
    | nil => rfl
    | cons item items ih =>
        rw [List.flatMap_cons, List.flatMap_cons, h item (by simp), List.nil_append,
          ih fun other hother => h other (by simp [hother])]

theorem flatMap_declared_eq {first second : List ClientOption} (scope : Scope)
    (h : first.map outline = second.map outline) :
    first.flatMap (declared scope) = second.flatMap (declared scope) := by
  induction first generalizing second with
  | nil =>
      rw [List.map_eq_nil_iff.1 h.symm]
  | cons option first ih =>
      obtain ⟨other, rest, rfl, hoption, hrest⟩ := List.map_eq_cons_iff.1 h.symm
      rw [List.flatMap_cons, List.flatMap_cons, ih hrest.symm,
        declared_eq_of_outline_eq scope hoption]

end Declaration

namespace Render

open Check Declaration

/-- The code of a file: that of each option, between those of the header and the footer. -/
theorem codeOf_text (imprint : Imprint) (scope : Scope) (table : OptionTable) :
    codeOf (text imprint scope table) =
      codeOf (Layout.header imprint scope) ++
        (table.sorted.flatMap fun option => spilled option ++ declared scope option) ++
          codeOf Layout.footer := by
  have hblocks : EndsLine ((ofTable scope table).flatMap Layout.block) :=
    endsLine_flatMap fun declaration _ => Layout.endsLine_block declaration
  have hcode : codeOf ((ofTable scope table).flatMap Layout.block) =
      table.sorted.flatMap fun option => spilled option ++ declared scope option := by
    rw [codeOf_flatMap fun declaration _ => Layout.endsLine_block declaration, ofTable,
      List.flatMap_map]
    simp only [codeOf_block_ofOption]
  rw [text, Layout.file, codeOf_append ((Layout.endsLine_header imprint scope).append hblocks),
    codeOf_append (Layout.endsLine_header imprint scope), hcode]

theorem codeOf_text_eq_iff_flatMap {imprint : Imprint} {scope : Scope} {first second : OptionTable} :
    codeOf (text imprint scope first) = codeOf (text imprint scope second) ↔
      (first.sorted.flatMap fun option => spilled option ++ declared scope option) =
        second.sorted.flatMap fun option => spilled option ++ declared scope option := by
  rw [codeOf_text, codeOf_text, List.append_left_inj, List.append_right_inj]

/-- Two files for options of the same keys, names and marks of deprecation have the same code if and
only if the same spills between their constants; against a file where nothing spills, if and only if
nothing spills. Nothing spills from types without line ends. -/
theorem codeOf_text_eq_iff (imprint : Imprint) (scope : Scope) {first second : OptionTable}
    (h : ∀ key, (first.get? key).map outline = (second.get? key).map outline) :
    (codeOf (text imprint scope first) = codeOf (text imprint scope second) ↔
        (first.sorted.flatMap fun option => spilled option ++ declared scope option) =
          second.sorted.flatMap fun option => spilled option ++ declared scope option) ∧
      ((∀ option ∈ second.sorted, spilled option = []) →
        (codeOf (text imprint scope first) = codeOf (text imprint scope second) ↔
          ∀ option ∈ first.sorted, spilled option = [])) ∧
      ((∀ option ∈ first.sorted ++ second.sorted, ∀ parameter ∈ option.parameter,
          OnOneLine parameter.type.toList) →
        codeOf (text imprint scope first) = codeOf (text imprint scope second)) := by
  have hdeclared := flatMap_declared_eq scope (OptionTable.map_sorted_eq_of_get? h)
  have hagainst : (∀ option ∈ second.sorted, spilled option = []) →
      (codeOf (text imprint scope first) = codeOf (text imprint scope second) ↔
        ∀ option ∈ first.sorted, spilled option = []) := by
    intro hsecond
    rw [codeOf_text_eq_iff_flatMap, flatMap_append_eq_iff.2 hsecond, ← hdeclared,
      flatMap_append_eq_iff]
  refine ⟨codeOf_text_eq_iff_flatMap, hagainst, ?_⟩
  intro htypes
  have hspilled : ∀ option ∈ first.sorted ++ second.sorted, spilled option = [] :=
    fun option hoption => spilled_eq_nil_of_onOneLine (htypes option hoption)
  refine (hagainst ?_).2 ?_
  · exact fun option hoption => hspilled option (List.mem_append_right _ hoption)
  · exact fun option hoption => hspilled option (List.mem_append_left _ hoption)

def tableOf (description : Option String) (parameter : Option Parameter) : OptionTable where
  entries := [("A", { name := "A", code := "1", description, parameter })]
  nodup := List.nodup_singleton "A"

theorem sorted_tableOf (description : Option String) (parameter : Option Parameter) :
    (tableOf description parameter).sorted =
      [{ name := "A", code := "1", description, parameter }] := by
  simp [OptionTable.sorted, tableOf]

theorem outline_tableOf {description : Option String} (h : description.any marksDeprecation = false)
    (parameter : Option Parameter) (key : String) :
    ((tableOf description parameter).get? key).map outline =
      if key = "A" then some ("A", false) else none := by
  have hlookup : (tableOf description parameter).get? key =
      if key = "A" then some { name := "A", code := "1", description, parameter } else none := by
    simp only [OptionTable.get?, tableOf, List.lookup_cons, List.lookup_nil]
    split <;> simp_all
  rw [hlookup]
  split
  · rw [Option.map_some, outline, ClientOption.isDeprecated, h]
  · rfl

theorem codeOf_text_tableOf_described :
    codeOf (text { year := 0, uid := "" } .network
        (tableOf (some "\x7d // (\n)") (some ⟨"Int", some "a\nb"⟩))) =
      codeOf (text { year := 0, uid := "" } .network (tableOf none none)) := by
  refine (codeOf_text_eq_iff { year := 0, uid := "" } .network ?_).2.2 ?_
  · intro key
    rw [outline_tableOf (by decide +kernel), outline_tableOf rfl]
  · rw [sorted_tableOf, sorted_tableOf]
    decide +kernel

/-- The type of a parameter can bring code into a file. -/
theorem codeOf_text_tableOf_spilled :
    (∀ key, ((tableOf none (some ⟨"Int\nlet x = 1", none⟩)).get? key).map outline =
        ((tableOf none none).get? key).map outline) ∧
      codeOf (text { year := 0, uid := "" } .network (tableOf none (some ⟨"Int\nlet x = 1", none⟩))) ≠
        codeOf (text { year := 0, uid := "" } .network (tableOf none none)) := by
  constructor
  · intro key
    rw [outline_tableOf rfl, outline_tableOf rfl]
  · rw [Ne, codeOf_text_eq_iff_flatMap, sorted_tableOf, sorted_tableOf]
    decide +kernel

end Render

end OptionBindings
