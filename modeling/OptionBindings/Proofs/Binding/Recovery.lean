import Mathlib.Data.List.Nodup
import OptionBindings.Proofs.Binding.PlainNames

/-!
# Reading declarations off a file

The lines of a file tell its declarations: a line of documentation and the mark of deprecation belong
to the next constant. Texts that stay on the lines they are meant for cannot be taken for anything
else, whatever they look like, so a file has the declarations that it was made from and no others.
-/

namespace OptionBindings

open Text

namespace Check

def constants (text : List Char) : List (List Char × List Char) :=
  (Text.lines text).filterMap fun line => constant? (code line)

end Check

namespace Declaration

/-- The declarations that lines tell, if the documentation and the mark of the first are known so
far. -/
def ofLines (docLines : List (List Char)) (deprecated : Bool) : List (List Char) → List Declaration
  | [] => []
  | line :: rest =>
    match Check.constant? (Check.code line) with
    | some (identifier, value) => ⟨identifier, value, docLines, deprecated⟩ :: ofLines [] false rest
    | none =>
      match Check.after? "    /// ".toList line with
      | some text => ofLines (docLines ++ [text]) deprecated rest
      | none => ofLines docLines (deprecated || line = "    @available(*, deprecated)".toList) rest

def ofText (text : List Char) : List Declaration :=
  ofLines [] false (lines text)

/-- What the check sees of the declarations. -/
theorem map_ofLines (docLines : List (List Char)) (deprecated : Bool) (texts : List (List Char)) :
    (ofLines docLines deprecated texts).map (fun declaration =>
        (declaration.identifier, declaration.value)) =
      texts.filterMap fun line => Check.constant? (Check.code line) := by
  induction texts generalizing docLines deprecated with
  | nil => rfl
  | cons line rest ih =>
      unfold ofLines
      cases hconstant : Check.constant? (Check.code line) with
      | some constant =>
          rw [List.filterMap_cons_some (f := fun line => Check.constant? (Check.code line)) hconstant]
          simp only [List.map_cons, ih]
      | none =>
          rw [List.filterMap_cons_none (f := fun line => Check.constant? (Check.code line)) hconstant]
          cases Check.after? "    /// ".toList line with
          | some text => exact ih _ _
          | none => exact ih _ _

/-! ## One line -/

theorem ofLines_constant {line identifier value : List Char}
    (h : Check.constant? (Check.code line) = some (identifier, value)) (docLines : List (List Char))
    (deprecated : Bool) (rest : List (List Char)) :
    ofLines docLines deprecated (line :: rest) =
      ⟨identifier, value, docLines, deprecated⟩ :: ofLines [] false rest := by
  rw [ofLines, h]

theorem ofLines_doc (text : List Char) (docLines : List (List Char)) (deprecated : Bool)
    (rest : List (List Char)) :
    ofLines docLines deprecated (("    /// ".toList ++ text) :: rest) =
      ofLines (docLines ++ [text]) deprecated rest := by
  have hindent : '/' ∉ "    ".toList := by decide
  have hcode : Check.code ("    /// ".toList ++ text) = "    ".toList :=
    Check.code_append_slashes hindent ('/' :: ' ' :: text)
  have hconstant : Check.constant? (Check.code ("    /// ".toList ++ text)) = none := by
    rw [hcode]
    exact Check.constant?_of_isBlank (by decide)
  rw [ofLines, hconstant, Check.after?_append]

def IsSilent (line : List Char) : Prop :=
  Check.constant? (Check.code line) = none ∧ Check.after? "    /// ".toList line = none ∧
    line ≠ "    @available(*, deprecated)".toList

instance (line : List Char) : Decidable (IsSilent line) :=
  inferInstanceAs (Decidable (_ ∧ _ ∧ _))

theorem isSilent_comment (text : List Char) : IsSilent ('/' :: '/' :: text) :=
  ⟨rfl, rfl, by simp⟩

theorem ofLines_append_of_isSilent {silent : List (List Char)} (h : ∀ line ∈ silent, IsSilent line)
    (docLines : List (List Char)) (deprecated : Bool) (rest : List (List Char)) :
    ofLines docLines deprecated (silent ++ rest) = ofLines docLines deprecated rest := by
  induction silent with
  | nil => rfl
  | cons line silent ih =>
      obtain ⟨hconstant, hdoc, hmark⟩ := h line (by simp)
      have hunmarked : (deprecated || line = "    @available(*, deprecated)".toList) = deprecated := by
        rw [decide_eq_false hmark, Bool.or_false]
      rw [List.cons_append, ofLines, hconstant, hdoc]
      simp only [hunmarked]
      exact ih fun other hother => h other (by simp [hother])

/-! ## Blocks -/

theorem ofLines_docs (texts docLines : List (List Char)) (deprecated : Bool)
    (rest : List (List Char)) :
    ofLines docLines deprecated (texts.map ("    /// ".toList ++ ·) ++ rest) =
      ofLines (docLines ++ texts) deprecated rest := by
  induction texts generalizing docLines with
  | nil => rw [List.map_nil, List.nil_append, List.append_nil]
  | cons text texts ih =>
      rw [List.map_cons, List.cons_append, ofLines_doc, ih, List.append_assoc,
        List.singleton_append]

theorem ofLines_leadLines (declaration : Declaration) (rest : List (List Char)) :
    ofLines [] false (Layout.leadLines declaration ++ rest) =
      ofLines declaration.docLines declaration.deprecated rest := by
  have hsilent : ∀ line ∈ [([] : List Char)], IsSilent line := by decide
  have hempty : ∀ later, ofLines [] false ([] :: later) = ofLines [] false later :=
    ofLines_append_of_isSilent hsilent [] false
  have hmark : ∀ docLines, ofLines docLines false ("    @available(*, deprecated)".toList :: rest) =
      ofLines docLines true rest := by
    intro docLines
    have hconstant : Check.constant? (Check.code "    @available(*, deprecated)".toList) = none := by
      decide +kernel
    have hdoc : Check.after? "    /// ".toList "    @available(*, deprecated)".toList = none := by
      decide +kernel
    rw [ofLines, hconstant, hdoc]
    simp
  unfold Layout.leadLines
  rw [List.append_assoc, List.cons_append, hempty, ofLines_docs, List.nil_append]
  cases declaration.deprecated with
  | false => rfl
  | true => exact hmark declaration.docLines

/-- Each part of the declaration stays on its lines, and its constant can be read. -/
structure IsReadable (declaration : Declaration) : Prop where
  docLines : ∀ text ∈ declaration.docLines, OnOneLine text
  constant : OnOneLine (Layout.constant declaration)
  reads : Check.constant? (Check.code (Layout.constant declaration)) =
    some (declaration.identifier, declaration.value)

theorem ofLines_block {declaration : Declaration} (h : declaration.IsReadable)
    (rest : List (List Char)) :
    ofLines [] false (lines (Layout.block declaration) ++ rest) =
      declaration :: ofLines [] false rest := by
  rw [Layout.lines_block h.constant, Layout.lines_lead h.docLines, List.append_assoc,
    ofLines_leadLines, List.singleton_append, ofLines_constant h.reads]

theorem ofLines_blocks {declarations : List Declaration}
    (h : ∀ declaration ∈ declarations, declaration.IsReadable) (rest : List (List Char)) :
    ofLines [] false (lines (declarations.flatMap Layout.block) ++ rest) =
      declarations ++ ofLines [] false rest := by
  induction declarations with
  | nil => rfl
  | cons declaration declarations ih =>
      rw [List.flatMap_cons, lines_append (Layout.endsLine_block declaration), List.append_assoc,
        ofLines_block (h declaration (by simp)), ih fun other hother => h other (by simp [hother])]
      rfl

/-! ## Files -/

theorem isSilent_header (imprint : Imprint) (scope : Scope) :
    ∀ line ∈ (Layout.headerTexts imprint scope).map String.toList, IsSilent line := by
  have hextension : IsSilent ("extension " ++ scope.typeName ++ " \x7b").toList := by
    cases scope <;> decide +kernel
  simp only [Layout.headerTexts, List.map_cons, List.map_nil, String.toList_append,
    List.forall_mem_cons]
  rw [String.toList_append, String.toList_append] at hextension
  exact ⟨isSilent_comment _, isSilent_comment _, isSilent_comment _, isSilent_comment _,
    isSilent_comment _, isSilent_comment _, isSilent_comment _, isSilent_comment _,
    isSilent_comment _, isSilent_comment _, by decide +kernel, by decide +kernel,
    by decide +kernel, by decide +kernel, hextension, by simp⟩

theorem isSilent_footer : ∀ line ∈ Layout.footerTexts.map String.toList, IsSilent line := by
  decide +kernel

theorem ofText_file {imprint : Imprint} (himprint : imprint.IsOneLined) (scope : Scope)
    {declarations : List Declaration} (h : ∀ declaration ∈ declarations, declaration.IsReadable) :
    ofText (Layout.file imprint scope declarations) = declarations := by
  have hblocks : EndsLine (declarations.flatMap Layout.block) :=
    endsLine_flatMap fun declaration _ => Layout.endsLine_block declaration
  have hfooter : ofLines [] false (lines Layout.footer) = [] := by
    have hsilent := ofLines_append_of_isSilent isSilent_footer [] false []
    rw [List.append_nil] at hsilent
    rw [Layout.lines_footer]
    exact hsilent
  unfold ofText Layout.file
  rw [lines_append ((Layout.endsLine_header imprint scope).append hblocks),
    lines_append (Layout.endsLine_header imprint scope), List.append_assoc,
    Layout.lines_header himprint, ofLines_append_of_isSilent (isSilent_header imprint scope),
    ofLines_blocks h, hfooter, List.append_nil]

theorem isReadable_ofOption (scope : Scope) {option : ClientOption} (h : option.IsOrdinary) :
    (ofOption scope option).IsReadable where
  docLines _ htext := onOneLine_of_mem_docLines h.type htext
  constant := onOneLine_constant_ofOption scope h.name.isLegible
  reads := constant?_constant_ofOption scope h.name.isLegible

end Declaration

namespace Render

open Declaration

theorem ofText_text {imprint : Imprint} (himprint : imprint.IsOneLined) (scope : Scope)
    {table : OptionTable} (h : ∀ option ∈ table.sorted, option.IsOrdinary) :
    ofText (text imprint scope table) = ofTable scope table := by
  apply ofText_file himprint
  intro declaration hdeclaration
  obtain ⟨option, hoption, rfl⟩ := List.mem_map.1 hdeclaration
  exact isReadable_ofOption scope (h option hoption)

/-- The constants of a file are those of its declarations, in order, and two files of one header are
the same if and only if their declarations are. -/
theorem source_determines_ofTable {imprint : Imprint} (himprint : imprint.IsOneLined)
    (scope : Scope) :
    (∀ table : OptionTable, (∀ option ∈ table.sorted, option.IsOrdinary) →
        ∃ rendered, source imprint false scope table = .ok rendered ∧
          Check.constants rendered.toList =
            (ofTable scope table).map fun declaration =>
              (declaration.identifier, declaration.value)) ∧
      (∀ first second : OptionTable, (∀ option ∈ first.sorted, option.IsOrdinary) →
        (∀ option ∈ second.sorted, option.IsOrdinary) →
        (source imprint false scope first = source imprint false scope second ↔
          ofTable scope first = ofTable scope second)) := by
  constructor
  · intro table htable
    refine ⟨_, source_unchecked imprint scope table, ?_⟩
    rw [String.toList_ofList, ← ofText_text himprint scope htable]
    exact (map_ofLines [] false (lines (text imprint scope table))).symm
  · intro first second hfirst hsecond
    rw [source_unchecked, source_unchecked, Except.ok.injEq, String.ofList_inj]
    constructor
    · intro htext
      rw [← ofText_text himprint scope hfirst, htext, ofText_text himprint scope hsecond]
    · intro hdeclarations
      unfold text
      rw [hdeclarations]

/-- An option whose description looks like a constant with its documentation and its mark. -/
def disguisedTable (description : String) : OptionTable where
  entries := [("A", { name := "A", code := "1", description := some description })]
  nodup := List.nodup_singleton "A"

theorem isOrdinary_of_mem_disguisedTable (description : String) :
    ∀ option ∈ (disguisedTable description).sorted, option.IsOrdinary := by
  have hname : Identifier.IsPlainName "A".toList := ⟨by decide, by decide⟩
  simp only [OptionTable.sorted, disguisedTable, List.mergeSort_singleton, List.map_cons,
    List.map_nil, List.forall_mem_singleton]
  exact ⟨hname, by simp⟩

theorem source_determines_disguisedTable :
    (∃ rendered, source { year := 2024, uid := "0" } false .network
        (disguisedTable "public static let b = C\n@available(*, deprecated)\n/// c") = .ok rendered ∧
      Check.constants rendered.toList =
        [("a".toList, "NetworkOption(rawValue: FDB_NET_OPTION_A)".toList)]) ∧
      source { year := 2024, uid := "0" } false .network
          (disguisedTable "public static let b = C\n@available(*, deprecated)\n/// c") ≠
        source { year := 2024, uid := "0" } false .network (disguisedTable "deprecated") := by
  have himprint : ({ year := 2024, uid := "0" } : Imprint).IsOneLined := by decide +kernel
  obtain ⟨hconstants, hsame⟩ := source_determines_ofTable himprint .network
  constructor
  · obtain ⟨rendered, hrendered, hread⟩ := hconstants _ (isOrdinary_of_mem_disguisedTable _)
    refine ⟨rendered, hrendered, hread.trans ?_⟩
    decide +kernel
  · intro h
    have hdeclarations := (hsame _ _ (isOrdinary_of_mem_disguisedTable _)
      (isOrdinary_of_mem_disguisedTable _)).1 h
    exact absurd hdeclarations (by decide +kernel)

end Render

end OptionBindings
