import OptionBindings.Proofs.Binding.Blocks
import OptionBindings.Proofs.Binding.CheckedFile
import OptionBindings.Proofs.Identifier.CamelCase

/-!
# Which declarations the check reads

The check finds the constants of a rendered file again by their lines. It reads the line of an option
whose name is legible, and a file that passes has such constants well-formed. It passes over all
others, and none of those is well-formed.
-/

namespace OptionBindings

open Text

/-- The constant has an identifier of the grammar, and a value made from one as its symbol. -/
structure Declaration.IsWellFormed (declaration : Declaration) : Prop where
  identifier : Identifier.IsValid declaration.identifier
  value : ∃ type symbol, Identifier.IsPlainWord type ∧ Identifier.IsValid symbol ∧
    declaration.value = type ++ "(rawValue: ".toList ++ symbol ++ [')']

/-- The name shows something besides underscores, has no white space in it, and no two slashes with
nothing but underscores between them. -/
structure Identifier.IsLegible (name : List Char) : Prop where
  shown_ne_nil : shown name ≠ []
  not_isBlank : ∀ c ∈ name, isBlank c = false
  no_slashes : ¬ ['/', '/'] <:+: shown name

namespace Identifier

theorem isBlank_of_isPart {c : Char} (h : isPart c = true) : isBlank c = false := by
  cases hblank : isBlank c with
  | false => rfl
  | true =>
      have hall : ∀ c ∈ blanks, isPart c = false := by decide
      have hnot := hall c (by simpa [isBlank] using hblank)
      rw [h] at hnot
      exact hnot

theorem mem_marks_of_isBlank {c : Char} (h : isBlank c = true) : c ∈ marks := by
  rw [isBlank, decide_eq_true_eq] at h
  exact List.mem_cons_of_mem '/' (List.mem_cons_of_mem '_' h)

/-- A text has no white space if another has none and has all marks of the first, except for
underscores. -/
theorem not_isBlank_of_marks {text other : List Char}
    (h : ∀ m ∈ marks, m ≠ '_' → m ∈ text → m ∈ other)
    (hother : ∀ c ∈ other, isBlank c = false) : ∀ c ∈ text, isBlank c = false := by
  intro c hc
  by_contra hblank
  have hmark : c ∈ marks := mem_marks_of_isBlank (by simpa using hblank)
  have hne : c ≠ '_' := by
    rintro rfl
    exact hblank (by decide)
  exact hblank (hother c (h c hmark hne hc))

theorem IsLegible.not_isBlank_ofName {name : List Char} (h : IsLegible name) :
    ∀ c ∈ ofName name, isBlank c = false := by
  apply not_isBlank_of_marks _ h.not_isBlank
  exact fun m hm hne hmem => (mem_ofName_iff_of_mem_marks hm hne).1 hmem

theorem IsLegible.ofName_ne_nil {name : List Char} (h : IsLegible name) : ofName name ≠ [] :=
  fun heq => h.shown_ne_nil (ofName_eq_nil_iff.1 heq)

theorem IsLegible.no_slashes_ofName {name : List Char} (h : IsLegible name) :
    ¬ ['/', '/'] <:+: ofName name :=
  fun hinfix => h.no_slashes (slashes_infix_shown hinfix)

theorem IsLegible.not_isBlank_upper {name : List Char} (h : IsLegible name) :
    ∀ c ∈ upper name, isBlank c = false := by
  apply not_isBlank_of_marks _ h.not_isBlank
  exact fun m hm _ hmem => ((upper_recased name).mem_iff hm).1 hmem

theorem IsLegible.no_slashes_upper {name : List Char} (h : IsLegible name) :
    ¬ ['/', '/'] <:+: upper name := by
  intro hinfix
  obtain ⟨before, after, hname⟩ := (upper_recased name).infix_slashes hinfix
  apply h.no_slashes
  refine ⟨shown before, shown after, ?_⟩
  rw [← hname]
  simp [shown]

theorem isLegible_of_isValid_ofName {name : List Char} (h : IsValid (ofName name)) :
    IsLegible name := by
  have hmarks : ∀ m ∈ marks, m ≠ '_' → m ∉ name := by
    intro m hm hne hmem
    have hpart := h.isPart_or_backtick m ((mem_ofName_iff_of_mem_marks hm hne).2 hmem)
    have hnot : ∀ c ∈ marks, c ≠ '_' → ¬ (isPart c = true ∨ c = '`') := by decide
    exact hnot m hm hne hpart
  refine ⟨fun heq => h.ne_nil (ofName_eq_nil_iff.2 heq), ?_, ?_⟩
  · have hnone : ∀ c ∈ ([] : List Char), isBlank c = false := nofun
    exact not_isBlank_of_marks (fun m hm hne hmem => absurd hmem (hmarks m hm hne)) hnone
  · intro hinfix
    have hslash : '/' ∈ shown name := hinfix.subset (by simp)
    exact hmarks '/' (by decide) (by decide) (mem_shown.1 hslash).1

end Identifier

namespace Declaration

open Identifier

/-! ## The line of a legible name -/

theorem valueOf_eq (scope : Scope) (name : List Char) :
    valueOf scope name = scope.typeName.toList ++ "(rawValue: ".toList ++ scope.symbol name ++ [')'] :=
  rfl

theorem isPlainWord_typeName (scope : Scope) : IsPlainWord scope.typeName.toList := by
  cases scope <;> decide

def symbolStart (scope : Scope) : List Char :=
  "FDB_".toList ++ scope.symbolPart.toList ++ ['_']

theorem symbol_eq (scope : Scope) (name : List Char) :
    scope.symbol name = symbolStart scope ++ upper name :=
  (List.append_assoc ("FDB_".toList ++ scope.symbolPart.toList) ['_'] (upper name)).symm

theorem isPlainWord_symbolStart (scope : Scope) : IsPlainWord (symbolStart scope) := by
  cases scope <;> decide

theorem isBlank_symbol {scope : Scope} {name : List Char} (h : IsLegible name) :
    ∀ c ∈ scope.symbol name, isBlank c = false := by
  intro c hc
  rw [symbol_eq] at hc
  rcases List.mem_append.1 hc with hc | hc
  · exact isBlank_of_isPart ((isPlainWord_symbolStart scope).isPart c hc)
  · exact h.not_isBlank_upper c hc

theorem onOneLine_valueOf {scope : Scope} {name : List Char} (h : IsLegible name) :
    OnOneLine (valueOf scope name) := by
  rw [valueOf_eq, onOneLine_append, onOneLine_append, onOneLine_append]
  have htype : OnOneLine scope.typeName.toList := by cases scope <;> decide
  exact ⟨⟨⟨htype, by decide⟩, onOneLine_of_not_isBlank (isBlank_symbol h)⟩, by decide⟩

theorem onOneLine_constant {declaration : Declaration} (hid : OnOneLine declaration.identifier)
    (hvalue : OnOneLine declaration.value) : OnOneLine (Layout.constant declaration) := by
  rw [Layout.constant_eq, onOneLine_append, onOneLine_append, onOneLine_append]
  exact ⟨⟨⟨by decide +kernel, hid⟩, by decide +kernel⟩, hvalue⟩

theorem code_constant {declaration : Declaration}
    (hid : ¬ ['/', '/'] <:+: declaration.identifier) (hvalue : ¬ ['/', '/'] <:+: declaration.value) :
    Check.code (Layout.constant declaration) = Layout.constant declaration := by
  have hpublic : '/' ∉ "    public static let ".toList := by decide +kernel
  have hequals : " = ".toList = ' ' :: ['=', ' '] := by decide +kernel
  apply Check.code_eq_self
  intro hinfix
  rw [Layout.constant_eq, hequals, List.append_assoc, List.append_assoc] at hinfix
  rcases Check.slashes_infix_append_cons (by decide) (infix_of_infix_append hpublic hinfix)
    with h | h
  · exact hid h
  · exact hvalue (infix_of_infix_append (by decide) h)

theorem constant?_constant {declaration : Declaration} (hne : declaration.identifier ≠ [])
    (hblank : ∀ c ∈ declaration.identifier, isBlank c = false) :
    Check.constant? (Layout.constant declaration) =
      some (declaration.identifier, declaration.value) := by
  rw [Layout.constant_eq]
  exact Check.constant?_declaration hne hblank declaration.value

theorem no_slashes_valueOf {scope : Scope} {name : List Char} (h : IsLegible name) :
    ¬ ['/', '/'] <:+: valueOf scope name := by
  have hslash : isPart '/' = false := rfl
  have hstart : '/' ∉ scope.typeName.toList ++ "(rawValue: ".toList ++ symbolStart scope := by
    simp only [List.mem_append, not_or]
    refine ⟨⟨?_, by decide +kernel⟩, ?_⟩
    · intro hmem
      rw [(isPlainWord_typeName scope).isPart '/' hmem] at hslash
      cases hslash
    · intro hmem
      rw [(isPlainWord_symbolStart scope).isPart '/' hmem] at hslash
      cases hslash
  intro hinfix
  rw [valueOf_eq, symbol_eq, ← List.append_assoc, List.append_assoc] at hinfix
  rcases Check.slashes_infix_append_cons (by decide) (infix_of_infix_append hstart hinfix)
    with h' | h'
  · exact h.no_slashes_upper h'
  · simp at h'

theorem ofOption_identifier (scope : Scope) (option : ClientOption) :
    (ofOption scope option).identifier = ofName option.name.toList := by
  rw [ofOption]

theorem ofOption_value (scope : Scope) (option : ClientOption) :
    (ofOption scope option).value = valueOf scope option.name.toList := by
  rw [ofOption]

theorem onOneLine_constant_ofOption (scope : Scope) {option : ClientOption}
    (h : IsLegible option.name.toList) : OnOneLine (Layout.constant (ofOption scope option)) := by
  apply onOneLine_constant
  · rw [ofOption_identifier]
    exact onOneLine_of_not_isBlank h.not_isBlank_ofName
  · rw [ofOption_value]
    exact onOneLine_valueOf h

theorem code_constant_ofOption (scope : Scope) {option : ClientOption}
    (h : IsLegible option.name.toList) :
    Check.code (Layout.constant (ofOption scope option)) =
      Layout.constant (ofOption scope option) := by
  apply code_constant
  · rw [ofOption_identifier]
    exact h.no_slashes_ofName
  · rw [ofOption_value]
    exact no_slashes_valueOf h

theorem constant?_constant_ofOption (scope : Scope) {option : ClientOption}
    (h : IsLegible option.name.toList) :
    Check.constant? (Check.code (Layout.constant (ofOption scope option))) =
      some (ofName option.name.toList, valueOf scope option.name.toList) := by
  rw [code_constant_ofOption scope h, ← ofOption_identifier scope, ← ofOption_value]
  apply constant?_constant
  · rw [ofOption_identifier]
    exact h.ofName_ne_nil
  · rw [ofOption_identifier]
    exact h.not_isBlank_ofName

theorem feed_not_mem {text : List Char} (h : ∀ c ∈ text, isBlank c = false) : '\n' ∉ text := by
  intro hfeed
  have hblank : isBlank '\n' = true := rfl
  rw [h '\n' hfeed] at hblank
  exact absurd hblank Bool.false_ne_true

theorem trim_valueOf (scope : Scope) (name : List Char) :
    trim (valueOf scope name) = valueOf scope name := by
  obtain ⟨first, rest, htype, hfirst, -⟩ := isPlainWord_typeName scope
  rw [valueOf_eq, htype]
  exact Check.trim_eq_self (isBlank_of_isPart (isPart_of_isStart hfirst)) rfl

theorem isWellFormed_of_line_eq_ok {scope : Scope} {option : ClientOption}
    (h : IsLegible option.name.toList) {number : Nat} {pending rest : Check.Pending}
    (hline : Check.line number pending (Layout.constant (ofOption scope option)) = .ok rest) :
    (ofOption scope option).IsWellFormed := by
  obtain ⟨hid, hvalue⟩ := Check.accepts_of_line_eq_ok hline (constant?_constant_ofOption scope h)
  rw [trim_valueOf, valueOf_eq, Check.isInitializer_append (isPlainWord_typeName scope),
    Bool.and_eq_true] at hvalue
  constructor
  · rw [ofOption_identifier]
    exact (accepts_iff_of_feed_not_mem (feed_not_mem h.not_isBlank_ofName)).1 hid
  · refine ⟨scope.typeName.toList, scope.symbol option.name.toList, isPlainWord_typeName scope, ?_, ?_⟩
    · exact (accepts_iff_of_feed_not_mem (feed_not_mem (isBlank_symbol h))).1 hvalue.2
    · rw [ofOption_value, valueOf_eq]

end Declaration

namespace Render

open Declaration Identifier

theorem source_eq_ok_of_checked {imprint : Imprint} {scope : Scope} {table : OptionTable}
    {text : String} (h : source imprint true scope table = .ok text) :
    Check.source (Render.text imprint scope table) = .ok () := by
  rw [source_checked] at h
  cases hcheck : Check.source (Render.text imprint scope table) with
  | error error =>
      rw [hcheck] at h
      cases h
  | ok => rfl

/-- A checked file has a well-formed constant for each option with a legible name, and for no other
option. -/
theorem isWellFormed_iff_isLegible {imprint : Imprint} {scope : Scope} {table : OptionTable}
    {text : String} (h : source imprint true scope table = .ok text) :
    ∀ option ∈ table.sorted, (ofOption scope option).IsWellFormed ↔
      Identifier.IsLegible option.name.toList := by
  intro option hoption
  constructor
  · intro hwell
    exact Identifier.isLegible_of_isValid_ofName hwell.identifier
  · intro hlegible
    obtain ⟨earlier, later, hsorted⟩ := List.append_of_mem hoption
    have hpassed := Check.lines_of_source_eq_ok (source_eq_ok_of_checked h)
    rw [Render.text, ofTable, hsorted, List.map_append, List.map_cons,
      Layout.lines_file_split imprint scope _ _ (onOneLine_constant_ofOption scope hlegible)] at hpassed
    obtain ⟨opened, closed, hline⟩ := Check.line_of_lines_eq_ok hpassed
    exact isWellFormed_of_line_eq_ok hlegible hline

def spacedTable : OptionTable :=
  { entries := [("A B", { name := "A B", code := "1" })] }

theorem sorted_spacedTable : spacedTable.sorted = [{ name := "A B", code := "1" }] := by
  simp [OptionTable.sorted, spacedTable]

theorem source_spacedTable :
    source { year := 2024, uid := "0" } true .network spacedTable =
      .ok (String.ofList (Render.text { year := 2024, uid := "0" } .network spacedTable)) := by
  have hconstant : Layout.constant (ofOption .network { name := "A B", code := "1" }) =
      "    public static let a b = NetworkOption(rawValue: FDB_NET_OPTION_A B)".toList := by
    decide +kernel
  apply source_eq_ok_of_passes (by decide +kernel)
  rw [sorted_spacedTable]
  intro option hoption
  obtain rfl := List.mem_singleton.1 hoption
  refine ⟨nofun, ?_, ?_⟩
  · rw [hconstant]
    decide +kernel
  · rw [hconstant]
    exact fun _ _ => rfl

theorem isWellFormed_iff_isLegible_spaced :
    source { year := 2024, uid := "0" } true .network spacedTable =
        .ok (String.ofList (Render.text { year := 2024, uid := "0" } .network spacedTable)) ∧
      ∀ option ∈ spacedTable.sorted, (ofOption .network option).IsWellFormed ↔
        Identifier.IsLegible option.name.toList :=
  ⟨source_spacedTable, isWellFormed_iff_isLegible source_spacedTable⟩

/-- A file can pass with a constant in it that is not well-formed. -/
theorem checked_not_isWellFormed :
    (∃ text, source { year := 2024, uid := "0" } true .network spacedTable = .ok text) ∧
      ∃ option ∈ spacedTable.sorted, ¬ (ofOption .network option).IsWellFormed := by
  refine ⟨⟨_, source_spacedTable⟩, { name := "A B", code := "1" }, ?_, ?_⟩
  · rw [sorted_spacedTable]
    exact List.mem_singleton.2 rfl
  · intro hwell
    have hid : ofName "A B".toList = "a b".toList := by decide +kernel
    have hnot : ¬ Identifier.IsValid "a b".toList := by decide +kernel
    exact hnot (hid ▸ hwell.identifier)

end Render

end OptionBindings
