import OptionBindings.Proofs.Binding.Blocks
import OptionBindings.Proofs.Binding.DocLines
import OptionBindings.Proofs.Identifier.CamelCase

/-!
# The check of a rendered file

Where the parts of a file stay on the lines they are meant for, the check goes through them one by
one: the header leaves the brace of the extension open, a block leaves all brackets as it finds them,
and the footer closes the brace. Only the line of a constant can fail.
-/

namespace OptionBindings

open Text

structure Imprint.IsOneLined (imprint : Imprint) : Prop where
  package : OnOneLine imprint.package.toList
  copyrightHolder : OnOneLine imprint.copyrightHolder.toList
  uid : OnOneLine imprint.uid.toList

instance (imprint : Imprint) : Decidable imprint.IsOneLined :=
  decidable_of_iff
    (OnOneLine imprint.package.toList ∧ OnOneLine imprint.copyrightHolder.toList ∧
      OnOneLine imprint.uid.toList)
    ⟨fun ⟨h₁, h₂, h₃⟩ => ⟨h₁, h₂, h₃⟩, fun ⟨h₁, h₂, h₃⟩ => ⟨h₁, h₂, h₃⟩⟩

theorem onOneLine_repr (n : Nat) : OnOneLine n.repr.toList := by
  intro c hc
  rw [Nat.toList_repr] at hc
  have hdigit := Nat.isDigit_of_mem_toDigits (by decide) (by decide) hc
  have hpart : Identifier.isPart c = true := by
    simp [Identifier.isPart, Char.isAlphanum, hdigit]
  exact ascii_forall (p := fun c => Identifier.isPart c = true → isLineEnd c = false)
    (by decide +kernel) (Identifier.toNat_lt_of_isPart hpart) hpart

theorem onOneLine_toString (year : Int) : OnOneLine (toString year).toList := by
  cases year with
  | ofNat n => exact onOneLine_repr n
  | negSucc n =>
      have htext : (toString (Int.negSucc n)).toList = "-".toList ++ (n + 1).repr.toList :=
        String.toList_append
      rw [htext, onOneLine_append]
      exact ⟨by decide, onOneLine_repr (n + 1)⟩

end OptionBindings

namespace OptionBindings.Check

open Text

/-! ## Runs over several lines -/

theorem lines_cons_of_line_eq_ok {number : Nat} {pending next : Pending} {text : List Char}
    (h : line number pending text = .ok next) (rest : List (List Char)) :
    lines number pending (text :: rest) = lines (number + 1) next rest := by
  rw [lines, h]

theorem lines_cons_of_line_eq_error {number : Nat} {pending : Pending} {text : List Char}
    {error : CheckError} (h : line number pending text = .error error) (rest : List (List Char)) :
    lines number pending (text :: rest) = .error error := by
  rw [lines, h]

/-- Lines that say nothing are counted and passed over. -/
theorem lines_append_of_line_eq_ok {first : List (List Char)}
    (h : ∀ text ∈ first, ∀ number pending, line number pending text = .ok pending) (number : Nat)
    (pending : Pending) (rest : List (List Char)) :
    lines number pending (first ++ rest) = lines (number + first.length) pending rest := by
  induction first generalizing number with
  | nil => rfl
  | cons text first ih =>
      rw [List.cons_append, lines_cons_of_line_eq_ok (h text (by simp) number pending),
        ih fun other hother => h other (by simp [hother])]
      congr 1
      simp only [List.length_cons]
      omega

theorem line_of_comment (text : List Char) (number : Nat) (pending : Pending) :
    line number pending ('/' :: '/' :: text) = .ok pending :=
  line_of_isBlank_code (by simp [code]) number pending

end OptionBindings.Check

namespace OptionBindings.Layout

open Text

theorem lines_fixed {texts : List String} (h : ∀ text ∈ texts, OnOneLine text.toList) :
    lines (fixed texts) = texts.map String.toList := by
  have hparts : ∀ text ∈ texts.map String.toList, OnOneLine text := by simpa using h
  have hlines := lines_flatMap_feed_append hparts []
  rw [List.append_nil, List.flatMap_map, lines, List.append_nil] at hlines
  exact hlines

theorem lines_header {imprint : Imprint} (h : imprint.IsOneLined) (scope : Scope) :
    lines (header imprint scope) = (headerTexts imprint scope).map String.toList := by
  apply lines_fixed
  have hyear := onOneLine_toString imprint.year
  have hscope : OnOneLine scope.typeName.toList := by cases scope <;> decide
  simp only [headerTexts, List.forall_mem_cons, String.toList_append, onOneLine_append,
    h.package, h.copyrightHolder, h.uid, hyear, hscope]
  decide +kernel

theorem checkLines_header {imprint : Imprint} (h : imprint.IsOneLined) (scope : Scope)
    (rest : List (List Char)) :
    Check.lines 1 [] (lines (header imprint scope) ++ rest) = Check.lines 16 [('\x7b', 15)] rest := by
  have hcomments : ∀ text ∈ ((headerTexts imprint scope).take 11).map String.toList,
      ∀ number pending, Check.line number pending text = .ok pending := by
    simp only [headerTexts, List.take_succ_cons, List.take_zero, List.map_cons, List.map_nil,
      String.toList_append, List.forall_mem_cons]
    exact ⟨Check.line_of_comment _, Check.line_of_comment _, Check.line_of_comment _,
      Check.line_of_comment _, Check.line_of_comment _, Check.line_of_comment _,
      Check.line_of_comment _, Check.line_of_comment _, Check.line_of_comment _,
      Check.line_of_comment _, fun _ _ => rfl, by simp⟩
  have hopen : Check.line 15 [] (("extension " ++ scope.typeName ++ " \x7b").toList) =
      .ok [('\x7b', 15)] := by
    cases scope <;> rfl
  have hclibfdb : Check.line 12 [] "import Clibfdb".toList = .ok [] := rfl
  have hfoundation : Check.line 13 [] "import Foundation".toList = .ok [] := rfl
  have hempty : Check.line 14 [] "".toList = .ok [] := rfl
  have hsplit : (headerTexts imprint scope).map String.toList =
      ((headerTexts imprint scope).take 11).map String.toList ++
        ["import Clibfdb".toList, "import Foundation".toList, "".toList,
          ("extension " ++ scope.typeName ++ " \x7b").toList] :=
    rfl
  rw [lines_header h, hsplit, List.append_assoc, Check.lines_append_of_line_eq_ok hcomments]
  have hcount : 1 + (((headerTexts imprint scope).take 11).map String.toList).length = 12 := rfl
  rw [hcount, List.cons_append, List.cons_append, List.cons_append, List.cons_append, List.nil_append,
    Check.lines_cons_of_line_eq_ok hclibfdb, Check.lines_cons_of_line_eq_ok hfoundation,
    Check.lines_cons_of_line_eq_ok hempty, Check.lines_cons_of_line_eq_ok hopen]

theorem lines_footer : lines footer = footerTexts.map String.toList :=
  lines_fixed (by decide +kernel)

theorem checkLines_footer (number opened : Nat) :
    Check.lines number [('\x7b', opened)] (lines footer) = .ok [] := by
  have hclose : Check.line number [('\x7b', opened)] "\x7d".toList = .ok [] := rfl
  have hrest : ∀ text ∈ footerTexts.tail.map String.toList, ∀ number pending,
      Check.line number pending text = .ok pending := by
    simp only [footerTexts, List.tail_cons, List.map_cons, List.map_nil, List.forall_mem_cons]
    exact ⟨fun _ _ => rfl, Check.line_of_comment _, fun _ _ => rfl, Check.line_of_comment _,
      Check.line_of_comment _, Check.line_of_comment _, Check.line_of_comment _, by simp⟩
  have hsplit : footerTexts.map String.toList =
      "\x7d".toList :: (footerTexts.tail.map String.toList ++ []) :=
    rfl
  rw [lines_footer, hsplit, Check.lines_cons_of_line_eq_ok hclose,
    Check.lines_append_of_line_eq_ok hrest]
  rfl

/-! ## Blocks -/

def leadLines (declaration : Declaration) : List (List Char) :=
  [] :: declaration.docLines.map ("    /// ".toList ++ ·) ++
    (if declaration.deprecated then ["    @available(*, deprecated)".toList] else [])

theorem lead_eq_flatMap (declaration : Declaration) :
    lead declaration = (leadLines declaration).flatMap (· ++ ['\n']) := by
  rw [lead, leadLines, List.cons_append, List.flatMap_cons, List.flatMap_append, List.flatMap_map,
    List.append_assoc]
  split <;> rfl

theorem lines_lead {declaration : Declaration} (h : ∀ text ∈ declaration.docLines, OnOneLine text) :
    lines (lead declaration) = leadLines declaration := by
  have hlines : ∀ text ∈ leadLines declaration, OnOneLine text := by
    intro text htext
    simp only [leadLines, List.cons_append, List.mem_cons, List.mem_append, List.mem_map] at htext
    rcases htext with rfl | ⟨doc, hdoc, rfl⟩ | htext
    · exact onOneLine_nil
    · exact onOneLine_append.2 ⟨by decide, h doc hdoc⟩
    · split at htext
      · obtain rfl := List.mem_singleton.1 htext
        decide
      · cases htext
  have happend := lines_flatMap_feed_append hlines []
  rw [List.append_nil, lines, List.append_nil] at happend
  rw [lead_eq_flatMap, happend]

theorem line_of_mem_leadLines {declaration : Declaration} {text : List Char}
    (h : text ∈ leadLines declaration) (number : Nat) (pending : Check.Pending) :
    Check.line number pending text = .ok pending := by
  simp only [leadLines, List.cons_append, List.mem_cons, List.mem_append, List.mem_map] at h
  rcases h with rfl | ⟨doc, -, rfl⟩ | h
  · rfl
  · apply Check.line_of_isBlank_code
    have hindent : '/' ∉ "    ".toList := by decide
    have hcode : Check.code ("    /// ".toList ++ doc) = "    ".toList :=
      Check.code_append_slashes hindent ('/' :: ' ' :: doc)
    rw [hcode]
    decide
  · split at h
    · obtain rfl := List.mem_singleton.1 h
      rfl
    · cases h

theorem checkLines_lead {declaration : Declaration}
    (h : ∀ text ∈ declaration.docLines, OnOneLine text) (number : Nat) (pending : Check.Pending)
    (rest : List (List Char)) :
    Check.lines number pending (lines (lead declaration) ++ rest) =
      Check.lines (number + (lines (lead declaration)).length) pending rest := by
  rw [lines_lead h]
  exact Check.lines_append_of_line_eq_ok (fun text htext => line_of_mem_leadLines htext) number
    pending rest

/-- The check goes through the block of the declaration line by line and finds nothing wrong. -/
structure Passes (declaration : Declaration) : Prop where
  docLines : ∀ text ∈ declaration.docLines, OnOneLine text
  constant : OnOneLine (constant declaration)
  line : ∀ number pending, Check.line number pending (Layout.constant declaration) = .ok pending

theorem lines_block {declaration : Declaration} (h : OnOneLine (constant declaration)) :
    lines (block declaration) = lines (lead declaration) ++ [constant declaration] := by
  have hline : lines (line (constant declaration)) = [constant declaration] :=
    lines_append_feed_of_onOneLine h []
  rw [block_eq, lines_append (endsLine_lead declaration), hline]

theorem checkLines_block {declaration : Declaration} (h : Passes declaration) (number : Nat)
    (pending : Check.Pending) (rest : List (List Char)) :
    Check.lines number pending (lines (block declaration) ++ rest) =
      Check.lines (number + (lines (block declaration)).length) pending rest := by
  rw [lines_block h.constant, List.append_assoc, checkLines_lead h.docLines, List.singleton_append,
    Check.lines_cons_of_line_eq_ok (h.line _ pending), List.length_append, List.length_singleton,
    Nat.add_assoc]

/-- The brackets that are open do not change over any number of blocks. -/
theorem checkLines_blocks {declarations : List Declaration}
    (h : ∀ declaration ∈ declarations, Passes declaration) (number : Nat)
    (pending : Check.Pending) (rest : List (List Char)) :
    Check.lines number pending (lines (declarations.flatMap block) ++ rest) =
      Check.lines (number + (lines (declarations.flatMap block)).length) pending rest := by
  induction declarations generalizing number with
  | nil => rfl
  | cons declaration declarations ih =>
      have hrest : ∀ other ∈ declarations, Passes other := fun other hother => h other (by simp [hother])
      rw [List.flatMap_cons, lines_append (endsLine_block declaration), List.append_assoc,
        checkLines_block (h declaration (by simp)), ih hrest, List.length_append, Nat.add_assoc]

theorem length_lines_header {imprint : Imprint} (h : imprint.IsOneLined) (scope : Scope) :
    (lines (header imprint scope)).length = 15 := by
  rw [lines_header h]
  rfl

theorem checkLines_opening {imprint : Imprint} (himprint : imprint.IsOneLined) (scope : Scope)
    {earlier : List Declaration} (hearlier : ∀ declaration ∈ earlier, Passes declaration)
    (rest : List (List Char)) :
    Check.lines 1 [] (lines (opening imprint scope earlier) ++ rest) =
      Check.lines ((lines (opening imprint scope earlier)).length + 1) [('\x7b', 15)] rest := by
  have hcount : (lines (opening imprint scope earlier)).length + 1 =
      16 + (lines (earlier.flatMap block)).length := by
    rw [opening, lines_append (endsLine_header imprint scope), List.length_append,
      length_lines_header himprint]
    omega
  rw [hcount, opening, lines_append (endsLine_header imprint scope), List.append_assoc,
    checkLines_header himprint, checkLines_blocks hearlier]

/-! ## Files -/

theorem checkSource_file_of_passes {imprint : Imprint} (himprint : imprint.IsOneLined)
    (scope : Scope) {declarations : List Declaration}
    (h : ∀ declaration ∈ declarations, Passes declaration) :
    Check.source (file imprint scope declarations) = .ok () := by
  have hfile : file imprint scope declarations = opening imprint scope declarations ++ footer := rfl
  have hlines : Check.lines 1 [] (lines (file imprint scope declarations)) = .ok [] := by
    calc Check.lines 1 [] (lines (file imprint scope declarations))
        = Check.lines 1 [] (lines (opening imprint scope declarations) ++ lines footer) := by
          rw [hfile, lines_append (endsLine_opening imprint scope declarations)]
      _ = Check.lines ((lines (opening imprint scope declarations)).length + 1) [('\x7b', 15)]
            (lines footer) := checkLines_opening himprint scope h (lines footer)
      _ = .ok [] := checkLines_footer _ 15
  rw [Check.source, hlines]

/-- The first constant that fails gives the error, with the number of its line. -/
theorem checkSource_file_of_line_eq_error {imprint : Imprint} (himprint : imprint.IsOneLined)
    (scope : Scope) {earlier : List Declaration}
    (hearlier : ∀ declaration ∈ earlier, Passes declaration) {declaration : Declaration}
    (hdoc : ∀ text ∈ declaration.docLines, OnOneLine text)
    (hconstant : OnOneLine (constant declaration)) {error : Nat → CheckError}
    (hline : ∀ number pending,
      Check.line number pending (constant declaration) = .error (error number))
    (later : List Declaration) :
    Check.source (file imprint scope (earlier ++ declaration :: later)) =
      .error (error ((lines (opening imprint scope earlier ++ lead declaration)).length + 1)) := by
  have hlead : lines (opening imprint scope earlier ++ lead declaration) =
      lines (opening imprint scope earlier) ++ lines (lead declaration) :=
    lines_append (endsLine_opening imprint scope earlier) (lead declaration)
  have hcount : (lines (opening imprint scope earlier ++ lead declaration)).length + 1 =
      (lines (opening imprint scope earlier)).length + 1 + (lines (lead declaration)).length := by
    rw [hlead, List.length_append]
    omega
  have hlines : Check.lines 1 [] (lines (file imprint scope (earlier ++ declaration :: later))) =
      .error (error ((lines (opening imprint scope earlier ++ lead declaration)).length + 1)) := by
    rw [lines_file_split imprint scope earlier later hconstant, hcount, hlead, List.append_assoc,
      checkLines_opening himprint scope hearlier, checkLines_lead hdoc,
      Check.lines_cons_of_line_eq_error (hline _ _)]
  rw [Check.source, hlines]

end OptionBindings.Layout

namespace OptionBindings.Render

theorem text_eq_file {table : OptionTable} {options : List ClientOption}
    (h : table.sorted = options) (imprint : Imprint) (scope : Scope) :
    text imprint scope table =
      Layout.file imprint scope (options.map (Declaration.ofOption scope)) := by
  rw [text, Declaration.ofTable, h]

theorem source_eq_ok_of_passes {imprint : Imprint} (himprint : imprint.IsOneLined) {scope : Scope}
    {table : OptionTable}
    (h : ∀ option ∈ table.sorted, Layout.Passes (Declaration.ofOption scope option)) :
    source imprint true scope table = .ok (String.ofList (text imprint scope table)) := by
  have hpassed : Check.source (text imprint scope table) = .ok () := by
    rw [text_eq_file rfl]
    exact Layout.checkSource_file_of_passes himprint scope (by simpa using h)
  rw [source_checked, hpassed]
  rfl

end OptionBindings.Render
