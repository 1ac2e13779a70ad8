import OptionBindings.Proofs.Binding.Legibility
import OptionBindings.Proofs.Identifier.Acceptance

/-!
# The check of plain names

For names of letters, digits and underscores the check is exact: it refuses a file if and only if
some name starts with a digit, and it tells the first such option and the line of its constant.
-/

namespace OptionBindings

open Text

/-- The option has a plain name, and nothing in its parameter's type ends a line. -/
structure ClientOption.IsOrdinary (option : ClientOption) : Prop where
  name : Identifier.IsPlainName option.name.toList
  type : ∀ parameter ∈ option.parameter, OnOneLine parameter.type.toList

namespace Identifier

theorem isBracket_of_isPart {c : Char} (h : isPart c = true) : Check.isBracket c = false :=
  ascii_forall (p := fun c => isPart c = true → Check.isBracket c = false) (by decide +kernel)
    (toNat_lt_of_isPart h) h

theorem IsPlainName.isLegible {name : List Char} (h : IsPlainName name) : IsLegible name := by
  refine ⟨h.shown_ne_nil, fun c hc => isBlank_of_isPart (h.isPart c hc), ?_⟩
  intro hinfix
  have hslash : '/' ∈ shown name := hinfix.subset (by simp)
  have hpart := h.isPart '/' (mem_shown.1 hslash).1
  exact absurd hpart (by decide)

theorem isBracket_ofName {name : List Char} (h : IsPlainName name) :
    ∀ c ∈ ofName name, Check.isBracket c = false := by
  intro c hc
  rcases isPart_or_backtick_ofName h.isPart c hc with hpart | rfl
  · exact isBracket_of_isPart hpart
  · rfl

end Identifier

namespace Declaration

open Identifier

/-! ## The line of a plain name -/

theorem isPlainWord_symbol (scope : Scope) {name : List Char} (h : ∀ c ∈ name, isPart c = true) :
    IsPlainWord (scope.symbol name) := by
  rw [symbol_eq]
  exact (isPlainWord_symbolStart scope).append (isPart_upper h)

theorem isInitializer_valueOf (scope : Scope) {name : List Char}
    (h : ∀ c ∈ name, isPart c = true) : Check.isInitializer (trim (valueOf scope name)) = true := by
  have hsymbol := isPlainWord_symbol scope h
  have hparenthesis : (scope.symbol name).contains ')' = false := by
    cases hcontains : (scope.symbol name).contains ')' with
    | false => rfl
    | true =>
        have hpart := hsymbol.isPart ')' (by simpa using hcontains)
        exact absurd hpart (by decide)
  have haccepts : accepts (scope.symbol name) = true := by
    refine (accepts_iff_of_feed_not_mem ?_).2 (.plain hsymbol)
    exact feed_not_mem fun c hc => isBlank_of_isPart (hsymbol.isPart c hc)
  rw [trim_valueOf, valueOf_eq, Check.isInitializer_append (isPlainWord_typeName scope),
    hparenthesis, haccepts]
  rfl

theorem brackets_constant {scope : Scope} {option : ClientOption}
    (h : IsPlainName option.name.toList) (number : Nat) (pending : Check.Pending) :
    Check.brackets number pending (Layout.constant (ofOption scope option)) = .ok pending := by
  have hpublic : ∀ c ∈ "    public static let ".toList, Check.isBracket c = false := by
    decide +kernel
  have hequals : ∀ c ∈ " = ".toList, Check.isBracket c = false := by decide +kernel
  have hraw : ∀ c ∈ "rawValue: ".toList, Check.isBracket c = false := by decide +kernel
  have hsplit : Layout.constant (ofOption scope option) =
      ("    public static let ".toList ++ ofName option.name.toList ++ " = ".toList ++
        scope.typeName.toList) ++ '(' :: ("rawValue: ".toList ++ scope.symbol option.name.toList) ++
          [')'] := by
    have hopen : "(rawValue: ".toList = '(' :: "rawValue: ".toList := by decide +kernel
    rw [Layout.constant_eq, ofOption_identifier, ofOption_value, valueOf_eq, hopen]
    simp only [List.append_assoc, List.cons_append]
  rw [hsplit]
  apply Check.brackets_parentheses
  · intro c hc
    simp only [List.mem_append] at hc
    rcases hc with ((hc | hc) | hc) | hc
    · exact hpublic c hc
    · exact isBracket_ofName h c hc
    · exact hequals c hc
    · exact isBracket_of_isPart ((isPlainWord_typeName scope).isPart c hc)
  · intro c hc
    rcases List.mem_append.1 hc with hc | hc
    · exact hraw c hc
    · exact isBracket_of_isPart ((isPlainWord_symbol scope h.isPart).isPart c hc)

theorem line_constant {scope : Scope} {option : ClientOption}
    (h : IsPlainName option.name.toList) (number : Nat) (pending : Check.Pending) :
    Check.line number pending (Layout.constant (ofOption scope option)) =
      if accepts (ofName option.name.toList) then .ok pending
      else .error (.invalidIdentifier (ofName option.name.toList) number) := by
  have hbrackets : Check.brackets number pending
      (Check.code (Layout.constant (ofOption scope option))) = .ok pending := by
    rw [code_constant_ofOption scope h.isLegible]
    exact brackets_constant h number pending
  rw [Check.line_of_constant? hbrackets (constant?_constant_ofOption scope h.isLegible),
    if_pos (isInitializer_valueOf scope h.isPart)]

theorem passes_ofOption (scope : Scope) {option : ClientOption} (h : option.IsOrdinary)
    (hletter : StartsWithLetter option.name.toList) : Layout.Passes (ofOption scope option) where
  docLines _ htext := onOneLine_of_mem_docLines h.type htext
  constant := onOneLine_constant_ofOption scope h.name.isLegible
  line number pending := by
    rw [line_constant h.name, if_pos ((accepts_ofName_iff h.name.isPart).2 hletter)]

theorem line_constant_of_not_startsWithLetter (scope : Scope) {option : ClientOption}
    (h : IsPlainName option.name.toList) (hletter : ¬ StartsWithLetter option.name.toList)
    (number : Nat) (pending : Check.Pending) :
    Check.line number pending (Layout.constant (ofOption scope option)) =
      .error (.invalidIdentifier (ofName option.name.toList) number) := by
  rw [line_constant h, if_neg fun haccepts => hletter ((accepts_ofName_iff h.isPart).1 haccepts)]

end Declaration

namespace Render

open Declaration Identifier

/-! ## Files of ordinary options -/

theorem exists_first_not {α : Type} {p : α → Prop} {items : List α} (h : ¬ ∀ item ∈ items, p item) :
    ∃ earlier item later, items = earlier ++ item :: later ∧ (∀ other ∈ earlier, p other) ∧
      ¬ p item := by
  induction items with
  | nil => exact absurd nofun h
  | cons first rest ih =>
      by_cases hfirst : p first
      · have hrest : ¬ ∀ item ∈ rest, p item := fun hall => h (List.forall_mem_cons.2 ⟨hfirst, hall⟩)
        obtain ⟨earlier, item, later, rfl, hearlier, hitem⟩ := ih hrest
        exact ⟨first :: earlier, item, later, rfl, List.forall_mem_cons.2 ⟨hfirst, hearlier⟩, hitem⟩
      · exact ⟨[], first, rest, rfl, nofun, hfirst⟩

theorem source_eq_error_of_first {imprint : Imprint} (himprint : imprint.IsOneLined) (scope : Scope)
    {table : OptionTable} (hoptions : ∀ option ∈ table.sorted, option.IsOrdinary)
    {earlier later : List ClientOption} {option : ClientOption}
    (hsorted : table.sorted = earlier ++ option :: later)
    (hearlier : ∀ other ∈ earlier, StartsWithLetter other.name.toList)
    (hletter : ¬ StartsWithLetter option.name.toList) :
    source imprint true scope table =
      .error (.invalidIdentifier (ofName option.name.toList)
        ((lines (Layout.opening imprint scope (earlier.map (ofOption scope)) ++
          Layout.lead (ofOption scope option))).length + 1)) := by
  rw [hsorted] at hoptions
  have hoption : option.IsOrdinary := hoptions option (by simp)
  have hpasses : ∀ declaration ∈ earlier.map (ofOption scope), Layout.Passes declaration := by
    intro declaration hdeclaration
    obtain ⟨other, hother, rfl⟩ := List.mem_map.1 hdeclaration
    exact passes_ofOption scope (hoptions other (by simp [hother])) (hearlier other hother)
  have hcheck := Layout.checkSource_file_of_line_eq_error himprint scope hpasses
    (fun _ htext => onOneLine_of_mem_docLines hoption.type htext)
    (onOneLine_constant_ofOption scope hoption.name.isLegible)
    (line_constant_of_not_startsWithLetter scope hoption.name hletter) (later.map (ofOption scope))
  rw [source_checked, text_eq_file hsorted, List.map_append, List.map_cons, hcheck]
  rfl

/-- A file of ordinary options passes as it is if and only if all names start with a letter. If not,
the first other name is told, by its identifier and the line of its constant. -/
theorem source_checked_of_isOrdinary {imprint : Imprint} (himprint : imprint.IsOneLined)
    (scope : Scope) {table : OptionTable}
    (hoptions : ∀ option ∈ table.sorted, option.IsOrdinary) :
    (source imprint true scope table = source imprint false scope table ↔
        ∀ option ∈ table.sorted, StartsWithLetter option.name.toList) ∧
      ((¬ ∀ option ∈ table.sorted, StartsWithLetter option.name.toList) →
        ∃ earlier option later before after,
          table.sorted = earlier ++ option :: later ∧
          (∀ other ∈ earlier, StartsWithLetter other.name.toList) ∧
          ¬ StartsWithLetter option.name.toList ∧
          before = lines (Layout.opening imprint scope (earlier.map (ofOption scope)) ++
            Layout.lead (ofOption scope option)) ∧
          lines (text imprint scope table) =
            before ++ Layout.constant (ofOption scope option) :: after ∧
          (source imprint true scope table).mapError failure =
            .error (.generation ("Invalid identifier " ++
              String.ofList (quote (ofName option.name.toList)) ++ " on line " ++
                toString (before.length + 1)))) := by
  have hfails : (¬ ∀ option ∈ table.sorted, StartsWithLetter option.name.toList) →
      ∃ error, source imprint true scope table = .error error := by
    intro hnot
    obtain ⟨earlier, option, later, hsorted, hearlier, hletter⟩ := exists_first_not hnot
    exact ⟨_, source_eq_error_of_first himprint scope hoptions hsorted hearlier hletter⟩
  constructor
  · constructor
    · intro hsame
      by_contra hnot
      obtain ⟨error, herror⟩ := hfails hnot
      rw [herror, source_unchecked] at hsame
      cases hsame
    · intro hletters
      rw [source_unchecked]
      exact source_eq_ok_of_passes himprint fun option hoption =>
        passes_ofOption scope (hoptions option hoption) (hletters option hoption)
  · intro hnot
    obtain ⟨earlier, option, later, hsorted, hearlier, hletter⟩ := exists_first_not hnot
    have hoption : option.IsOrdinary := hoptions option (by simp [hsorted])
    have hlines := Layout.lines_file_split imprint scope (earlier.map (ofOption scope))
      (later.map (ofOption scope)) (onOneLine_constant_ofOption scope hoption.name.isLegible)
    rw [← List.map_cons, ← List.map_append, ← text_eq_file hsorted] at hlines
    refine ⟨earlier, option, later, _, _, hsorted, hearlier, hletter, rfl, hlines, ?_⟩
    rw [source_eq_error_of_first himprint scope hoptions hsorted hearlier hletter]
    rfl

def digitTable : OptionTable where
  entries :=
    [("A", { name := "A", code := "1", description := some "\x7d // (" }),
     ("_2", { name := "_2", code := "2", parameter := some { type := "Int" } })]

theorem sorted_digitTable : digitTable.sorted = digitTable.entries.map (·.2) := by
  rw [OptionTable.sorted, List.mergeSort_of_pairwise (by decide +kernel)]

theorem isOrdinary_of_mem_digitTable : ∀ option ∈ digitTable.sorted, option.IsOrdinary := by
  have hplain : ∀ option ∈ digitTable.entries.map (·.2),
      (∀ c ∈ option.name.toList, isPart c = true) ∧ shown option.name.toList ≠ [] ∧
        ∀ parameter ∈ option.parameter.toList, OnOneLine parameter.type.toList := by
    decide +kernel
  intro option hoption
  obtain ⟨hpart, hshown, htype⟩ := hplain option (sorted_digitTable ▸ hoption)
  exact ⟨⟨hpart, hshown⟩, fun parameter hparameter => htype parameter (Option.mem_toList.2 hparameter)⟩

theorem source_checked_digitTable :
    source { year := -1, uid := "0" } true .database digitTable ≠
      source { year := -1, uid := "0" } false .database digitTable := by
  intro hsame
  have hletters := (source_checked_of_isOrdinary (by decide +kernel) .database
    isOrdinary_of_mem_digitTable).1.1 hsame
  have hmem : ({ name := "_2", code := "2", parameter := some { type := "Int" } } : ClientOption) ∈
      digitTable.sorted := by
    rw [sorted_digitTable]
    decide +kernel
  obtain ⟨c, hhead, halpha⟩ := hletters _ hmem
  have hshown : shown "_2".toList = ['2'] := by decide +kernel
  rw [hshown] at hhead
  cases hhead
  exact absurd halpha (by decide)

end Render

end OptionBindings
