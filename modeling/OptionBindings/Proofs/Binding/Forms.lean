import OptionBindings.Proofs.Binding.CheckedLine

/-!
# The forms of a checked line

What the check reads on a line is stated apart from how it reads it: where the comment begins, which
lines declare a constant, and which values are made from one symbol.
-/

namespace OptionBindings.Check

open Text

variable {text line cut identifier value : List Char}

/-! ## Comments -/

/-- A line is cut at its first two slashes, if it has any. -/
inductive IsCut : List Char → List Char → Prop
  | whole {line : List Char} (h : ¬ ['/', '/'] <:+: line) : IsCut line line
  | comment {cut rest : List Char} (h : ¬ ['/', '/'] <:+: cut ++ ['/']) :
    IsCut (cut ++ '/' :: '/' :: rest) cut

theorem isCut_code (line : List Char) : IsCut line (code line) := by
  fun_induction code line with
  | case1 => exact .whole (by decide)
  | case2 rest => exact @IsCut.comment [] rest (by decide)
  | case3 c rest hnot ih =>
      -- Two slashes at the start would be a comment that begins with `c`.
      have hstart : ¬ ['/', '/'] <+: c :: rest := by
        rintro ⟨tail, htail⟩
        obtain ⟨rfl, hrest⟩ := List.cons.inj htail
        exact hnot tail rfl hrest.symm
      generalize code rest = cut at ih ⊢
      cases ih with
      | whole h =>
          refine .whole fun hslashes => ?_
          exact (List.infix_cons_iff.1 hslashes).elim hstart h
      | @comment cut tail h =>
          refine @IsCut.comment (c :: cut) tail fun hslashes => ?_
          rcases List.infix_cons_iff.1 hslashes with hfront | hslashes
          · refine hstart (hfront.trans ⟨'/' :: tail, ?_⟩)
            simp
          · exact h hslashes

theorem IsCut.subset (h : IsCut line cut) : cut ⊆ line := by
  cases h with
  | whole => exact List.Subset.refl _
  | comment => exact List.subset_append_left _ _

/-! ## Declarations -/

/-- The text declares a constant: after white space come the keywords, the identifier without white
space in it, and the value. -/
def IsDeclaration (text identifier value : List Char) : Prop :=
  ∃ indent, text = indent ++ "public static let ".toList ++ identifier ++ " = ".toList ++ value ∧
    (∀ c ∈ indent, isBlank c = true) ∧ identifier ≠ [] ∧ ∀ c ∈ identifier, isBlank c = false

theorem eq_append_of_after? {start rest : List Char} (h : after? start text = some rest) :
    text = start ++ rest :=
  (List.isPrefixOf?_eq_some_iff_append_eq.1 h).symm

theorem constant?_eq_some_iff :
    constant? text = some (identifier, value) ↔ IsDeclaration text identifier value := by
  constructor
  · intro h
    simp only [constant?, Option.bind_eq_bind, Option.bind_eq_some_iff] at h
    obtain ⟨rest, hstart, behind, hvalue, hidentifier⟩ := h
    split at hidentifier
    · cases hidentifier
    · rename_i hne
      cases hidentifier
      refine ⟨text.takeWhile isBlank, ?_, fun c => List.mem_takeWhile_imp, hne, ?_⟩
      · calc text
            = text.takeWhile isBlank ++ text.dropWhile isBlank :=
              List.takeWhile_append_dropWhile.symm
          _ = text.takeWhile isBlank ++ ("public static let ".toList ++ rest) := by
              rw [eq_append_of_after? hstart]
          _ = text.takeWhile isBlank ++ ("public static let ".toList ++
                (rest.takeWhile (!isBlank ·) ++ rest.dropWhile (!isBlank ·))) := by
              rw [List.takeWhile_append_dropWhile]
          _ = _ := by
              rw [eq_append_of_after? hvalue]
              simp only [List.append_assoc]
      · intro c hc
        simpa using List.mem_takeWhile_imp hc
  · rintro ⟨indent, rfl, hindent, hne, hblank⟩
    exact constant?_of_indent hindent hne hblank value

theorem IsDeclaration.value_subset (h : IsDeclaration text identifier value) : value ⊆ text := by
  obtain ⟨indent, rfl, -⟩ := h
  exact List.subset_append_right _ _

theorem IsDeclaration.identifier_subset (h : IsDeclaration text identifier value) :
    identifier ⊆ text := by
  obtain ⟨indent, rfl, -⟩ := h
  intro c hc
  simp [hc]

/-! ## Values -/

def IsInitializer (value : List Char) : Prop :=
  ∃ type symbol, value = type ++ "(rawValue: ".toList ++ symbol ++ [')'] ∧
    Identifier.IsPlainWord type ∧ Identifier.IsValid symbol

theorem not_mem_parenthesis_of_isValid {symbol : List Char} (h : Identifier.IsValid symbol) :
    ')' ∉ symbol := by
  intro hmem
  rcases h.isPart_or_backtick _ hmem with hpart | heq
  · exact absurd hpart (by decide)
  · exact absurd heq (by decide)

theorem isInitializer_iff (h : '\n' ∉ value) : isInitializer value = true ↔ IsInitializer value := by
  constructor
  · intro hvalue
    rw [isInitializer] at hvalue
    split at hvalue
    · cases hvalue
    · rename_i rest hrest
      simp only [Bool.and_eq_true, beq_iff_eq] at hvalue
      obtain ⟨⟨⟨htype, hlast⟩, -⟩, hsymbol⟩ := hvalue
      have hsplit : value = value.takeWhile Identifier.isPart ++ "(rawValue: ".toList ++
          rest.dropLast ++ [')'] := by
        rw [List.append_assoc, List.dropLast_append_getLast? ')' hlast, List.append_assoc,
          ← eq_append_of_after? hrest, List.takeWhile_append_dropWhile]
      have hfeed : '\n' ∉ rest.dropLast := by
        intro hmem
        rw [hsplit] at h
        exact h (by simp [hmem])
      exact ⟨_, _, hsplit, Identifier.isWord_iff.1 htype,
        (Identifier.accepts_iff_of_feed_not_mem hfeed).1 hsymbol⟩
  · rintro ⟨type, symbol, rfl, htype, hsymbol⟩
    have hfeed : '\n' ∉ symbol := fun hmem => h (by simp [hmem])
    rw [isInitializer_append htype, (Identifier.accepts_iff_of_feed_not_mem hfeed).2 hsymbol]
    simpa using not_mem_parenthesis_of_isValid hsymbol

theorem trim_subset (text : List Char) : trim text ⊆ text := by
  intro c hc
  rw [trim, trimRight, List.mem_reverse] at hc
  have hmem := (List.dropWhile_sublist isBlank).subset hc
  rw [List.mem_reverse] at hmem
  exact (List.dropWhile_sublist isBlank).subset hmem

/-! ## The judgement of a declaration -/

def IsSound (identifier value : List Char) : Prop :=
  Identifier.IsValid identifier ∧ IsInitializer (trim value)

end OptionBindings.Check
