import Mathlib.Data.List.Basic
import OptionBindings.Identifier

/-!
# The grammar of identifiers

The grammar is stated apart from the test that decides it: a word of ASCII letters, digits and
underscores that starts with no digit, bare or between two backticks. The test accepts the words of
the grammar, and those with one line feed behind them.
-/

namespace OptionBindings.Identifier

/-- A letter or underscore with letters, digits and underscores after it, all of ASCII. -/
def IsPlainWord (text : List Char) : Prop :=
  ∃ first rest, text = first :: rest ∧ isStart first = true ∧ ∀ c ∈ rest, isPart c = true

inductive IsValid : List Char → Prop
  | plain {text : List Char} (h : IsPlainWord text) : IsValid text
  | escaped {word : List Char} (h : IsPlainWord word) : IsValid ('`' :: word ++ ['`'])

theorem isPart_of_isStart {c : Char} (h : isStart c = true) : isPart c = true := by
  have halphanum : c.isAlphanum = (c.isAlpha || c.isDigit) := rfl
  rw [isStart, Bool.or_eq_true] at h
  rw [isPart, halphanum, Bool.or_eq_true]
  rcases h with h | h
  · exact .inl (by rw [h, Bool.true_or])
  · exact .inr h

theorem isWord_iff {text : List Char} : isWord text = true ↔ IsPlainWord text := by
  cases text with
  | nil => simp [isWord, IsPlainWord]
  | cons first rest =>
      simp only [isWord, Bool.and_eq_true, List.all_eq_true]
      constructor
      · intro h
        exact ⟨first, rest, rfl, h⟩
      · rintro ⟨_, _, heq, h⟩
        cases heq
        exact h

instance (text : List Char) : Decidable (IsPlainWord text) :=
  decidable_of_iff _ isWord_iff

theorem IsPlainWord.isPart {text : List Char} (h : IsPlainWord text) : ∀ c ∈ text, isPart c = true := by
  obtain ⟨first, rest, rfl, hfirst, hrest⟩ := h
  intro c hc
  rcases List.mem_cons.1 hc with rfl | hc
  · exact isPart_of_isStart hfirst
  · exact hrest c hc

theorem IsPlainWord.append {word rest : List Char} (h : IsPlainWord word)
    (hrest : ∀ c ∈ rest, Identifier.isPart c = true) : IsPlainWord (word ++ rest) := by
  obtain ⟨first, tail, rfl, hfirst, htail⟩ := h
  refine ⟨first, tail ++ rest, rfl, hfirst, ?_⟩
  intro c hc
  rcases List.mem_append.1 hc with hc | hc
  · exact htail c hc
  · exact hrest c hc

theorem isEscapedWord_iff {text : List Char} :
    isEscapedWord text = true ↔ ∃ word, IsPlainWord word ∧ text = '`' :: word ++ ['`'] := by
  constructor
  · intro h
    fun_cases isEscapedWord text with
    | case1 rest =>
        simp only [isEscapedWord, Bool.and_eq_true, beq_iff_eq] at h
        obtain ⟨hlast, hword⟩ := h
        refine ⟨rest.dropLast, isWord_iff.1 hword, ?_⟩
        rw [List.cons_append, List.dropLast_append_getLast? '`' hlast]
    | case2 hnot =>
        simp [isEscapedWord] at h
  · rintro ⟨word, hword, rfl⟩
    simp [isEscapedWord, isWord_iff.2 hword]

theorem isValid_iff {text : List Char} :
    IsValid text ↔ isWord text = true ∨ isEscapedWord text = true := by
  rw [isWord_iff, isEscapedWord_iff]
  constructor
  · rintro (h | h)
    · exact .inl h
    · exact .inr ⟨_, h, rfl⟩
  · rintro (h | ⟨word, h, rfl⟩)
    · exact .plain h
    · exact .escaped h

instance (text : List Char) : Decidable (IsValid text) :=
  decidable_of_iff _ isValid_iff.symm

theorem accepts_iff {text : List Char} : accepts text = true ↔ IsValid (dropFinalFeed text) := by
  rw [isValid_iff, accepts, Bool.or_eq_true]

theorem accepts_iff_of_feed_not_mem {text : List Char} (h : '\n' ∉ text) :
    accepts text = true ↔ IsValid text := by
  rw [accepts_iff, dropFinalFeed, if_neg]
  intro hlast
  exact h (List.mem_of_getLast? hlast)

theorem IsValid.isPart_or_backtick {text : List Char} (h : IsValid text) :
    ∀ c ∈ text, isPart c = true ∨ c = '`' := by
  intro c hc
  rcases h with h | h
  · exact .inl (h.isPart c hc)
  · simp only [List.cons_append, List.mem_cons, List.mem_append, List.not_mem_nil, or_false] at hc
    rcases hc with rfl | hc | rfl
    · exact .inr rfl
    · exact .inl (h.isPart c hc)
    · exact .inr rfl

theorem IsValid.ne_nil {text : List Char} (h : IsValid text) : text ≠ [] := by
  rcases h with ⟨first, rest, rfl, -⟩ | h
  · exact List.cons_ne_nil _ _
  · exact List.cons_ne_nil _ _

end OptionBindings.Identifier
