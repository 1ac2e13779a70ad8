import Mathlib.Data.List.DropRight
import OptionBindings.Text.Basic

/-!
# Words and trimmed texts

The words of a text have no white space in them, and a text may be cut at any white space without a
change of its words. Trimming a text at its end keeps a start of it, with all its words.
-/

namespace OptionBindings.Text

theorem not_of_mem_splitOnP {p : Char → Bool} {text part : List Char} (h : part ∈ text.splitOnP p) :
    ∀ c ∈ part, p c = false := by
  induction text generalizing part with
  | nil =>
      obtain rfl : part = [] := by simpa using h
      simp
  | cons d text ih =>
      rw [List.splitOnP_cons_eq_if_modifyHead] at h
      cases hd : p d with
      | true =>
          rw [hd, if_pos rfl] at h
          rcases List.mem_cons.1 h with rfl | h
          · simp
          · exact ih h
      | false =>
          rw [hd, if_neg Bool.false_ne_true] at h
          cases hsplit : text.splitOnP p with
          | nil => exact absurd hsplit (List.splitOnP_ne_nil p text)
          | cons first rest =>
              rw [hsplit, List.modifyHead_cons] at h
              rcases List.mem_cons.1 h with rfl | h
              · intro c hc
                rcases List.mem_cons.1 hc with rfl | hc
                · exact hd
                · exact ih (hsplit ▸ List.mem_cons_self) c hc
              · exact ih (hsplit ▸ List.mem_cons_of_mem first h)

theorem not_isBlank_of_mem_words {text word : List Char} (h : word ∈ words text) :
    ∀ c ∈ word, isBlank c = false :=
  not_of_mem_splitOnP (List.mem_filter.1 h).1

theorem words_append_cons (first rest : List Char) {c : Char} (hc : isBlank c = true) :
    words (first ++ c :: rest) = words first ++ words rest := by
  rw [words, List.splitOnP_append_cons first rest hc, List.filter_append]
  rfl

theorem words_cons_of_isBlank {c : Char} (hc : isBlank c = true) (rest : List Char) :
    words (c :: rest) = words rest :=
  words_append_cons [] rest hc

theorem words_cons_ne_nil {c : Char} (hc : isBlank c = false) (rest : List Char) :
    words (c :: rest) ≠ [] := by
  rw [words, List.splitOnP_cons_eq_if_modifyHead, hc, if_neg Bool.false_ne_true]
  cases hsplit : rest.splitOnP isBlank with
  | nil => exact absurd hsplit (List.splitOnP_ne_nil isBlank rest)
  | cons first more => simp

theorem words_eq_nil_iff {text : List Char} : words text = [] ↔ ∀ c ∈ text, isBlank c = true := by
  induction text with
  | nil => simp [words]
  | cons c text ih =>
      rw [List.forall_mem_cons, ← ih]
      cases hc : isBlank c with
      | true => simp [words_cons_of_isBlank hc]
      | false => simp [words_cons_ne_nil hc]

theorem words_ne_nil_iff {text : List Char} : words text ≠ [] ↔ ∃ c ∈ text, isBlank c = false := by
  rw [ne_eq, words_eq_nil_iff]
  simp

/-! ## Trimming -/

theorem trimRight_eq_rdropWhile (text : List Char) : trimRight text = text.rdropWhile isBlank :=
  rfl

theorem words_trimRight (text : List Char) : words (trimRight text) = words text := by
  rw [trimRight_eq_rdropWhile]
  induction text using List.reverseRecOn with
  | nil => rfl
  | append_singleton text c ih =>
      rw [List.rdropWhile_concat]
      split
      · rename_i hc
        rw [ih, words_append_cons text [] hc]
        exact (List.append_nil _).symm
      · rfl

theorem exists_getLast?_trimRight {text : List Char} (h : ∃ c ∈ text, isBlank c = false) :
    ∃ c ∈ (trimRight text).getLast?, isBlank c = false := by
  obtain ⟨c, hc, hblank⟩ := h
  have hne : text.rdropWhile isBlank ≠ [] := by
    intro hnil
    have hall := List.rdropWhile_eq_nil_iff.1 hnil c hc
    rw [hblank] at hall
    exact Bool.false_ne_true hall
  refine ⟨_, List.getLast?_eq_some_getLast hne, ?_⟩
  simpa using List.rdropWhile_last_not isBlank text hne

theorem trimRight_prefix_self (text : List Char) : trimRight text <+: text :=
  List.rdropWhile_prefix isBlank text

end OptionBindings.Text
