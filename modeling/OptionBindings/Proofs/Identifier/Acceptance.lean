import OptionBindings.Proofs.Identifier.CamelCase

/-!
# What the test of identifiers accepts

The test agrees with the grammar on every text but those that have a line feed behind a word of the
grammar, which it accepts. Of the names of letters, digits and underscores those get an identifier that
passes which have a letter as their first character besides underscores.
-/

namespace OptionBindings.Identifier

theorem feed_not_mem_of_isPart_or_backtick {text : List Char}
    (h : ∀ c ∈ text, isPart c = true ∨ c = '`') : '\n' ∉ text := by
  intro hmem
  rcases h '\n' hmem with hpart | hbacktick
  · exact absurd hpart (by decide)
  · exact absurd hbacktick (by decide)

theorem IsValid.feed_not_mem {text : List Char} (h : IsValid text) : '\n' ∉ text :=
  feed_not_mem_of_isPart_or_backtick h.isPart_or_backtick

/-- A word of the grammar with a line feed behind it. -/
def IsValidBeforeFeed (text : List Char) : Prop :=
  ∃ word, IsValid word ∧ text = word ++ ['\n']

theorem IsValidBeforeFeed.not_isValid {text : List Char} (h : IsValidBeforeFeed text) :
    ¬ IsValid text := by
  obtain ⟨word, -, rfl⟩ := h
  intro hvalid
  exact hvalid.feed_not_mem (by simp)

theorem accepts_iff_isValid_or {text : List Char} :
    accepts text = true ↔ IsValid text ∨ IsValidBeforeFeed text := by
  rw [accepts_iff, dropFinalFeed]
  split
  · rename_i hlast
    have htext : text = text.dropLast ++ ['\n'] := (List.dropLast_append_getLast? '\n' hlast).symm
    constructor
    · intro hvalid
      exact .inr ⟨text.dropLast, hvalid, htext⟩
    · rintro (hvalid | ⟨word, hword, heq⟩)
      · exact absurd (List.mem_of_getLast? hlast) hvalid.feed_not_mem
      · rw [heq, List.dropLast_concat]
        exact hword
  · rename_i hlast
    constructor
    · exact .inl
    · rintro (hvalid | ⟨word, -, heq⟩)
      · exact hvalid
      · exact absurd (by rw [heq, List.getLast?_concat]) hlast

theorem accepts_iff_isValid_iff {text : List Char} :
    (accepts text = true ↔ IsValid text) ↔ ¬ IsValidBeforeFeed text := by
  rw [accepts_iff_isValid_or]
  constructor
  · intro h hfeed
    exact hfeed.not_isValid (h.1 (.inr hfeed))
  · intro hfeed
    exact or_iff_left hfeed

theorem not_startsWithLetter {name : List Char} (h : shown name = []) : ¬ StartsWithLetter name := by
  rintro ⟨c, hhead, -⟩
  rw [h] at hhead
  cases hhead

theorem accepts_ofName_iff {name : List Char} (h : ∀ c ∈ name, isPart c = true) :
    accepts (ofName name) = true ↔ StartsWithLetter name := by
  by_cases hshown : shown name = []
  · rw [ofName_eq_nil_iff.2 hshown]
    exact iff_of_false (by decide) (not_startsWithLetter hshown)
  · have hfeed : '\n' ∉ ofName name :=
      feed_not_mem_of_isPart_or_backtick (isPart_or_backtick_ofName h)
    rw [accepts_iff_of_feed_not_mem hfeed, isValid_ofName_iff ⟨h, hshown⟩]

/-- The test agrees with the grammar on a text if and only if the text is no word of the grammar with a
line feed behind it. Such a text it accepts besides the words. The identifier of a name of letters,
digits and underscores passes if and only if the first character of the name besides underscores is a
letter. -/
theorem acceptance_iff (text : List Char) :
    ((accepts text = true ↔ IsValid text) ↔ ¬ IsValidBeforeFeed text) ∧
      (accepts text = true ↔ IsValid text ∨ IsValidBeforeFeed text) ∧
      ∀ name, (∀ c ∈ name, isPart c = true) →
        (accepts (ofName name) = true ↔ StartsWithLetter name) :=
  ⟨accepts_iff_isValid_iff, accepts_iff_isValid_or, fun _ => accepts_ofName_iff⟩

/-- Backticks and a line feed around a word are accepted. A keyword passes with its backticks, and a
digit behind underscores does not pass. -/
theorem acceptance_iff_keywordAndDigit :
    accepts "`a`\n".toList = true ∧ accepts (ofName "_DEFAULT_".toList) = true ∧
      accepts (ofName "__1_A".toList) = false := by
  obtain ⟨-, htext, hnames⟩ := acceptance_iff "`a`\n".toList
  refine ⟨?_, ?_, ?_⟩
  · exact htext.2 (.inr ⟨"`a`".toList, by decide, by decide⟩)
  · exact (hnames _ (by decide)).2 ⟨'D', by decide, by decide⟩
  · rw [Bool.eq_false_iff, ne_eq, hnames _ (by decide)]
    rintro ⟨c, hhead, hletter⟩
    obtain rfl : '1' = c := Option.some.inj hhead
    exact absurd hletter (by decide)

/-- A word with a line feed behind it is no word of the grammar, and is accepted. -/
theorem not_accepts_iff_isValid_feedBehind :
    ¬ (accepts "a\n".toList = true ↔ IsValid "a\n".toList) := by
  decide

end OptionBindings.Identifier
