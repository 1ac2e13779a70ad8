import OptionBindings.Proofs.Identifier.CamelCase
import OptionBindings.Proofs.Text.LowerForms

/-!
# Camel case of camel case

A name in camel case has no underscore. It is left alone if it starts in lower case, and is put in
lower case as a whole if it does not, so the conversion made twice differs from the conversion made
once where a first segment without a letter in front is followed by one with a capital.
-/

namespace OptionBindings.Identifier

open Text

theorem segments_of_underscore_not_mem {text : List Char} (h : '_' ∉ text) (hne : text ≠ []) :
    segments text = [text] := by
  rw [segments, List.splitOn_eq_singleton h]
  simp [hne]

theorem underscore_not_mem_of_isCamelCase {name : List Char} (h : isCamelCase name = true) :
    '_' ∉ name := by
  simp only [isCamelCase, Bool.and_eq_true, Bool.not_eq_true'] at h
  simpa using h.1

theorem underscore_not_mem_of_mem_segments {name segment : List Char}
    (h : segment ∈ segments name) : '_' ∉ segment := by
  intro hmem
  have hflat : '_' ∈ (segments name).flatten := List.mem_flatten.2 ⟨segment, h, hmem⟩
  rw [flatten_segments] at hflat
  exact (mem_shown.1 hflat).2 rfl

theorem underscore_not_mem_lower {text : List Char} (h : '_' ∉ text) : '_' ∉ lower text :=
  fun hmem => h (((lower_recased text).mem_iff (by decide)).1 hmem)

theorem underscore_not_mem_camelCase (name : List Char) : '_' ∉ camelCase name := by
  intro hmem
  have hshown := ((camelCase_recased name).mem_iff (by decide)).1 hmem
  exact (mem_shown.1 hshown).2 rfl

theorem camelCase_of_underscore_not_mem {text : List Char} (h : '_' ∉ text) :
    camelCase text = if text.head?.any isLower then text else lower text := by
  have hcamel : isCamelCase text = text.head?.any isLower := by
    simp [isCamelCase, h]
  rw [camelCase, hcamel]
  split
  · rfl
  · by_cases hne : text = []
    · rw [hne]
      rfl
    · rw [segments_of_underscore_not_mem h hne]
      exact List.append_nil _

theorem camelCase_eq_self_iff {text : List Char} (h : '_' ∉ text) :
    camelCase text = text ↔ text.head?.any isLower = true ∨ ∀ c ∈ text, lowerChar c = [c] := by
  rw [camelCase_of_underscore_not_mem h, ← @lowerAfter_eq_self_iff []]
  split
  · simp [*]
  · simp [*, lower]

/-- The lower form of the first segment starts with a character that counts as lower case. -/
def StartsLow (name : List Char) : Prop :=
  ∃ first ∈ (segments name).head?, (lower first).head?.any isLower = true

def HasNoCapital (name : List Char) : Prop :=
  ∀ segment ∈ (segments name).tail, lower (capitalize segment) = capitalize segment

theorem hasNoCapital_iff {name first : List Char} {rest : List (List Char)}
    (h : segments name = first :: rest) :
    HasNoCapital name ↔ ∀ c ∈ joinSegments (first :: rest), lowerChar c = [c] := by
  have hfirst : ∀ c ∈ lower first, lowerChar c = [c] := lowerChar_of_mem_lowerAfter
  rw [HasNoCapital, h, List.tail_cons, joinSegments, List.forall_mem_append, and_iff_right hfirst,
    List.forall_mem_flatMap]
  exact forall₂_congr fun segment _ => lowerAfter_eq_self_iff

theorem startsLow_iff {name first : List Char} {rest : List (List Char)}
    (h : segments name = first :: rest) :
    StartsLow name ↔ (joinSegments (first :: rest)).head?.any isLower = true := by
  have hfirst : first ∈ segments name := by simp [h]
  have hne : lower first ≠ [] := by
    rw [ne_eq, (lower_recased first).eq_nil_iff]
    exact ne_nil_of_mem_segments hfirst
  rw [StartsLow, h, joinSegments, List.head?_append_of_ne_nil _ hne]
  simp

/-- The conversion made twice is the conversion made once if the name starts in lower case or has no
capital, and for no other name. -/
theorem camelCase_camelCase_eq_iff (name : List Char) :
    camelCase (camelCase name) = camelCase name ↔ StartsLow name ∨ HasNoCapital name := by
  by_cases hcamel : isCamelCase name = true
  · have hself : camelCase name = name := if_pos hcamel
    have hne : name ≠ [] := by
      rintro rfl
      exact absurd hcamel (by decide)
    have hlow : HasNoCapital name := by
      rw [HasNoCapital, segments_of_underscore_not_mem (underscore_not_mem_of_isCamelCase hcamel) hne]
      simp
    rw [hself, hself]
    exact ⟨fun _ => .inr hlow, fun _ => rfl⟩
  · have hjoin : camelCase name = joinSegments (segments name) := if_neg hcamel
    rw [camelCase_eq_self_iff (underscore_not_mem_camelCase name), hjoin]
    cases hparts : segments name with
    | nil => simp [HasNoCapital, hparts, joinSegments]
    | cons first rest => rw [startsLow_iff hparts, hasNoCapital_iff hparts]

/-- A digit in front is no lower case, so the capital behind it is lost the second time. -/
theorem camelCase_camelCase_digitFirst_ne :
    camelCase (camelCase "1_a".toList) ≠ camelCase "1_a".toList := by
  decide +kernel

/-- Once it is made twice, the conversion changes nothing more. -/
theorem camelCase_camelCase_camelCase (name : List Char) :
    camelCase (camelCase (camelCase name)) = camelCase (camelCase name) := by
  have hnot := underscore_not_mem_camelCase name
  by_cases hlow : (camelCase name).head?.any isLower = true
  · have hself : camelCase (camelCase name) = camelCase name :=
      (camelCase_eq_self_iff hnot).2 (.inl hlow)
    rw [hself, hself]
  · have htwice : camelCase (camelCase name) = lower (camelCase name) := by
      rw [camelCase_of_underscore_not_mem hnot, if_neg hlow]
    rw [htwice]
    exact (camelCase_eq_self_iff (underscore_not_mem_lower hnot)).2 (.inr lowerChar_of_mem_lowerAfter)

end OptionBindings.Identifier
