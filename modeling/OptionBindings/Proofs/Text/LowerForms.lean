import OptionBindings.Proofs.Text.CaseForms

/-!
# Lower forms

A text is in lower case if and only if each of its characters is its own lower form, wherever the
characters stand. All characters of a lower form are, so a text put in lower case twice is the same
as put there once.
-/

namespace OptionBindings.Text

/-! ## Texts in lower case -/

theorem lowerImage_eq_self_iff {before rest : List Char} {c : Char} :
    lowerImage before c rest = [c] ↔ lowerChar c = [c] := by
  rw [lowerImage]
  split
  · subst c
    have hsigma : lowerChar 'Σ' ≠ ['Σ'] := by decide
    split
    · simp [hsigma]
    · simp [hsigma]
  · exact Iff.rfl

theorem lowerAfter_eq_self_iff {before text : List Char} :
    lowerAfter before text = text ↔ ∀ c ∈ text, lowerChar c = [c] := by
  induction text generalizing before with
  | nil => simp [lowerAfter]
  | cons c text ih =>
      rw [lowerAfter_cons, List.forall_mem_cons, ← @ih (c :: before),
        ← @lowerImage_eq_self_iff before text]
      constructor
      · intro h
        cases himage : lowerImage before c text with
        | nil => exact absurd himage (lowerImage_isRecasing before c text).ne_nil
        | cons d image =>
            rw [himage, List.cons_append] at h
            obtain ⟨rfl, hrest⟩ := List.cons.inj h
            -- No form is shorter than its text, so the first character has one image only.
            have hlength := (lowerAfter_recased (d :: before) text).length_le
            have htotal := congrArg List.length hrest
            rw [List.length_append] at htotal
            have hnil : image = [] := List.length_eq_zero_iff.1 (by omega)
            rw [hnil, List.nil_append] at hrest
            exact ⟨by rw [hnil], hrest⟩
      · rintro ⟨hc, htext⟩
        rw [hc, htext, List.singleton_append]

/-! ## The characters of lower forms -/

/-- Neither the tables nor the rule for ASCII lead to a character that they move. -/
structure LowerIsFinal : Prop where
  shifted : imageBits CaseTable.lower &&& sourceBits CaseTable.lower = 0
  notListed : ∀ entry ∈ CaseTable.lowerLong, (imageBits CaseTable.lower).testBit entry.1 = false
  listed : ∀ entry ∈ CaseTable.lowerLong, ∀ c ∈ entry.2.toList, lowerChar c = [c]
  toLower : ∀ n < 128, lowerChar (Char.ofNat n).toLower = [(Char.ofNat n).toLower]
  sigma : ∀ c ∈ ['ς', 'σ'], lowerChar c = [c]

theorem lowerIsFinal : LowerIsFinal where
  shifted := by decide +kernel
  notListed := by decide +kernel
  listed := by decide +kernel
  toLower := by decide +kernel
  sigma := by decide +kernel

theorem lowerChar_of_imageBits {c : Char}
    (h : (imageBits CaseTable.lower).testBit c.toNat = true) : lowerChar c = [c] := by
  have hshifts := source_contains_eq_false lowerIsFinal.shifted h
  rw [lowerChar]
  split
  · have hcapital : ¬ (0x41 ≤ c.toNat ∧ c.toNat ≤ 0x5a) := by
      have hletters := hshifts ⟨0x41, 0x5a, 1, 32⟩ (.head _)
      rw [Bool.eq_false_iff, ne_eq, Span.contains_iff] at hletters
      rintro ⟨hfirst, hlast⟩
      exact hletters ⟨hfirst, hlast, Nat.mod_one _⟩
    rw [toLower_eq_self hcapital]
  · have hlisted : listed? CaseTable.lowerLong c = none := by
      apply listed?_eq_none
      intro entry hentry heq
      have hnot := lowerIsFinal.notListed entry hentry
      rw [heq, h] at hnot
      exact Bool.false_ne_true hnot.symm
    have hshifted : shifted? CaseTable.lower c = none :=
      shifted?_eq_none hshifts
    rw [hlisted, hshifted]
    rfl

theorem lowerChar_of_shifted? {c d : Char} (h : shifted? CaseTable.lower c = some d) :
    lowerChar d = [d] := by
  obtain ⟨-, rfl | himage⟩ := testBit_of_shifted? caseAvoidsMarks.lower.positive h
  · decide
  · exact lowerChar_of_imageBits himage

/-- The lower form of a character is made of characters that are their own lower forms. -/
theorem lowerChar_of_mem_lowerChar {c d : Char} (h : d ∈ lowerChar c) : lowerChar d = [d] := by
  rw [lowerChar] at h
  split at h
  · rename_i hc
    obtain rfl := List.mem_singleton.1 h
    exact ascii_forall (p := fun c => lowerChar c.toLower = [c.toLower]) lowerIsFinal.toLower hc
  · cases hlisted : listed? CaseTable.lowerLong c with
    | some image =>
        rw [hlisted, Option.getD_some] at h
        obtain ⟨entry, hentry, -, rfl⟩ := mem_of_listed? hlisted
        exact lowerIsFinal.listed entry hentry d h
    | none =>
        cases hshifted : shifted? CaseTable.lower c with
        | some image =>
            rw [hlisted, hshifted, Option.getD_none, Option.getD_some, List.mem_singleton] at h
            exact lowerChar_of_shifted? (h ▸ hshifted)
        | none =>
            rw [hlisted, hshifted, Option.getD_none, Option.getD_none, List.mem_singleton] at h
            rw [h, lowerChar, if_neg ‹_›, hlisted, hshifted]
            rfl

theorem lowerChar_of_mem_lowerAfter {before text : List Char} :
    ∀ c ∈ lowerAfter before text, lowerChar c = [c] := by
  induction text generalizing before with
  | nil => simp [lowerAfter]
  | cons d text ih =>
      intro c hc
      rw [lowerAfter_cons, List.mem_append] at hc
      rcases hc with hc | hc
      · rw [lowerImage] at hc
        split at hc
        · have hsigma : c ∈ ['ς', 'σ'] := by
            split at hc <;> simp_all
          exact lowerIsFinal.sigma c hsigma
        · exact lowerChar_of_mem_lowerChar hc
      · exact ih c hc

end OptionBindings.Text
