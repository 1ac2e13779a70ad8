import OptionBindings.Proofs.Identifier.Grammar
import OptionBindings.Proofs.Text.CaseForms

/-!
# Identifiers made from names

What an option's name has besides its underscores comes back in its identifier, in some case and in
the same order. For a name of letters, digits and underscores the first of these characters decides
whether the identifier is one of the grammar.
-/

namespace OptionBindings.Identifier

open Text

def shown (name : List Char) : List Char :=
  name.filter (· ≠ '_')

theorem mem_shown {name : List Char} {c : Char} : c ∈ shown name ↔ c ∈ name ∧ c ≠ '_' := by
  simp [shown]

/-! ## Segments -/

theorem flatten_splitOn (name : List Char) : (name.splitOn '_').flatten = shown name := by
  induction name with
  | nil => rfl
  | cons c name ih =>
      rw [List.splitOn_cons_eq_if_modifyHead]
      by_cases hc : c = '_'
      · subst c
        simpa [shown] using ih
      · cases hsplit : name.splitOn '_' with
        | nil => exact absurd hsplit (List.splitOn_ne_nil _ _)
        | cons first rest =>
            have hcons : shown (c :: name) = c :: shown name :=
              List.filter_cons_of_pos (by simpa using hc)
            rw [hsplit] at ih
            rw [hcons, ← ih]
            simp [hc]

theorem flatten_segments (name : List Char) : (segments name).flatten = shown name := by
  rw [segments, List.flatten_filter_not_isEmpty, flatten_splitOn]

theorem ne_nil_of_mem_segments {name segment : List Char} (h : segment ∈ segments name) :
    segment ≠ [] := by
  simpa [segments] using (List.mem_filter.1 h).2

theorem joinSegments_recased (parts : List (List Char)) :
    Recased parts.flatten (joinSegments parts) := by
  have hrest : ∀ rest : List (List Char), Recased rest.flatten (rest.flatMap capitalize) := by
    intro rest
    induction rest with
    | nil => exact .nil
    | cons part rest ih => exact (capitalize_recased part).append ih
  cases parts with
  | nil => exact .nil
  | cons first rest => exact (lower_recased first).append (hrest rest)

theorem camelCase_recased (name : List Char) : Recased (shown name) (camelCase name) := by
  rw [camelCase]
  split
  · rename_i hcamel
    have hnot : '_' ∉ name := by
      simp only [isCamelCase, Bool.and_eq_true, Bool.not_eq_true'] at hcamel
      simpa using hcamel.1
    have hshown : shown name = name := by
      apply List.filter_eq_self.2
      intro c hc
      have hne : c ≠ '_' := fun heq => hnot (heq ▸ hc)
      simpa using hne
    rw [hshown]
    exact recased_self name
  · rw [← flatten_segments]
    exact joinSegments_recased (segments name)

/-! ## Keywords -/

theorem isPlainWord_of_mem_keywords : ∀ word ∈ keywords, IsPlainWord word.toList := by
  decide

theorem ofName_cases (name : List Char) :
    ofName name = camelCase name ∨
      IsPlainWord (camelCase name) ∧ ofName name = '`' :: camelCase name ++ ['`'] := by
  rw [ofName, escape]
  split
  · rename_i hkeyword
    have hplain := isPlainWord_of_mem_keywords _ (List.contains_iff_mem.1 hkeyword)
    rw [String.toList_ofList] at hplain
    exact .inr ⟨hplain, rfl⟩
  · exact .inl rfl

theorem isValid_ofName_of_isPlainWord {name : List Char} (h : IsPlainWord (camelCase name)) :
    IsValid (ofName name) := by
  rcases ofName_cases name with heq | ⟨-, heq⟩
  · rw [heq]
    exact .plain h
  · rw [heq]
    exact .escaped h

/-! ## Any name -/

theorem ofName_eq_nil_iff {name : List Char} : ofName name = [] ↔ shown name = [] := by
  rw [← (camelCase_recased name).eq_nil_iff]
  rcases ofName_cases name with heq | ⟨hplain, heq⟩
  · rw [heq]
  · obtain ⟨first, rest, hword, -⟩ := hplain
    rw [heq, hword]
    simp

theorem mem_ofName_iff_of_mem_marks {name : List Char} {m : Char} (hm : m ∈ marks)
    (hne : m ≠ '_') : m ∈ ofName name ↔ m ∈ name := by
  have hbacktick : ∀ c ∈ marks, c ≠ '`' := by decide
  have hcamel : m ∈ camelCase name ↔ m ∈ name := by
    rw [(camelCase_recased name).mem_iff hm, mem_shown, and_iff_left hne]
  rcases ofName_cases name with heq | ⟨-, heq⟩
  · rw [heq, hcamel]
  · rw [heq]
    simp [hbacktick m hm, hcamel]

theorem slashes_infix_shown {name : List Char} (h : ['/', '/'] <:+: ofName name) :
    ['/', '/'] <:+: shown name := by
  rcases ofName_cases name with heq | ⟨hplain, heq⟩
  · rw [heq] at h
    exact (camelCase_recased name).infix_slashes h
  · have hslash : '/' ∈ camelCase name := by
      have hmem : '/' ∈ ofName name := h.subset (by simp)
      rw [heq] at hmem
      simpa using hmem
    exact absurd (hplain.isPart '/' hslash) (by decide)

/-! ## Names of letters, digits and underscores -/

/-- The name has no other characters, and some that is no underscore. -/
structure IsPlainName (name : List Char) : Prop where
  isPart : ∀ c ∈ name, isPart c = true
  shown_ne_nil : shown name ≠ []

def StartsWithLetter (name : List Char) : Prop :=
  ∃ c, (shown name).head? = some c ∧ c.isAlpha = true

theorem toNat_lt_of_isPart {c : Char} (h : isPart c = true) : c.toNat < 128 := by
  have halpha : c.isAlpha = (c.isUpper || c.isLower) := rfl
  have hupper : c.isUpper = decide (c.val ≥ 'A'.val ∧ c.val ≤ 'Z'.val) := rfl
  have hlower : c.isLower = (decide (c.val ≥ 'a'.val) && decide (c.val ≤ 'z'.val)) := rfl
  simp only [isPart, Char.isAlphanum, halpha, hupper, hlower, Char.isDigit, Bool.or_eq_true,
    Bool.and_eq_true, decide_eq_true_eq, UInt32.le_iff_toNat_le, ge_iff_le] at h
  have hval : c.toNat = c.val.toNat := rfl
  rcases h with ((⟨-, h⟩ | ⟨-, h⟩) | ⟨-, h⟩) | rfl
  · have hlast : 'Z'.val.toNat = 90 := rfl
    omega
  · have hlast : 'z'.val.toNat = 122 := rfl
    omega
  · have hlast : '9'.val.toNat = 57 := rfl
    omega
  · decide

structure KeepsKind (c d : Char) : Prop where
  isPart : isPart d = true
  isAlpha : d.isAlpha = c.isAlpha
  eq_underscore : d = '_' ↔ c = '_'

instance (c d : Char) : Decidable (KeepsKind c d) :=
  decidable_of_iff (Identifier.isPart d = true ∧ d.isAlpha = c.isAlpha ∧ (d = '_' ↔ c = '_'))
    ⟨fun ⟨h₁, h₂, h₃⟩ => ⟨h₁, h₂, h₃⟩, fun ⟨h₁, h₂, h₃⟩ => ⟨h₁, h₂, h₃⟩⟩

private theorem keepsKind_ascii {c : Char} (h : isPart c = true) :
    KeepsKind c c.toLower ∧ KeepsKind c c.toUpper :=
  ascii_forall
    (p := fun c => Identifier.isPart c = true → KeepsKind c c.toLower ∧ KeepsKind c c.toUpper)
    (by decide +kernel) (toNat_lt_of_isPart h) h

theorem keepsKind_toLower {c : Char} (h : isPart c = true) : KeepsKind c c.toLower :=
  (keepsKind_ascii h).1

theorem keepsKind_toUpper {c : Char} (h : isPart c = true) : KeepsKind c c.toUpper :=
  (keepsKind_ascii h).2

/-- Of the characters with the property Lowercase only those of the first span are in ASCII. -/
private theorem le_toNat_of_isLower {c : Char} (hc : c.toNat < 128) (h : isLower c = true) :
    0x61 ≤ c.toNat := by
  have htail : ∀ s ∈ CaseTable.lowercase.tail, 128 ≤ s.first := by decide +kernel
  obtain ⟨s, hs, hcontains⟩ := List.any_eq_true.1 h
  simp only [Span.contains, Bool.and_eq_true, decide_eq_true_eq] at hcontains
  rcases List.mem_cons.1 (hs : s ∈ ⟨0x61, 0x7a, 1⟩ :: CaseTable.lowercase.tail) with rfl | hs
  · exact hcontains.1.1
  · have hfirst := htail s hs
    omega

theorem toLower_eq_self_of_isLower {c : Char} (h : isPart c = true) (hlower : isLower c = true) :
    c.toLower = c := by
  have hfirst := le_toNat_of_isLower (toNat_lt_of_isPart h) hlower
  exact toLower_eq_self (by omega)

theorem lowerAfter_of_isPart {before text : List Char} (h : ∀ c ∈ text, isPart c = true) :
    lowerAfter before text = text.map Char.toLower := by
  induction text generalizing before with
  | nil => rfl
  | cons c text ih =>
      have hc : c.toNat < 128 := toNat_lt_of_isPart (h c (by simp))
      have hsigma : c ≠ 'Σ' := by
        rintro rfl
        exact absurd hc (by decide)
      rw [lowerAfter, if_neg hsigma, lowerChar, if_pos hc, ih fun d hd => h d (by simp [hd])]
      rfl

theorem upper_of_isPart {text : List Char} (h : ∀ c ∈ text, isPart c = true) :
    upper text = text.map Char.toUpper := by
  induction text with
  | nil => rfl
  | cons c text ih =>
      have hc : c.toNat < 128 := toNat_lt_of_isPart (h c (by simp))
      have htext := ih fun d hd => h d (by simp [hd])
      rw [upper] at htext ⊢
      rw [List.flatMap_cons, upperChar, if_pos hc, htext]
      rfl

theorem capitalize_of_isPart {c : Char} {text : List Char} (hc : isPart c = true)
    (h : ∀ d ∈ text, isPart d = true) :
    capitalize (c :: text) = c.toUpper :: text.map Char.toLower := by
  rw [capitalize, titleChar, if_pos (toNat_lt_of_isPart hc), lowerAfter_of_isPart h]
  rfl

theorem isPart_upper {text : List Char} (h : ∀ c ∈ text, isPart c = true) :
    ∀ c ∈ upper text, isPart c = true := by
  intro d hd
  rw [upper_of_isPart h] at hd
  obtain ⟨c, hc, rfl⟩ := List.mem_map.1 hd
  exact (keepsKind_toUpper (h c hc)).isPart

theorem isPart_map_toLower {text : List Char} (h : ∀ c ∈ text, isPart c = true) :
    ∀ c ∈ text.map Char.toLower, isPart c = true := by
  intro d hd
  obtain ⟨c, hc, rfl⟩ := List.mem_map.1 hd
  exact (keepsKind_toLower (h c hc)).isPart

theorem isPart_capitalize {text : List Char} (h : ∀ c ∈ text, isPart c = true) :
    ∀ c ∈ capitalize text, isPart c = true := by
  cases text with
  | nil => simp [capitalize]
  | cons c text =>
      have hc : isPart c = true := h c (by simp)
      have htext : ∀ d ∈ text, isPart d = true := fun d hd => h d (by simp [hd])
      intro d hd
      rw [capitalize_of_isPart hc htext] at hd
      rcases List.mem_cons.1 hd with rfl | hd
      · exact (keepsKind_toUpper hc).isPart
      · exact isPart_map_toLower htext d hd

theorem isPart_of_mem_segments {name segment : List Char} (h : ∀ c ∈ name, isPart c = true)
    (hsegment : segment ∈ segments name) : ∀ c ∈ segment, isPart c = true := by
  intro c hc
  have hflat : c ∈ (segments name).flatten := List.mem_flatten.2 ⟨segment, hsegment, hc⟩
  rw [flatten_segments] at hflat
  exact h c (mem_shown.1 hflat).1

theorem isPart_camelCase {name : List Char} (h : ∀ c ∈ name, isPart c = true) :
    ∀ c ∈ camelCase name, isPart c = true := by
  rw [camelCase]
  split
  · exact h
  · cases hparts : segments name with
    | nil => simp [joinSegments]
    | cons first rest =>
        have hpart : ∀ part ∈ first :: rest, ∀ c ∈ part, isPart c = true := fun part hpart =>
          isPart_of_mem_segments h (hparts ▸ hpart)
        intro d hd
        rw [joinSegments, lower, lowerAfter_of_isPart (hpart first (by simp))] at hd
        rcases List.mem_append.1 hd with hd | hd
        · exact isPart_map_toLower (hpart first (by simp)) d hd
        · obtain ⟨part, hmem, hd⟩ := List.mem_flatMap.1 hd
          exact isPart_capitalize (hpart part (by simp [hmem])) d hd

theorem head?_camelCase {name : List Char} (h : ∀ c ∈ name, isPart c = true) :
    (camelCase name).head? = (shown name).head?.map Char.toLower := by
  rw [camelCase]
  split
  · rename_i hcamel
    simp only [isCamelCase, Bool.and_eq_true, Bool.not_eq_true'] at hcamel
    cases name with
    | nil => rfl
    | cons c name =>
        have hc : c ≠ '_' := by
          rintro rfl
          simp at hcamel
        have hlower : isLower c = true := by simpa using hcamel.2
        have hshown : shown (c :: name) = c :: shown name :=
          List.filter_cons_of_pos (by simpa using hc)
        rw [hshown, List.head?_cons, List.head?_cons, Option.map_some,
          toLower_eq_self_of_isLower (h c (by simp)) hlower]
  · rw [← flatten_segments]
    cases hparts : segments name with
    | nil => rfl
    | cons first rest =>
        have hfirst : first ∈ segments name := by simp [hparts]
        rw [joinSegments, lower, lowerAfter_of_isPart (isPart_of_mem_segments h hfirst)]
        cases first with
        | nil => exact absurd rfl (ne_nil_of_mem_segments hfirst)
        | cons c first => rfl

theorem isPlainWord_camelCase_iff {name : List Char} (h : IsPlainName name) :
    IsPlainWord (camelCase name) ↔ StartsWithLetter name := by
  cases hhead : (shown name).head? with
  | none => exact absurd (List.head?_eq_none_iff.1 hhead) h.shown_ne_nil
  | some c =>
      obtain ⟨hmem, hc⟩ := mem_shown.1 (List.mem_of_head? hhead)
      have hkind := keepsKind_toLower (h.isPart c hmem)
      have hcamel : (camelCase name).head? = some c.toLower := by
        rw [head?_camelCase h.isPart, hhead, Option.map_some]
      obtain ⟨rest, hword⟩ := List.head?_eq_some_iff.1 hcamel
      have hstart : isStart c.toLower = c.isAlpha := by
        have hne : c.toLower ≠ '_' := fun heq => hc (hkind.eq_underscore.1 heq)
        rw [isStart, hkind.isAlpha]
        simp [hne]
      constructor
      · rintro ⟨first, tail, heq, hfirst, -⟩
        obtain ⟨rfl, -⟩ := List.cons.inj (hword.symm.trans heq)
        exact ⟨c, hhead, hstart ▸ hfirst⟩
      · rintro ⟨d, hd, halpha⟩
        obtain rfl : c = d := Option.some.inj (hhead.symm.trans hd)
        refine ⟨c.toLower, rest, hword, hstart.trans halpha, ?_⟩
        intro e he
        exact isPart_camelCase h.isPart e (by simp [hword, he])

/-- The identifier is one of the grammar if and only if the name starts with a letter. -/
theorem isValid_ofName_iff {name : List Char} (h : IsPlainName name) :
    IsValid (ofName name) ↔ StartsWithLetter name := by
  rw [← isPlainWord_camelCase_iff h]
  constructor
  · intro hvalid
    rcases ofName_cases name with heq | ⟨hplain, -⟩
    · rw [heq, isValid_iff, isWord_iff, isEscapedWord_iff] at hvalid
      rcases hvalid with hplain | ⟨word, -, hcamel⟩
      · exact hplain
      · have hpart := isPart_camelCase h.isPart '`' (by simp [hcamel])
        exact absurd hpart (by decide)
    · exact hplain
  · exact isValid_ofName_of_isPlainWord

theorem isPart_or_backtick_ofName {name : List Char} (h : ∀ c ∈ name, isPart c = true) :
    ∀ c ∈ ofName name, isPart c = true ∨ c = '`' := by
  intro c hc
  rcases ofName_cases name with heq | ⟨hplain, heq⟩
  · rw [heq] at hc
    exact .inl (isPart_camelCase h c hc)
  · rw [heq] at hc
    exact (IsValid.escaped hplain).isPart_or_backtick c hc

end OptionBindings.Identifier
