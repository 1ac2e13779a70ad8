import Mathlib.Data.List.Basic
import OptionBindings.Proofs.Text.Lines
import OptionBindings.Proofs.Text.Spans
import OptionBindings.Text.Basic
import OptionBindings.Text.Case

/-!
# What changes of case leave alone

White space, slashes and underscores have no case: a change of case neither moves nor makes one, and
it leaves no character without an image. So a text and its lower, upper or capitalized form have
these marks in the same places.
-/

namespace OptionBindings.Text

/-- The characters whose places are followed through changes of case. -/
def marks : List Char :=
  '/' :: '_' :: blanks

/-! ## The tables -/

def markBits : Nat :=
  spansBits (marks.map fun c => ⟨c.toNat, c.toNat, 1⟩)

theorem not_mem_marks {c : Char} (h : markBits.testBit c.toNat = false) : c ∉ marks := by
  intro hc
  have hself : (Span.mk c.toNat c.toNat 1).contains c.toNat = true :=
    Span.contains_iff.2 ⟨Nat.le_refl _, Nat.le_refl _, Nat.mod_one _⟩
  have hbit : markBits.testBit c.toNat = true := testBit_spansBits (List.mem_map_of_mem hc) hself
  rw [h] at hbit
  exact Bool.false_ne_true hbit

structure ShiftsAvoidMarks (shifts : List Shift) : Prop where
  positive : StayPositive shifts
  source : sourceBits shifts &&& markBits = 0
  image : imageBits shifts &&& markBits = 0

def entryAvoidsMarks (entry : Nat × String) : Bool :=
  !markBits.testBit entry.1 && !entry.2.toList.isEmpty &&
    entry.2.toList.all fun c => !markBits.testBit c.toNat

def keepsMarks (change : Char → Char) (c : Char) : Bool :=
  change c == c || !markBits.testBit c.toNat && !markBits.testBit (change c).toNat

/-- Neither the tables nor the rule for ASCII move a mark or lead to one. -/
structure CaseAvoidsMarks : Prop where
  lower : ShiftsAvoidMarks CaseTable.lower
  upper : ShiftsAvoidMarks CaseTable.upper
  lowerLong : CaseTable.lowerLong.all entryAvoidsMarks = true
  upperLong : CaseTable.upperLong.all entryAvoidsMarks = true
  titleOwn : CaseTable.titleOwn.all entryAvoidsMarks = true
  toLower : ∀ n < 128, keepsMarks Char.toLower (Char.ofNat n) = true
  toUpper : ∀ n < 128, keepsMarks Char.toUpper (Char.ofNat n) = true

theorem caseAvoidsMarks : CaseAvoidsMarks where
  lower := ⟨by decide +kernel, by decide +kernel, by decide +kernel⟩
  upper := ⟨by decide +kernel, by decide +kernel, by decide +kernel⟩
  lowerLong := by decide +kernel
  upperLong := by decide +kernel
  titleOwn := by decide +kernel
  toLower := by decide +kernel
  toUpper := by decide +kernel

/-! ## One character -/

/-- What a character becomes: itself, or a text without marks if it is no mark. -/
def IsRecasing (c : Char) (image : List Char) : Prop :=
  image = [c] ∨ c ∉ marks ∧ image ≠ [] ∧ ∀ d ∈ image, d ∉ marks

theorem isRecasing_self (c : Char) : IsRecasing c [c] :=
  .inl rfl

theorem IsRecasing.ne_nil {c : Char} {image : List Char} (h : IsRecasing c image) : image ≠ [] := by
  rcases h with rfl | ⟨-, hne, -⟩
  · exact List.cons_ne_nil c []
  · exact hne

theorem shifted?_isRecasing {shifts : List Shift} (havoid : ShiftsAvoidMarks shifts) (c : Char) :
    IsRecasing c [(shifted? shifts c).getD c] := by
  cases hshifted : shifted? shifts c with
  | none => exact isRecasing_self c
  | some d =>
      obtain ⟨hsource, himage⟩ := testBit_of_shifted? havoid.positive hshifted
      have hc : c ∉ marks := not_mem_marks (testBit_eq_false_of_and havoid.source hsource)
      have hd : d ∉ marks := by
        rcases himage with rfl | himage
        · decide
        · exact not_mem_marks (testBit_eq_false_of_and havoid.image himage)
      exact .inr ⟨hc, by simp, by simpa using hd⟩

theorem listed?_isRecasing {table : List (Nat × String)}
    (havoid : table.all entryAvoidsMarks = true) {c : Char} {image : List Char}
    (h : listed? table c = some image) : IsRecasing c image := by
  obtain ⟨entry, hentry, hcode, rfl⟩ := mem_of_listed? h
  have hentry := List.all_eq_true.1 havoid entry hentry
  simp only [entryAvoidsMarks, Bool.and_eq_true, Bool.not_eq_true', List.isEmpty_eq_false_iff,
    List.all_eq_true] at hentry
  obtain ⟨⟨hsource, hne⟩, himage⟩ := hentry
  exact .inr ⟨not_mem_marks (hcode ▸ hsource), hne, fun d hd => not_mem_marks (himage d hd)⟩

theorem ascii_forall {p : Char → Prop} (h : ∀ n < 128, p (Char.ofNat n)) {c : Char}
    (hc : c.toNat < 128) : p c := by
  have hp := h c.toNat hc
  rwa [Char.ofNat_toNat] at hp

theorem isRecasing_of_keepsMarks {change : Char → Char} {c : Char}
    (h : keepsMarks change c = true) : IsRecasing c [change c] := by
  simp only [keepsMarks, Bool.or_eq_true, beq_iff_eq, Bool.and_eq_true, Bool.not_eq_true'] at h
  rcases h with h | ⟨hsource, himage⟩
  · rw [h]
    exact isRecasing_self c
  · exact .inr ⟨not_mem_marks hsource, by simp, by simpa using not_mem_marks himage⟩

theorem toLower_isRecasing {c : Char} (hc : c.toNat < 128) : IsRecasing c [c.toLower] :=
  isRecasing_of_keepsMarks
    (ascii_forall (p := fun c => keepsMarks Char.toLower c = true) caseAvoidsMarks.toLower hc)

theorem toUpper_isRecasing {c : Char} (hc : c.toNat < 128) : IsRecasing c [c.toUpper] :=
  isRecasing_of_keepsMarks
    (ascii_forall (p := fun c => keepsMarks Char.toUpper c = true) caseAvoidsMarks.toUpper hc)

theorem toLower_eq_self {c : Char} (h : ¬ (0x41 ≤ c.toNat ∧ c.toNat ≤ 0x5a)) : c.toLower = c :=
  dif_neg (by simpa [UInt32.le_iff_toNat_le] using h)

theorem lowerChar_isRecasing (c : Char) : IsRecasing c (lowerChar c) := by
  unfold lowerChar
  split
  · exact toLower_isRecasing ‹_›
  · cases hlisted : listed? CaseTable.lowerLong c with
    | none => exact shifted?_isRecasing caseAvoidsMarks.lower c
    | some image => exact listed?_isRecasing caseAvoidsMarks.lowerLong hlisted

theorem upperChar_isRecasing (c : Char) : IsRecasing c (upperChar c) := by
  unfold upperChar
  split
  · exact toUpper_isRecasing ‹_›
  · cases hlisted : listed? CaseTable.upperLong c with
    | none => exact shifted?_isRecasing caseAvoidsMarks.upper c
    | some image => exact listed?_isRecasing caseAvoidsMarks.upperLong hlisted

theorem titleChar_isRecasing (c : Char) : IsRecasing c (titleChar c) := by
  unfold titleChar
  split
  · exact toUpper_isRecasing ‹_›
  · split
    · exact isRecasing_self c
    · cases hlisted : listed? CaseTable.titleOwn c with
      | none => exact upperChar_isRecasing c
      | some image => exact listed?_isRecasing caseAvoidsMarks.titleOwn hlisted

/-! ## Texts -/

/-- The second text has for each character of the first what it becomes. -/
inductive Recased : List Char → List Char → Prop
  | nil : Recased [] []
  | cons {c : Char} {image text form : List Char} :
      IsRecasing c image → Recased text form → Recased (c :: text) (image ++ form)

theorem Recased.append {first firstForm second secondForm : List Char}
    (hfirst : Recased first firstForm) (hsecond : Recased second secondForm) :
    Recased (first ++ second) (firstForm ++ secondForm) := by
  induction hfirst with
  | nil => exact hsecond
  | cons hc _ ih =>
      rw [List.append_assoc]
      exact .cons hc ih

theorem recased_self (text : List Char) : Recased text text := by
  induction text with
  | nil => exact .nil
  | cons c text ih => exact .cons (isRecasing_self c) ih

def lowerImage (before : List Char) (c : Char) (rest : List Char) : List Char :=
  if c = 'Σ' then (if endsWord before rest then ['ς'] else ['σ']) else lowerChar c

theorem lowerAfter_cons (before : List Char) (c : Char) (rest : List Char) :
    lowerAfter before (c :: rest) = lowerImage before c rest ++ lowerAfter (c :: before) rest :=
  rfl

theorem lowerImage_isRecasing (before : List Char) (c : Char) (rest : List Char) :
    IsRecasing c (lowerImage before c rest) := by
  rw [lowerImage]
  -- A capital sigma has two lower forms, neither of which is in the tables.
  split
  · subst c
    split
    · exact .inr (by decide)
    · exact .inr (by decide)
  · exact lowerChar_isRecasing c

theorem lowerAfter_recased (before text : List Char) : Recased text (lowerAfter before text) := by
  induction text generalizing before with
  | nil => exact .nil
  | cons c text ih =>
      rw [lowerAfter_cons]
      exact .cons (lowerImage_isRecasing before c text) (ih (c :: before))

theorem lower_recased (text : List Char) : Recased text (lower text) :=
  lowerAfter_recased [] text

theorem upper_recased (text : List Char) : Recased text (upper text) := by
  induction text with
  | nil => exact .nil
  | cons c text ih => exact .cons (upperChar_isRecasing c) ih

theorem capitalize_recased (text : List Char) : Recased text (capitalize text) := by
  cases text with
  | nil => exact .nil
  | cons c text => exact .cons (titleChar_isRecasing c) (lowerAfter_recased [c] text)

theorem Recased.eq_nil_iff {text form : List Char} (h : Recased text form) :
    form = [] ↔ text = [] := by
  cases h with
  | nil => simp
  | cons hc _ => simp [hc.ne_nil]

theorem Recased.length_le {text form : List Char} (h : Recased text form) :
    text.length ≤ form.length := by
  induction h with
  | nil => exact Nat.le_refl 0
  | cons hc _ ih =>
      have himage := List.length_pos_iff.2 hc.ne_nil
      rw [List.length_cons, List.length_append]
      omega

theorem Recased.mem_iff {text form : List Char} (h : Recased text form) {m : Char}
    (hm : m ∈ marks) : m ∈ form ↔ m ∈ text := by
  induction h with
  | nil => simp
  | cons hc _ ih =>
      rcases hc with rfl | ⟨hsource, -, himage⟩
      · simp [ih]
      · have hnot : ∀ d ∈ _, d ≠ m := fun d hd heq => himage d hd (heq ▸ hm)
        grind

theorem Recased.head_of_mark {text form : List Char} (h : Recased text form) {m : Char}
    (hm : m ∈ marks) {rest : List Char} (hform : form = m :: rest) :
    ∃ more, text = m :: more := by
  cases h with
  | nil => cases hform
  | @cons c image text form hc _ =>
      rcases hc with rfl | ⟨-, hne, himage⟩
      · obtain ⟨rfl, -⟩ := List.cons.inj hform
        exact ⟨text, rfl⟩
      · cases image with
        | nil => exact absurd rfl hne
        | cons d image =>
            obtain ⟨rfl, -⟩ := List.cons.inj hform
            exact absurd hm (himage d (by simp))

/-- Where a pattern starts with a character that a text has not, it does not start in this text. -/
theorem infix_of_infix_append {c : Char} {pattern image form : List Char} (hc : c ∉ image)
    (h : c :: pattern <:+: image ++ form) : c :: pattern <:+: form := by
  induction image with
  | nil => exact h
  | cons d image ih =>
      rcases List.infix_cons_iff.1 h with hprefix | hinfix
      · exact absurd (List.cons_prefix_cons.1 hprefix).1 (List.ne_of_not_mem_cons hc)
      · exact ih (List.not_mem_of_not_mem_cons hc) hinfix

theorem Recased.infix_slashes {text form : List Char} (h : Recased text form)
    (hform : ['/', '/'] <:+: form) : ['/', '/'] <:+: text := by
  have hslash : '/' ∈ marks := by decide
  induction h with
  | nil => exact hform
  | @cons c image text form hc htext ih =>
      rcases hc with rfl | ⟨-, -, himage⟩
      · rw [List.singleton_append] at hform
        rcases List.infix_cons_iff.1 hform with hprefix | hinfix
        · obtain ⟨rfl, rest, hrest⟩ := List.cons_prefix_cons.1 hprefix
          obtain ⟨more, rfl⟩ := htext.head_of_mark hslash hrest.symm
          exact ⟨[], more, rfl⟩
        · exact List.infix_cons (ih hinfix)
      · have hnot : '/' ∉ image := fun hmem => himage '/' hmem hslash
        exact List.infix_cons (ih (infix_of_infix_append hnot hform))

end OptionBindings.Text
