/-!
# Well-nested words

Words whose letters come in pairs, each pair within another or beside it. Into such a word another
one can be put anywhere, and in no part that it starts with do more pairs end than begin.
-/

namespace OptionBindings

variable {α : Type} {pairs : α → α → Prop}

/-- A word is well nested if it is empty, two such words side by side, or one within a pair. -/
inductive WellNested (pairs : α → α → Prop) : List α → Prop
  | nil : WellNested pairs []
  | append {first second : List α} :
    WellNested pairs first → WellNested pairs second → WellNested pairs (first ++ second)
  | within {a b : α} {inner : List α} :
    pairs a b → WellNested pairs inner → WellNested pairs (a :: inner ++ [b])

def CanNest (pairs : α → α → Prop) (word : List α) : Prop :=
  ∃ rest, WellNested pairs (word ++ rest)

namespace WellNested

/-- A cut through a word within a pair is a cut through the inner word, or comes before or behind
the pair. -/
theorem cut_within {a b : α} {inner first second : List α}
    (h : first ++ second = a :: inner ++ [b]) :
    first = [] ∨ second = [] ∨
      ∃ left right, first = a :: left ∧ inner = left ++ right ∧ second = right ++ [b] := by
  cases first with
  | nil => exact .inl rfl
  | cons c left =>
      rw [List.cons_append, List.cons_append] at h
      obtain ⟨rfl, htail⟩ := List.cons.inj h
      rcases List.eq_nil_or_concat second with rfl | ⟨right, d, rfl⟩
      · exact .inr (.inl rfl)
      · rw [List.concat_eq_append, ← List.append_assoc] at htail
        obtain ⟨rfl, hlast⟩ := List.append_inj' htail rfl
        exact .inr (.inr ⟨left, right, rfl, rfl, by rw [List.concat_eq_append, hlast]⟩)

theorem insert {first second new : List α} (h : WellNested pairs (first ++ second))
    (hnew : WellNested pairs new) : WellNested pairs (first ++ (new ++ second)) := by
  generalize hword : first ++ second = word at h
  induction h generalizing first second with
  | nil =>
      obtain ⟨rfl, rfl⟩ := List.append_eq_nil_iff.1 hword
      rw [List.append_nil]
      exact hnew
  | @append left right hleft hright ihleft ihright =>
      rcases List.append_eq_append_iff.1 hword with ⟨middle, rfl, rfl⟩ | ⟨middle, rfl, rfl⟩
      · have hinserted := ihleft rfl
        rw [← List.append_assoc, ← List.append_assoc, List.append_assoc first]
        exact hinserted.append hright
      · rw [List.append_assoc]
        exact hleft.append (ihright rfl)
  | @within a b inner hpair hinner ih =>
      rcases cut_within hword with rfl | rfl | ⟨left, right, rfl, rfl, rfl⟩
      · rw [List.nil_append] at hword
        rw [hword]
        exact hnew.append (hinner.within hpair)
      · rw [List.append_nil] at hword
        rw [hword, List.append_nil]
        exact (hinner.within hpair).append hnew
      · have hinserted := (ih rfl).within hpair
        rw [List.cons_append, ← List.append_assoc, ← List.append_assoc]
        simpa using hinserted

theorem insert_pair {first second : List α} {a b : α} (h : WellNested pairs (first ++ second))
    (hpair : pairs a b) : WellNested pairs (first ++ a :: b :: second) :=
  h.insert (nil.within hpair)

/-- Up to any place no more pairs have ended than begun. -/
theorem countP_le {begins ends : α → Bool}
    (hpairs : ∀ a b, pairs a b → ends a = false ∧ (ends b = true → begins a = true))
    {first second : List α} (h : WellNested pairs (first ++ second)) :
    first.countP ends ≤ first.countP begins := by
  generalize hword : first ++ second = word at h
  induction h generalizing first second with
  | nil =>
      obtain ⟨rfl, -⟩ := List.append_eq_nil_iff.1 hword
      exact Nat.le_refl _
  | append hleft hright ihleft ihright =>
      rcases List.append_eq_append_iff.1 hword with ⟨middle, rfl, -⟩ | ⟨middle, rfl, rfl⟩
      · exact ihleft rfl
      · have hwhole := ihleft (List.append_nil _)
        rw [List.countP_append, List.countP_append]
        exact Nat.add_le_add hwhole (ihright rfl)
  | @within a b inner hpair hinner ih =>
      obtain ⟨ha, hb⟩ := hpairs a b hpair
      have hbegin : ¬ ends a = true := by simp [ha]
      rcases cut_within hword with rfl | rfl | ⟨left, right, rfl, rfl, -⟩
      · exact Nat.le_refl _
      · have hle := ih (List.append_nil inner)
        have hclosed : (if ends b = true then 1 else 0) ≤ if begins a = true then 1 else 0 := by
          cases hend : ends b with
          | false => exact Nat.zero_le _
          | true => simp [hb hend]
        rw [List.append_nil] at hword
        rw [hword, List.cons_append, List.countP_cons_of_neg hbegin]
        simp only [List.countP_append, List.countP_cons, List.countP_nil]
        omega
      · have hle := ih rfl
        rw [List.countP_cons_of_neg hbegin, List.countP_cons]
        omega

theorem countP_eq {begins ends : α → Bool}
    (hpairs : ∀ a b, pairs a b → ends a = false ∧ begins b = false ∧ ends b = begins a)
    {word : List α} (h : WellNested pairs word) : word.countP ends = word.countP begins := by
  induction h with
  | nil => rfl
  | append _ _ ihleft ihright => rw [List.countP_append, List.countP_append, ihleft, ihright]
  | @within a b inner hpair _ ih =>
      obtain ⟨ha, hb, hsame⟩ := hpairs a b hpair
      simp only [List.countP_append, List.countP_cons, List.countP_nil, ha, hb, hsame, ih]
      omega

end WellNested

end OptionBindings
