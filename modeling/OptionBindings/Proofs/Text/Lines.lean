import OptionBindings.Text.Basic

/-!
# Lines of joined texts

A text without a line end is one line of whatever a line feed joins it to, and a text that ends in a
line feed does not share a line with what follows it.
-/

namespace OptionBindings.Text

/-- A property of all characters of a text is decided on the text, not on all characters. -/
instance (priority := high) decidableForallMem {p : Char → Prop} [DecidablePred p]
    (text : List Char) : Decidable (∀ c ∈ text, p c) :=
  List.decidableBAll p text

def OnOneLine (text : List Char) : Prop :=
  ∀ c ∈ text, isLineEnd c = false

instance (text : List Char) : Decidable (OnOneLine text) :=
  inferInstanceAs (Decidable (∀ c ∈ text, isLineEnd c = false))

theorem onOneLine_nil : OnOneLine [] := by
  simp [OnOneLine]

theorem onOneLine_append {first second : List Char} :
    OnOneLine (first ++ second) ↔ OnOneLine first ∧ OnOneLine second := by
  simp only [OnOneLine, List.mem_append]
  constructor
  · intro h
    exact ⟨fun c hc => h c (.inl hc), fun c hc => h c (.inr hc)⟩
  · rintro ⟨hfirst, hsecond⟩ c (hc | hc)
    · exact hfirst c hc
    · exact hsecond c hc

theorem isBlank_of_isLineEnd {c : Char} (h : isLineEnd c = true) : isBlank c = true := by
  simp only [isLineEnd, List.mem_cons, List.not_mem_nil, or_false, decide_eq_true_eq] at h
  rcases h with rfl | rfl | rfl | rfl | rfl | rfl | rfl | rfl | rfl | rfl <;> decide

theorem onOneLine_of_not_isBlank {text : List Char} (h : ∀ c ∈ text, isBlank c = false) :
    OnOneLine text := by
  intro c hc
  cases hend : isLineEnd c with
  | false => rfl
  | true =>
      have hblank := isBlank_of_isLineEnd hend
      rw [h c hc] at hblank
      exact absurd hblank Bool.false_ne_true

/-! ## One step of the splitter -/

theorem lines_return_feed (rest : List Char) :
    lines ('\r' :: '\n' :: rest) = [] :: lines rest := by
  rw [lines]

theorem lines_cons_of_isLineEnd {c : Char} {rest : List Char} (hc : isLineEnd c = true)
    (hpair : ¬ (c = '\r' ∧ rest.head? = some '\n')) :
    lines (c :: rest) = [] :: lines rest := by
  rw [lines]
  · rw [if_pos hc]
  · rintro tail rfl rfl
    exact hpair ⟨rfl, rfl⟩

theorem lines_cons_of_not_isLineEnd {c : Char} {rest : List Char} (hc : isLineEnd c = false) :
    lines (c :: rest) = (c :: (lines rest).headD []) :: (lines rest).tail := by
  rw [lines]
  · rw [if_neg (by simp [hc])]
    cases lines rest with
    | nil => rfl
    | cons line more => rfl
  · rintro tail rfl rfl
    simp [isLineEnd] at hc

theorem lines_ne_nil {text : List Char} (h : text ≠ []) : lines text ≠ [] := by
  fun_cases lines text with
  | case1 => exact absurd rfl h
  | case2 => exact List.cons_ne_nil _ _
  | case3 => exact List.cons_ne_nil _ _
  | case4 => exact List.cons_ne_nil _ _
  | case5 => exact List.cons_ne_nil _ _

/-! ## Joining texts at a line feed -/

private theorem lines_cons_append_feed_append {c : Char} {tail rest : List Char}
    (hc : isLineEnd c = false)
    (ih : lines (tail ++ '\n' :: rest) = lines (tail ++ ['\n']) ++ lines rest) :
    lines (c :: tail ++ '\n' :: rest) = lines (c :: tail ++ ['\n']) ++ lines rest := by
  rw [List.cons_append, List.cons_append, lines_cons_of_not_isLineEnd hc,
    lines_cons_of_not_isLineEnd hc, ih]
  cases hlines : lines (tail ++ ['\n']) with
  | nil => exact absurd hlines (lines_ne_nil (by simp))
  | cons line more => rfl

private theorem not_return_feed_append {c : Char} {tail : List Char}
    (hpair : ∀ rest, c = '\r' → tail = '\n' :: rest → False) (hlast : ¬ (c = '\r' ∧ tail = []))
    (more : List Char) : ¬ (c = '\r' ∧ (tail ++ more).head? = some '\n') := by
  rintro ⟨rfl, hhead⟩
  cases tail with
  | nil => exact hlast ⟨rfl, rfl⟩
  | cons d tail =>
      obtain rfl : d = '\n' := by simpa using hhead
      exact hpair tail rfl rfl

theorem lines_append_feed_append (text rest : List Char) :
    lines (text ++ '\n' :: rest) = lines (text ++ ['\n']) ++ lines rest := by
  -- The recursion of `lines` itself: a carriage return may take the next character with it.
  fun_induction lines text with
  | case1 =>
      rw [List.nil_append, List.nil_append, lines_cons_of_isLineEnd (by decide) (by simp),
        lines_cons_of_isLineEnd (by decide) (by simp)]
      rfl
  | case2 tail ih =>
      simp only [List.cons_append, lines_return_feed, ih]
  | case3 c tail hpair hc ih =>
      by_cases hlast : c = '\r' ∧ tail = []
      · obtain ⟨rfl, rfl⟩ := hlast
        simp only [List.cons_append, List.nil_append, lines_return_feed]
        rfl
      · have hne := not_return_feed_append hpair hlast
        rw [List.cons_append, List.cons_append, lines_cons_of_isLineEnd hc (hne ('\n' :: rest)),
          lines_cons_of_isLineEnd hc (hne ['\n']), ih]
        rfl
  | case4 c tail _ hc _ ih =>
      exact lines_cons_append_feed_append (by simpa using hc) ih
  | case5 c tail _ hc _ _ _ ih =>
      exact lines_cons_append_feed_append (by simpa using hc) ih

/-- The text stops at a line feed, or has nothing in it. -/
def EndsLine (text : List Char) : Prop :=
  text = [] ∨ ∃ start, text = start ++ ['\n']

theorem lines_append {first : List Char} (h : EndsLine first) (second : List Char) :
    lines (first ++ second) = lines first ++ lines second := by
  rcases h with rfl | ⟨start, rfl⟩
  · rfl
  · rw [List.append_assoc, List.singleton_append]
    exact lines_append_feed_append start second

theorem endsLine_feed (text : List Char) : EndsLine (text ++ ['\n']) :=
  .inr ⟨text, rfl⟩

theorem EndsLine.append {first second : List Char} (hfirst : EndsLine first)
    (hsecond : EndsLine second) : EndsLine (first ++ second) := by
  rcases hsecond with rfl | ⟨start, rfl⟩
  · rw [List.append_nil]
    exact hfirst
  · rw [← List.append_assoc]
    exact endsLine_feed (first ++ start)

theorem endsLine_flatMap {α : Type} {f : α → List Char} {parts : List α}
    (h : ∀ part ∈ parts, EndsLine (f part)) : EndsLine (parts.flatMap f) := by
  induction parts with
  | nil => exact .inl rfl
  | cons part parts ih =>
      rw [List.flatMap_cons]
      exact (h part (by simp)).append (ih fun other hother => h other (by simp [hother]))

theorem lines_append_feed_of_onOneLine {text : List Char} (h : OnOneLine text) (rest : List Char) :
    lines (text ++ '\n' :: rest) = text :: lines rest := by
  induction text with
  | nil =>
      rw [List.nil_append, lines_cons_of_isLineEnd (by decide) (by simp)]
  | cons c text ih =>
      have hc : isLineEnd c = false := h c (by simp)
      have htext : OnOneLine text := fun d hd => h d (by simp [hd])
      rw [List.cons_append, lines_cons_of_not_isLineEnd hc, ih htext]
      rfl

theorem lines_flatMap_feed_append {parts : List (List Char)} (h : ∀ part ∈ parts, OnOneLine part)
    (rest : List Char) :
    lines (parts.flatMap (· ++ ['\n']) ++ rest) = parts ++ lines rest := by
  induction parts with
  | nil => rfl
  | cons part parts ih =>
      have hparts : ∀ other ∈ parts, OnOneLine other := fun other hother => h other (by simp [hother])
      rw [List.flatMap_cons, List.append_assoc, List.append_assoc, List.singleton_append,
        lines_append_feed_of_onOneLine (h part (by simp)), ih hparts]
      rfl

theorem lines_append_of_onOneLine {first : List Char} (h : OnOneLine first) (hne : first ≠ [])
    (text : List Char) :
    lines (first ++ text) = (first ++ (lines text).headD []) :: (lines text).tail := by
  induction first with
  | nil => exact absurd rfl hne
  | cons c first ih =>
      have hc : isLineEnd c = false := h c (by simp)
      have hfirst : OnOneLine first := fun d hd => h d (by simp [hd])
      rw [List.cons_append, lines_cons_of_not_isLineEnd hc]
      by_cases hempty : first = []
      · rw [hempty]
        rfl
      · rw [ih hfirst hempty]
        rfl

theorem lines_append_feed_cases (text : List Char) :
    lines (text ++ ['\n']) = lines text ∨ lines (text ++ ['\n']) = lines text ++ [[]] := by
  induction text using lines.induct with
  | case1 => exact .inr rfl
  | case2 tail ih =>
      rw [List.cons_append, List.cons_append, lines_return_feed, lines_return_feed]
      rcases ih with h | h
      · exact .inl (by rw [h])
      · exact .inr (by rw [h, List.cons_append])
  | case3 c tail hpair hc ih =>
      by_cases hlast : c = '\r' ∧ tail = []
      · obtain ⟨rfl, rfl⟩ := hlast
        exact .inl rfl
      · have hne := not_return_feed_append hpair hlast
        have hself : lines (c :: tail) = [] :: lines tail := by
          have hnil := hne []
          rw [List.append_nil] at hnil
          exact lines_cons_of_isLineEnd hc hnil
        rw [List.cons_append, lines_cons_of_isLineEnd hc (hne ['\n']), hself]
        rcases ih with h | h
        · exact .inl (by rw [h])
        · exact .inr (by rw [h, List.cons_append])
  | case4 c tail _ hc heq ih =>
      rw [List.cons_append, lines_cons_of_not_isLineEnd (by simpa using hc),
        lines_cons_of_not_isLineEnd (by simpa using hc)]
      rcases ih with h | h
      · exact .inl (by rw [h])
      · exact .inl (by rw [h, heq]; rfl)
  | case5 c tail _ hc first more heq ih =>
      rw [List.cons_append, lines_cons_of_not_isLineEnd (by simpa using hc),
        lines_cons_of_not_isLineEnd (by simpa using hc)]
      rcases ih with h | h
      · exact .inl (by rw [h])
      · exact .inr (by rw [h, heq]; rfl)

end OptionBindings.Text
