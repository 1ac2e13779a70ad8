import OptionBindings.Text.Basic

/-!
# Spans as numbers

The members of spans are the bits of a number that are set. Two lists of spans have no member in
common if their numbers have no bit in common, which one operation on numbers tells.
-/

namespace OptionBindings.Text

theorem Span.contains_iff {s : Span} {n : Nat} :
    s.contains n = true ↔ s.first ≤ n ∧ n ≤ s.last ∧ (n - s.first) % s.step = 0 := by
  simp [Span.contains, and_assoc]

/-! ## Bits -/

/-- The number whose bits are set at so many members of a progression, from its first one on. -/
def progressionBits (step : Nat) : Nat → Nat → Nat
  | 0, _ => 0
  | count + 1, first => 1 <<< first ||| progressionBits step count (first + step)

def spansBits : List Span → Nat
  | [] => 0
  | s :: spans => progressionBits s.step ((s.last - s.first) / s.step + 1) s.first ||| spansBits spans

theorem testBit_progressionBits {step count k : Nat} (hk : k < count) (first : Nat) :
    (progressionBits step count first).testBit (first + step * k) = true := by
  induction count generalizing first k with
  | zero => omega
  | succ count ih =>
      rw [progressionBits, Nat.testBit_or, Bool.or_eq_true]
      cases k with
      | zero => exact .inl (by simp [Nat.testBit_shiftLeft])
      | succ k =>
          have hnext : first + step * (k + 1) = first + step + step * k := by
            rw [Nat.mul_succ]
            omega
          rw [hnext]
          exact .inr (ih (by omega) (first + step))

theorem testBit_spansBits {spans : List Span} {s : Span} (hs : s ∈ spans) {n : Nat}
    (hn : s.contains n = true) : (spansBits spans).testBit n = true := by
  induction spans with
  | nil => exact absurd hs List.not_mem_nil
  | cons t spans ih =>
      rw [spansBits, Nat.testBit_or, Bool.or_eq_true]
      rcases List.mem_cons.1 hs with rfl | hs
      · obtain ⟨hfirst, hlast, hstep⟩ := Span.contains_iff.1 hn
        have hcount : (n - s.first) / s.step < (s.last - s.first) / s.step + 1 :=
          Nat.lt_succ_of_le (Nat.div_le_div_right (by omega))
        have hmember : s.first + s.step * ((n - s.first) / s.step) = n := by
          have hdiv := Nat.div_add_mod (n - s.first) s.step
          omega
        exact .inl (hmember ▸ testBit_progressionBits hcount s.first)
      · exact .inr (ih hs)

theorem testBit_eq_false_of_and {a b n : Nat} (h : a &&& b = 0) (ha : a.testBit n = true) :
    b.testBit n = false := by
  have hbit := congrArg (Nat.testBit · n) h
  simpa [Nat.testBit_and, ha] using hbit

/-! ## Shifts -/

def Shift.source (s : Shift) : Span :=
  ⟨s.first, s.last, s.step⟩

def Shift.image (s : Shift) : Span :=
  ⟨((s.first : Int) + s.shift).toNat, ((s.last : Int) + s.shift).toNat, s.step⟩

def sourceBits (shifts : List Shift) : Nat :=
  spansBits (shifts.map Shift.source)

def imageBits (shifts : List Shift) : Nat :=
  spansBits (shifts.map Shift.image)

/-- The shifts lead to numbers, and not below zero. -/
def StayPositive (shifts : List Shift) : Prop :=
  ∀ s ∈ shifts, 0 ≤ (s.first : Int) + s.shift

instance (shifts : List Shift) : Decidable (StayPositive shifts) :=
  inferInstanceAs (Decidable (∀ s ∈ shifts, 0 ≤ (s.first : Int) + s.shift))

theorem contains_image {s : Shift} (hs : 0 ≤ (s.first : Int) + s.shift) {n : Nat}
    (hn : s.source.contains n = true) : s.image.contains ((n : Int) + s.shift).toNat = true := by
  obtain ⟨hfirst, hlast, hstep⟩ := Span.contains_iff.1 hn
  dsimp only [Shift.source] at hfirst hlast hstep
  rw [Span.contains_iff]
  dsimp only [Shift.image]
  refine ⟨by omega, by omega, ?_⟩
  have hsub : ((n : Int) + s.shift).toNat - ((s.first : Int) + s.shift).toNat = n - s.first := by
    omega
  rw [hsub]
  exact hstep

theorem source_contains_eq_false {shifts : List Shift} {a n : Nat} (h : a &&& sourceBits shifts = 0)
    (ha : a.testBit n = true) : ∀ s ∈ shifts, s.source.contains n = false := by
  intro s hs
  rw [Bool.eq_false_iff]
  intro hn
  have hbit := testBit_eq_false_of_and h ha
  rw [sourceBits, testBit_spansBits (List.mem_map_of_mem hs) hn] at hbit
  exact Bool.false_ne_true hbit.symm

theorem shifted?_eq_none {shifts : List Shift} {c : Char}
    (h : ∀ s ∈ shifts, s.source.contains c.toNat = false) : shifted? shifts c = none := by
  rw [shifted?, Option.map_eq_none_iff, List.find?_eq_none]
  intro s hs
  exact Bool.eq_false_iff.1 (h s hs)

/-- A table of shifts moves its own characters, and to images of its own or to the null character,
which stands for numbers that are no code points. -/
theorem testBit_of_shifted? {shifts : List Shift} (hpositive : StayPositive shifts) {c d : Char}
    (h : shifted? shifts c = some d) :
    (sourceBits shifts).testBit c.toNat = true ∧
      (d = '\x00' ∨ (imageBits shifts).testBit d.toNat = true) := by
  obtain ⟨s, hfind, rfl⟩ := Option.map_eq_some_iff.1 h
  have hs := List.mem_of_find?_eq_some hfind
  have hsource : s.source.contains c.toNat = true :=
    List.find?_some (p := fun s : Shift => s.contains c.toNat) hfind
  refine ⟨testBit_spansBits (List.mem_map_of_mem hs) hsource, ?_⟩
  have himage := contains_image (hpositive s hs) hsource
  generalize ((c.toNat : Int) + s.shift).toNat = n at himage ⊢
  by_cases hn : n.isValidChar
  · rw [Char.ofNat, dif_pos hn]
    exact .inr (testBit_spansBits (List.mem_map_of_mem hs) himage)
  · rw [Char.ofNat, dif_neg hn]
    exact .inl rfl

/-! ## Listed characters -/

theorem mem_of_listed? {table : List (Nat × String)} {c : Char} {image : List Char}
    (h : listed? table c = some image) :
    ∃ entry ∈ table, entry.1 = c.toNat ∧ entry.2.toList = image := by
  obtain ⟨text, hlookup, rfl⟩ := Option.map_eq_some_iff.1 h
  obtain ⟨before, after, htable, -⟩ := List.lookup_eq_some_iff.1 hlookup
  exact ⟨(c.toNat, text), by simp [htable], rfl, rfl⟩

theorem listed?_eq_none {table : List (Nat × String)} {c : Char}
    (h : ∀ entry ∈ table, entry.1 ≠ c.toNat) : listed? table c = none := by
  rw [listed?, Option.map_eq_none_iff, List.lookup_eq_none_iff]
  intro entry hentry
  simpa using (h entry hentry).symm

end OptionBindings.Text
