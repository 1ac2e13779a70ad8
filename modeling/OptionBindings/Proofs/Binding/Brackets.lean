import Mathlib.Data.List.Induction
import OptionBindings.Proofs.Binding.CheckedLine
import OptionBindings.Proofs.Except
import OptionBindings.Proofs.WellNested

/-!
# Open brackets

Brackets are in order if they can be completed to a balanced word. What the check holds pending are
then the brackets that are still open, with balanced words between them.
-/

namespace OptionBindings.Check

inductive Matches : Char → Char → Prop
  | round : Matches '(' ')'
  | square : Matches '[' ']'
  | curly : Matches '\x7b' '\x7d'

/-- The words of brackets in which each one that opens is closed within what is around it. -/
abbrev Balanced (word : List Char) : Prop :=
  WellNested Matches word

variable {c opening closing : Char} {number : Nat} {pending next : Pending}

theorem opening?_eq_some_iff : opening? closing = some opening ↔ Matches opening closing := by
  constructor
  · intro h
    rw [opening?.eq_def] at h
    split at h
    · cases h; exact .round
    · cases h; exact .square
    · cases h; exact .curly
    · cases h
  · rintro (_ | _ | _) <;> rfl

theorem isOpening_iff : isOpening c = true ↔ ∃ closing, Matches c closing := by
  constructor
  · intro h
    simp only [isOpening, Bool.or_eq_true, decide_eq_true_eq] at h
    rcases h with (rfl | rfl) | rfl
    · exact ⟨_, .round⟩
    · exact ⟨_, .square⟩
    · exact ⟨_, .curly⟩
  · rintro ⟨_, _ | _ | _⟩ <;> rfl

theorem Matches.isOpening_eq_false (h : Matches opening closing) : isOpening closing = false := by
  cases h <;> rfl

theorem isBracket_iff :
    isBracket c = true ↔ (∃ closing, Matches c closing) ∨ ∃ opening, Matches opening c := by
  rw [isBracket, Bool.or_eq_true, isOpening_iff, Option.isSome_iff_exists]
  simp only [opening?_eq_some_iff]

/-! ## One bracket -/

theorem bracket_of_opens (h : Matches c closing) (number : Nat) (pending : Pending) :
    bracket number pending c = .ok ((c, number) :: pending) := by
  rw [bracket, if_pos (isOpening_iff.2 ⟨closing, h⟩)]

theorem bracket_of_closes (h : Matches opening c) (number line : Nat) (outer : Pending) :
    bracket number ((opening, line) :: outer) c = .ok outer := by
  rw [bracket, if_neg (by simp [h.isOpening_eq_false]), opening?_eq_some_iff.2 h]
  simp

/-- A bracket that is in order opens another level or closes the innermost one. -/
theorem cases_of_bracket_eq_ok (hc : isBracket c = true)
    (h : bracket number pending c = .ok next) :
    (∃ closing, Matches c closing ∧ next = (c, number) :: pending) ∨
      ∃ opening line, Matches opening c ∧ pending = (opening, line) :: next := by
  rcases isBracket_iff.1 hc with ⟨closing, hpair⟩ | ⟨opening, hpair⟩
  · rw [bracket_of_opens hpair] at h
    exact .inl ⟨closing, hpair, (Except.ok.inj h).symm⟩
  · rw [bracket, if_neg (by simp [hpair.isOpening_eq_false]), opening?_eq_some_iff.2 hpair] at h
    simp only at h
    split at h
    · split at h
      · rename_i hinnermost
        rw [hinnermost, Except.ok.inj h]
        exact .inr ⟨opening, _, hpair, rfl⟩
      · cases h
    · cases h

theorem eq_unbalanced_of_bracket_eq_error {error : CheckError}
    (h : bracket number pending c = .error error) :
    (∃ opening, Matches opening c) ∧ error = .unbalanced c number := by
  rw [bracket] at h
  split at h
  · cases h
  · split at h
    · cases h
    · rename_i opening hopening
      have hpair := opening?_eq_some_iff.1 hopening
      split at h
      · split at h
        · cases h
        · exact ⟨⟨opening, hpair⟩, (Except.error.inj h).symm⟩
      · exact ⟨⟨opening, hpair⟩, (Except.error.inj h).symm⟩

/-! ## Runs over marked brackets -/

abbrev Marks := List (Char × Nat)

def Marks.word (marks : Marks) : List Char :=
  marks.map Prod.fst

def track (pending : Pending) (marks : Marks) : Except CheckError Pending :=
  marks.foldlM (fun pending mark => bracket mark.2 pending mark.1) pending

variable {marks before after : Marks}

theorem track_append (pending : Pending) (before after : Marks) :
    track pending (before ++ after) = track pending before >>= fun next => track next after := by
  rw [track, List.foldlM_append]
  rfl

theorem track_cons (pending : Pending) (mark : Char × Nat) (after : Marks) :
    track pending (mark :: after) =
      bracket mark.2 pending mark.1 >>= fun next => track next after := by
  rw [track, List.foldlM_cons]
  rfl

theorem track_append_of_eq_ok (h : track pending before = .ok next) (after : Marks) :
    track pending (before ++ after) = track next after := by
  rw [track_append, h]
  rfl

theorem track_cons_of_opens (h : Matches opening closing) (line : Nat) (pending : Pending)
    (after : Marks) :
    track pending ((opening, line) :: after) = track ((opening, line) :: pending) after := by
  rw [track_cons, bracket_of_opens h]
  rfl

theorem track_of_balanced (h : Balanced marks.word) (pending : Pending) :
    track pending marks = .ok pending := by
  generalize hword : marks.word = word at h
  induction h generalizing marks pending with
  | nil =>
      rw [List.map_eq_nil_iff.1 hword]
      rfl
  | append _ _ ihfirst ihsecond =>
      obtain ⟨before, after, rfl, hbefore, hafter⟩ := List.map_eq_append_iff.1 hword
      rw [track_append_of_eq_ok (ihfirst pending hbefore), ihsecond pending hafter]
  | @within a b inner hpair _ ih =>
      obtain ⟨front, last, rfl, hfront, hlast⟩ := List.map_eq_append_iff.1 hword
      obtain ⟨⟨opening, line⟩, middle, rfl, rfl, hmiddle⟩ := List.map_eq_cons_iff.1 hfront
      obtain ⟨⟨closing, stop⟩, rfl, rfl⟩ := List.map_eq_singleton_iff.1 hlast
      have hclose : track ((opening, line) :: pending) [(closing, stop)] = .ok pending := by
        rw [track_cons, bracket_of_closes hpair]
        rfl
      rw [List.cons_append, track_cons_of_opens hpair, track_append_of_eq_ok (ih _ hmiddle), hclose]

/-! ## The brackets that are open -/

/-- The pending brackets, innermost first, stand in a word with balanced words between them. -/
inductive Opens : Pending → Marks → Prop
  | balanced {marks : Marks} (h : Balanced marks.word) : Opens [] marks
  | within {outer : Pending} {before after : Marks} {opening closing : Char} {line : Nat}
    (hbefore : Opens outer before) (hpair : Matches opening closing)
    (hafter : Balanced after.word) :
    Opens ((opening, line) :: outer) (before ++ (opening, line) :: after)

theorem opens_nil_iff : Opens [] marks ↔ Balanced marks.word := by
  constructor
  · intro h
    cases h with
    | balanced h => exact h
  · exact .balanced

namespace Opens

theorem append (h : Opens pending before) (hafter : Balanced after.word) :
    Opens pending (before ++ after) := by
  cases h with
  | balanced hbefore =>
      refine .balanced ?_
      rw [Marks.word, List.map_append]
      exact WellNested.append hbefore hafter
  | within hbefore hpair hinner =>
      rw [List.append_assoc, List.cons_append]
      refine .within hbefore hpair ?_
      rw [Marks.word, List.map_append]
      exact WellNested.append hinner hafter

theorem close {outer : Pending} {line : Nat} (h : Opens ((opening, line) :: outer) marks)
    (hpair : Matches opening closing) (stop : Nat) : Opens outer (marks ++ [(closing, stop)]) := by
  cases h with
  | within hbefore _ hinner =>
      rw [List.append_assoc]
      refine hbefore.append ?_
      rw [Marks.word, List.map_append]
      exact WellNested.within hpair hinner

theorem exists_closers (h : Opens pending marks) :
    ∃ closers : List Char, (∀ c ∈ closers, ∃ opening, Matches opening c) ∧
      Balanced (marks.word ++ closers) := by
  induction h with
  | balanced h => exact ⟨[], nofun, by rwa [List.append_nil]⟩
  | @within outer before after opening closing line _ hpair hafter ih =>
      obtain ⟨closers, hclosers, hbalanced⟩ := ih
      refine ⟨closing :: closers, List.forall_mem_cons.2 ⟨⟨opening, hpair⟩, hclosers⟩, ?_⟩
      have hinserted := hbalanced.insert (hafter.within hpair)
      rw [Marks.word] at hinserted ⊢
      simpa [Marks.word] using hinserted

theorem track_eq_ok (h : Opens pending marks) : track [] marks = .ok pending := by
  induction h with
  | balanced h => exact track_of_balanced h []
  | @within outer before after opening closing line _ hpair hafter ih =>
      rw [track_append_of_eq_ok ih, track_cons_of_opens hpair]
      exact track_of_balanced hafter ((opening, line) :: outer)

end Opens

theorem opens_of_track_eq_ok (hmarks : ∀ mark ∈ marks, isBracket mark.1 = true)
    (h : track [] marks = .ok pending) : Opens pending marks := by
  induction marks using List.reverseRecOn generalizing pending with
  | nil =>
      obtain rfl := Except.ok.inj h
      exact .balanced .nil
  | append_singleton marks mark ih =>
      obtain ⟨c, line⟩ := mark
      rw [track_append] at h
      obtain ⟨middle, hmiddle, hlast⟩ := exists_of_bind_eq_ok h
      have hopens := ih (fun mark hmark => hmarks mark (by simp [hmark])) hmiddle
      have hbracket : bracket line middle c = .ok pending := by
        rw [track_cons] at hlast
        obtain ⟨last, hbracket, heq⟩ := exists_of_bind_eq_ok hlast
        rw [hbracket, ← Except.ok.inj heq]
      rcases cases_of_bracket_eq_ok (hmarks (c, line) (by simp)) hbracket with
        ⟨closing, hpair, rfl⟩ | ⟨opening, start, hpair, rfl⟩
      · exact .within hopens hpair .nil
      · exact hopens.close hpair line

theorem track_eq_ok_iff (hmarks : ∀ mark ∈ marks, isBracket mark.1 = true) :
    track [] marks = .ok pending ↔ Opens pending marks :=
  ⟨opens_of_track_eq_ok hmarks, Opens.track_eq_ok⟩

/-- The run goes through as long as a balanced word can begin with what it has seen. -/
theorem canNest_iff (hmarks : ∀ mark ∈ marks, isBracket mark.1 = true) :
    CanNest Matches marks.word ↔ ∃ pending, track [] marks = .ok pending := by
  constructor
  · rintro ⟨rest, hbalanced⟩
    have hword : (marks ++ rest.map (·, 0)).word = marks.word ++ rest := by
      simp [Marks.word, Function.comp_def]
    rw [← hword] at hbalanced
    have hrun := track_of_balanced hbalanced []
    rw [track_append] at hrun
    obtain ⟨pending, hpending, -⟩ := exists_of_bind_eq_ok hrun
    exact ⟨pending, hpending⟩
  · rintro ⟨pending, h⟩
    obtain ⟨closers, -, hbalanced⟩ := (opens_of_track_eq_ok hmarks h).exists_closers
    exact ⟨closers, hbalanced⟩

end OptionBindings.Check
