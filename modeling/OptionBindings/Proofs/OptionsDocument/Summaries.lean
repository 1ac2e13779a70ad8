import OptionBindings.Proofs.Except
import OptionBindings.Proofs.OptionsDocument.PairedEvents
import OptionBindings.Proofs.OptionsDocument.Sessions

/-!
# Summaries of readings

A call that succeeds tells the log how many scopes and options have been seen. The counts belong to the
reader and run on from call to call, whether a call succeeds, fails half way or has no listener, so the
record of a call is that of its own document if and only if no earlier call of the reader came to the
start of a scope or of an option.
-/

namespace OptionBindings

open Xml

theorem countStarts_append (element : String) (first second : List Tag) :
    countStarts element (first ++ second) =
      countStarts element first + countStarts element second :=
  List.countP_append

namespace OptionsReader

/-! ## One call -/

/-- A call counts the tags that it comes to, however it ends. -/
theorem counts_read (reader : OptionsReader) (store : FileStore) :
    (reader.read store).1.scopes = reader.scopes + countStarts "Scope" (reader.tags store) ∧
      (reader.read store).1.options =
        reader.options + countStarts "Option" (reader.tags store) := by
  rw [read, tags]
  cases reader.content store with
  | error error => exact ⟨rfl, rfl⟩
  | ok content => cases hproblem : (Document.read content).problem <;> simp [hproblem]

/-- The counts of a reader are those of the starts of scopes and options among some tags. -/
structure HasCounted (reader : OptionsReader) (tags : List Tag) : Prop where
  scopes : reader.scopes = countStarts "Scope" tags
  options : reader.options = countStarts "Option" tags

theorem HasCounted.read {reader : OptionsReader} {tags : List Tag} (h : reader.HasCounted tags)
    (store : FileStore) : (reader.read store).1.HasCounted (tags ++ reader.tags store) := by
  obtain ⟨hscopes, hoptions⟩ := counts_read reader store
  constructor
  · rw [hscopes, h.scopes, countStarts_append]
  · rw [hoptions, h.options, countStarts_append]

/-- A call that succeeds tells the log how many scopes and options start among some tags. -/
def Records (reader : OptionsReader) (store : FileStore) (tags : List Tag) : Prop :=
  (reader.read store).2.outcome = .ok () →
    (reader.read store).2.closing =
      [.documentRead (countStarts "Scope" tags) (countStarts "Option" tags)]

variable {reader : OptionsReader} {earlier : List Tag}

theorem HasCounted.records (h : reader.HasCounted earlier) (store : FileStore) :
    reader.Records store (earlier ++ reader.tags store) := by
  intro houtcome
  rw [closing_read houtcome, h.scopes, h.options, countStarts_append, countStarts_append]

theorem HasCounted.records_own_iff (h : reader.HasCounted earlier) (store : FileStore) :
    reader.Records store (reader.tags store) ↔
      ((reader.read store).2.outcome = .ok () →
        countStarts "Scope" earlier = 0 ∧ countStarts "Option" earlier = 0) := by
  apply forall_congr'
  intro houtcome
  rw [h.records store houtcome, countStarts_append, countStarts_append]
  simp

end OptionsReader

namespace Session

open OptionsReader

/-! ## Sessions -/

def tagsIn (session : Session) (index : Nat) : Step → List Tag
  | .read reading =>
    if reading = index then
      (session.members[index]?).elim [] fun member => member.reader.tags session.store
    else []
  | _ => []

def seen (index : Nat) : Session → List Step → List Tag
  | _, [] => []
  | session, step :: steps => session.tagsIn index step ++ seen index (session.step step) steps

/-- A reader of the session has counted some tags. One that is not made yet has counted none. -/
def Counts (session : Session) (index : Nat) (tags : List Tag) : Prop :=
  match session.members[index]? with
  | some member => member.reader.HasCounted tags
  | none => tags = []

theorem counts_iff_of_some {session : Session} {index : Nat} {member : Member}
    (h : session.members[index]? = some member) (tags : List Tag) :
    session.Counts index tags ↔ member.reader.HasCounted tags := by
  rw [Counts, h]

theorem counts_iff_of_none {session : Session} {index : Nat} (h : session.members[index]? = none)
    (tags : List Tag) : session.Counts index tags ↔ tags = [] := by
  rw [Counts, h]

theorem getElem?_change (session : Session) (changed index : Nat) (f : Member → Member) :
    (session.change changed f).members[index]? =
      (session.members[index]?).map fun member => if changed = index then f member else member := by
  rw [change, List.getElem?_modify]
  rfl

theorem reader_eq_of_ok {store : FileStore} {origin : Origin} {reader : OptionsReader}
    (h : origin.reader store = .ok reader) : reader = { source := reader.source } := by
  cases origin with
  | bytes content =>
      obtain rfl := Except.ok.inj h
      rfl
  | stream left =>
      cases left with
      | none =>
          obtain rfl := Except.ok.inj h
          rfl
      | some content =>
          obtain rfl := Except.ok.inj h
          rfl
  | file path =>
      replace h : OptionsReader.ofPath store path = .ok reader := h
      unfold OptionsReader.ofPath at h
      split at h
      · obtain rfl := Except.ok.inj h
        rfl
      · cases h

theorem counts_step_create {session : Session} {index : Nat} {tags : List Tag}
    (h : session.Counts index tags) (origin : Origin) :
    (session.step (.create origin)).Counts index tags := by
  rw [Session.step]
  cases horigin : origin.reader session.store with
  | error failure => exact h
  | ok reader =>
      unfold Counts at h ⊢
      rcases Nat.lt_trichotomy index session.members.length with hlt | rfl | hgt
      · rw [List.getElem?_append_left hlt]
        exact h
      · rw [List.getElem?_eq_none (Nat.le_refl _)] at h
        rw [List.getElem?_concat_length, h, reader_eq_of_ok horigin]
        exact ⟨rfl, rfl⟩
      · rw [List.getElem?_eq_none (by omega)] at h
        rw [List.getElem?_eq_none (by simp; omega)]
        exact h

theorem counts_change {session : Session} {index : Nat} {tags : List Tag}
    (h : session.Counts index tags) {f : Member → Member}
    (hf : ∀ member, member.reader.HasCounted tags → (f member).reader.HasCounted tags)
    (changed : Nat) : (session.change changed f).Counts index tags := by
  have hchange := getElem?_change session changed index f
  cases hmember : session.members[index]? with
  | none =>
      rw [hmember] at hchange
      rw [counts_iff_of_none hmember] at h
      exact (counts_iff_of_none hchange tags).2 h
  | some member =>
      rw [hmember] at hchange
      rw [counts_iff_of_some hmember] at h
      rw [counts_iff_of_some hchange]
      split
      · exact hf member h
      · exact h

theorem counts_step_read {session : Session} {index : Nat} {tags : List Tag}
    (h : session.Counts index tags) (reading : Nat) :
    (session.step (.read reading)).Counts index (tags ++ session.tagsIn index (.read reading)) := by
  have hchange := getElem?_change session reading index (Member.read session.store)
  rw [Session.step, tagsIn]
  cases hmember : session.members[index]? with
  | none =>
      rw [hmember] at hchange
      rw [counts_iff_of_none hmember] at h
      rw [counts_iff_of_none hchange, h, Option.elim_none, ite_self]
      rfl
  | some member =>
      rw [hmember] at hchange
      rw [counts_iff_of_some hmember] at h
      rw [counts_iff_of_some hchange, Option.elim_some]
      split
      · exact h.read session.store
      · rw [List.append_nil]
        exact h

theorem hasCounted_closeStream {member : Member} {tags : List Tag}
    (h : member.reader.HasCounted tags) : member.closeStream.reader.HasCounted tags := by
  unfold Member.closeStream
  split
  · exact ⟨h.scopes, h.options⟩
  · exact h

theorem counts_step {session : Session} {index : Nat} {tags : List Tag}
    (h : session.Counts index tags) (step : Step) :
    (session.step step).Counts index (tags ++ session.tagsIn index step) := by
  cases step with
  | read reading => exact counts_step_read h reading
  | create origin =>
      simp only [tagsIn, List.append_nil]
      exact counts_step_create h origin
  | attach changed listener =>
      simp only [tagsIn, List.append_nil]
      refine counts_change h ?_ changed
      exact fun _ hmember => ⟨hmember.scopes, hmember.options⟩
  | detach changed =>
      simp only [tagsIn, List.append_nil]
      refine counts_change h ?_ changed
      exact fun _ hmember => ⟨hmember.scopes, hmember.options⟩
  | changeFiles store =>
      simp only [tagsIn, List.append_nil]
      exact h
  | closeStream changed =>
      simp only [tagsIn, List.append_nil]
      exact counts_change h (fun _ hmember => hasCounted_closeStream hmember) changed

theorem counts_run {session : Session} {index : Nat} {tags : List Tag}
    (h : session.Counts index tags) (steps : List Step) :
    (session.run steps).Counts index (tags ++ seen index session steps) := by
  induction steps generalizing session tags with
  | nil =>
      rw [seen, List.append_nil]
      exact h
  | cons step steps ih =>
      rw [seen, ← List.append_assoc]
      exact ih (counts_step h step)

/-- At any time of any session, a call of a reader that succeeds records the tags of all documents that
the reader has come to so far. So it records those of its own document alone if and only if no scope and
no option starts in what the reader came to before. -/
theorem records_run_iff (store : FileStore) (steps : List Step) (index : Nat) :
    ∀ member ∈ (run { store } steps).members[index]?,
      member.reader.Records (run { store } steps).store
          (seen index { store } steps ++ member.reader.tags (run { store } steps).store) ∧
        (member.reader.Records (run { store } steps).store
            (member.reader.tags (run { store } steps).store) ↔
          ((member.reader.read (run { store } steps).store).2.outcome = .ok () →
            countStarts "Scope" (seen index { store } steps) = 0 ∧
              countStarts "Option" (seen index { store } steps) = 0)) := by
  intro member hmember
  have hnew : ({ store } : Session).Counts index [] := rfl
  have hcounted := (counts_iff_of_some hmember _).1 (counts_run hnew steps)
  rw [List.nil_append] at hcounted
  exact ⟨hcounted.records _, hcounted.records_own_iff _⟩

/-- A file is read half way, and is mended before it is read again. -/
def resumedSteps : List Step :=
  [.create (.file ⟨.relative, ["f"]⟩), .read 0, .changeFiles (storeOf "<Scope/>")]

theorem records_run_iff_resumedSteps :
    ∃ member ∈ (run { store := storeOf "<Scope><Option/>" } resumedSteps).members[0]?,
      (member.reader.read (storeOf "<Scope/>")).2.closing = [.documentRead 2 1] ∧
        ¬ member.reader.Records (storeOf "<Scope/>") (member.reader.tags (storeOf "<Scope/>")) := by
  have hstore : (run { store := storeOf "<Scope><Option/>" } resumedSteps).store =
      storeOf "<Scope/>" := rfl
  have hseen : seen 0 { store := storeOf "<Scope><Option/>" } resumedSteps =
      [.start "Scope" [], .start "Option" [], .finish "Option"] := by
    decide +kernel
  have hnow : (run { store := storeOf "<Scope><Option/>" } resumedSteps).members[0]?.map
      (fun member => ((member.reader.read (storeOf "<Scope/>")).2.outcome.toOption,
        member.reader.tags (storeOf "<Scope/>"))) =
        some (some (), [.start "Scope" [], .finish "Scope"]) := by
    decide +kernel
  obtain ⟨member, hmember, heq⟩ := Option.map_eq_some_iff.1 hnow
  obtain ⟨hok, htags⟩ := Prod.mk.inj heq
  have houtcome := eq_ok_of_toOption_eq_some hok
  obtain ⟨hrecords, hown⟩ := records_run_iff _ _ 0 member hmember
  rw [hstore, hseen] at hrecords hown
  refine ⟨member, hmember, ?_, ?_⟩
  · rw [hrecords houtcome, htags]
    decide
  · rw [hown]
    intro h
    exact absurd (h houtcome).1 (by decide)

def readOnceSteps : List Step :=
  [.create (.file ⟨.relative, ["f"]⟩), .read 0]

/-- A file that is read once more has its scopes counted twice. -/
theorem not_records_readOnceSteps :
    ¬ ∀ (steps : List Step) (index : Nat),
      ∀ member ∈ (run { store := storeOf "<Scope/>" } steps).members[index]?,
        member.reader.Records (run { store := storeOf "<Scope/>" } steps).store
          (member.reader.tags (run { store := storeOf "<Scope/>" } steps).store) := by
  intro h
  have hnow : (run { store := storeOf "<Scope/>" } readOnceSteps).members[0]?.map (fun member =>
      ((member.reader.read (storeOf "<Scope/>")).2.outcome.toOption,
        (member.reader.read (storeOf "<Scope/>")).2.closing,
        member.reader.tags (storeOf "<Scope/>"))) =
        some (some (), [.documentRead 2 0], [.start "Scope" [], .finish "Scope"]) := by
    decide +kernel
  obtain ⟨member, hmember, heq⟩ := Option.map_eq_some_iff.1 hnow
  obtain ⟨hok, hrest⟩ := Prod.mk.inj heq
  obtain ⟨hclosing, htags⟩ := Prod.mk.inj hrest
  have hrecords := h readOnceSteps 0 member hmember
  have hstore : (run { store := storeOf "<Scope/>" } readOnceSteps).store = storeOf "<Scope/>" := rfl
  rw [hstore, htags, OptionsReader.Records, hclosing] at hrecords
  exact absurd (hrecords (eq_ok_of_toOption_eq_some hok)) (by decide)

end Session

end OptionBindings
