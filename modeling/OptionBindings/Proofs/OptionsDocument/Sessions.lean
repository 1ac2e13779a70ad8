import OptionBindings.Proofs.OptionsDocument.Outcome

/-!
# Sessions with readers

A session makes readers, gives them listeners, changes files and lets readers read, in any order. No
call leaves a trace in a later one but that a stream is closed: a reader keeps the fault of its last
call alone, reads a file as if it was new, and refuses to read bytes or a stream again.
-/

namespace OptionBindings

namespace OptionsReader

/-! ## One call -/

theorem source_read (reader : OptionsReader) (store : FileStore) :
    (reader.read store).1.source = sourceAfter reader.source := by
  unfold read
  cases reader.content store with
  | error error => rfl
  | ok content =>
      cases hproblem : (Xml.Document.read content).problem <;> simp [hproblem]

theorem read_of_content_error {reader : OptionsReader} {store : FileStore} {error : ReadError}
    (h : reader.content store = .error error) :
    (reader.read store).2.outcome = .error error ∧ (reader.read store).2.events = [] := by
  unfold read
  rw [h]
  exact ⟨rfl, rfl⟩

/-- What a call says and how it ends depends on nothing but what there is to be read. -/
theorem read_congr {reader other : OptionsReader} {store : FileStore}
    (h : reader.content store = other.content store) :
    (reader.read store).2.outcome = (other.read store).2.outcome ∧
      (reader.read store).2.events = (other.read store).2.events := by
  cases hcontent : other.content store with
  | error error =>
      obtain ⟨houtcome, hevents⟩ := read_of_content_error hcontent
      obtain ⟨houtcome', hevents'⟩ := read_of_content_error (h.trans hcontent)
      exact ⟨houtcome'.trans houtcome.symm, hevents'.trans hevents.symm⟩
  | ok content =>
      have hreader := h.trans hcontent
      unfold ReadResult.events
      rw [outcome_read hreader, outcome_read hcontent, reports_read hreader, reports_read hcontent]
      exact ⟨rfl, rfl⟩

theorem content_of_file {reader : OptionsReader} {path : Path} (h : reader.source = .file path)
    (store : FileStore) :
    reader.content store =
      match store.read path with
      | .ok content => .ok content.data.toList
      | .error error => .error (.failure (.source path.toString (error.message [path]))) := by
  cases reader
  cases h
  rfl

theorem content_ne_document {reader : OptionsReader} {store : FileStore} {reason : String}
    {line column : Option Int} :
    reader.content store ≠ .error (.failure (.document reason line column)) := by
  unfold content
  split
  · simp
  · simp
  · split <;> simp

theorem faultOf_eq_some_iff {error : ReadError} {failure : Failure} :
    faultOf error = some failure ↔
      (∃ reason line column, failure = .document reason line column) ∧
        error = .failure failure := by
  unfold faultOf
  split
  · constructor
    · intro h
      obtain rfl := Option.some.inj h
      exact ⟨⟨_, _, _, rfl⟩, rfl⟩
    · rintro ⟨-, h⟩
      rw [ReadError.failure.inj h]
  · rename_i hother
    constructor
    · nofun
    · rintro ⟨⟨reason, line, column, rfl⟩, h⟩
      exact absurd h (hother reason line column)

/-- A reader keeps the error of a call if and only if it is a fault of the document. -/
theorem fault_read_eq_some_iff (reader : OptionsReader) (store : FileStore) (failure : Failure) :
    (reader.read store).1.fault = some failure ↔
      (∃ reason line column, failure = .document reason line column) ∧
        (reader.read store).2.outcome = .error (.failure failure) := by
  cases hcontent : reader.content store with
  | error error =>
      have hfault : (reader.read store).1.fault = none := by
        unfold read
        rw [hcontent]
      rw [hfault, (read_of_content_error hcontent).1]
      constructor
      · nofun
      · rintro ⟨⟨reason, line, column, rfl⟩, h⟩
        rw [Except.error.inj h] at hcontent
        exact absurd hcontent content_ne_document
  | ok content =>
      rw [fault_read hcontent, outcome_read hcontent]
      cases (Xml.Document.read content).problem with
      | none => simp
      | some problem => simp [faultOf_eq_some_iff]

end OptionsReader

namespace Session

inductive Origin
  | bytes (content : List UInt8)
  /-- A stream with what it still holds, or a closed one. -/
  | stream (left : Option (List UInt8))
  | file (path : Path)

def Origin.reader (store : FileStore) : Origin → Except Failure OptionsReader
  | bytes content => .ok (.ofBytes content)
  | stream (some content) => .ok (.ofBytes content)
  | stream none => .ok { source := .spent }
  | file path => OptionsReader.ofPath store path

structure Call where
  /-- The files at the time of the call. -/
  store : FileStore
  listener : Option Nat
  /-- What the listener hears. -/
  events : List Event
  outcome : Except ReadError Unit

structure Member where
  origin : Origin
  reader : OptionsReader
  listener : Option Nat := none
  calls : List Call := []

def Member.call (member : Member) (store : FileStore) : Call :=
  let result := (member.reader.read store).2
  { store
    listener := member.listener
    events := if member.listener.isSome then result.events else []
    outcome := result.outcome }

def Member.read (store : FileStore) (member : Member) : Member :=
  { member with
    reader := (member.reader.read store).1
    calls := member.calls ++ [member.call store] }

/-- Somebody else closes the stream. -/
def Member.closeStream (member : Member) : Member :=
  match member.origin with
  | .stream _ => { member with reader.source := .spent }
  | _ => member

inductive Step
  | create (origin : Origin)
  | attach (member listener : Nat)
  | detach (member : Nat)
  /-- Files are written or removed. -/
  | changeFiles (store : FileStore)
  | closeStream (member : Nat)
  | read (member : Nat)

end Session

structure Session where
  store : FileStore
  members : List Session.Member := []

namespace Session

def change (session : Session) (index : Nat) (f : Member → Member) : Session :=
  { session with members := session.members.modify index f }

def step (session : Session) : Step → Session
  | .create origin =>
    match origin.reader session.store with
    | .ok reader => { session with members := session.members ++ [{ origin, reader }] }
    | .error _ => session
  | .attach index listener =>
    session.change index fun member => { member with listener := some listener }
  | .detach index => session.change index fun member => { member with listener := none }
  | .changeFiles store => { session with store }
  | .closeStream index => session.change index Member.closeStream
  | .read index => session.change index (Member.read session.store)

def run (session : Session) (steps : List Step) : Session :=
  steps.foldl step session

/-! ## What is said of calls -/

namespace Call

/-- The call ends as a call of the reader at the same time, and tells a listener the same. -/
def IsAsOf (call : Call) (reader : OptionsReader) : Prop :=
  call.outcome = (reader.read call.store).2.outcome ∧
    call.events = if call.listener.isSome then (reader.read call.store).2.events else []

def IsRefused (call : Call) : Prop :=
  call.outcome = .error .closed ∧ call.events = []

/-- The call reads the file that there is at the time, as a new reader does. -/
structure IsOfFile (call : Call) (path : Path) : Prop where
  content : ∀ content, call.store.read path = .ok content →
    call.IsAsOf (.ofBytes content.data.toList)
  anew : ∀ reader, OptionsReader.ofPath call.store path = .ok reader → call.IsAsOf reader
  gone : ∀ error, call.store.read path = .error error →
    call.outcome = .error (.failure (.source path.toString (error.message [path]))) ∧
      call.events = []

/-- The first of some calls goes in some way, and all others are refused. -/
def Once (first : Call → Prop) (calls : List Call) : Prop :=
  (∀ call ∈ calls.head?, first call) ∧ ∀ call ∈ calls.tail, call.IsRefused

theorem once_nil (first : Call → Prop) : Once first [] := by
  simp [Once]

theorem Once.concat {first : Call → Prop} {calls : List Call} (h : Once first calls) {call : Call}
    (hfirst : calls = [] → first call) (hlater : calls ≠ [] → call.IsRefused) :
    Once first (calls ++ [call]) := by
  cases calls with
  | nil => simpa [Once] using hfirst rfl
  | cons earliest calls =>
      refine ⟨h.1, ?_⟩
      intro other hother
      rcases List.mem_append.1 hother with hother | hother
      · exact h.2 other hother
      · rw [List.mem_singleton.1 hother]
        exact hlater (List.cons_ne_nil _ _)

end Call

namespace Member

def KeepsLastFault (member : Member) : Prop :=
  ∀ failure, member.reader.fault = some failure ↔
    (∃ reason line column, failure = .document reason line column) ∧
      ∃ call, member.calls.getLast? = some call ∧ call.outcome = .error (.failure failure)

def CallsSuit (member : Member) : Prop :=
  match member.origin with
  | .bytes content => Call.Once (·.IsAsOf (.ofBytes content)) member.calls
  | .stream left =>
    Call.Once (fun call => call.IsRefused ∨ ∃ content ∈ left, call.IsAsOf (.ofBytes content))
      member.calls
  | .file path => ∀ call ∈ member.calls, call.IsOfFile path

def HasSource (member : Member) : Prop :=
  match member.origin with
  | .bytes content =>
    member.reader.source = if member.calls = [] then .bytes content else .spent
  | .stream left =>
    member.reader.source = .spent ∨
      member.calls = [] ∧ ∃ content ∈ left, member.reader.source = .bytes content
  | .file path => member.reader.source = .file path

/-! ## One call of a member -/

theorem events_call (member : Member) (store : FileStore) :
    (member.call store).events =
      if member.listener.isSome then (member.reader.read store).2.events else [] :=
  rfl

theorem isAsOf_call {member : Member} {store : FileStore} {reader : OptionsReader}
    (h : member.reader.content store = reader.content store) :
    (member.call store).IsAsOf reader := by
  obtain ⟨houtcome, hevents⟩ := OptionsReader.read_congr h
  refine ⟨houtcome, ?_⟩
  rw [events_call, hevents]
  rfl

theorem isAsOf_call_of_source {member : Member} {reader : OptionsReader}
    (h : member.reader.source = reader.source) (store : FileStore) :
    (member.call store).IsAsOf reader := by
  apply isAsOf_call
  unfold OptionsReader.content
  rw [h]

theorem call_of_content_error {member : Member} {store : FileStore} {error : ReadError}
    (h : member.reader.content store = .error error) :
    (member.call store).outcome = .error error ∧ (member.call store).events = [] := by
  obtain ⟨houtcome, hevents⟩ := OptionsReader.read_of_content_error h
  refine ⟨houtcome, ?_⟩
  rw [events_call, hevents, ite_self]

theorem isRefused_call {member : Member} (h : member.reader.source = .spent) (store : FileStore) :
    (member.call store).IsRefused := by
  apply call_of_content_error
  unfold OptionsReader.content
  rw [h]

theorem isOfFile_call {member : Member} {path : Path} (h : member.reader.source = .file path)
    (store : FileStore) : (member.call store).IsOfFile path where
  content content hread := by
    replace hread : store.read path = .ok content := hread
    apply isAsOf_call
    rw [OptionsReader.content_of_file h, hread]
    rfl
  anew reader hreader := by
    replace hreader : OptionsReader.ofPath store path = .ok reader := hreader
    apply isAsOf_call_of_source
    unfold OptionsReader.ofPath at hreader
    split at hreader
    · obtain rfl := Except.ok.inj hreader
      exact h
    · cases hreader
  gone error hread := by
    replace hread : store.read path = .error error := hread
    apply call_of_content_error
    rw [OptionsReader.content_of_file h, hread]

/-! ## What a member keeps -/

theorem source_read (member : Member) (store : FileStore) :
    (member.read store).reader.source = OptionsReader.sourceAfter member.reader.source :=
  OptionsReader.source_read member.reader store

theorem calls_read (member : Member) (store : FileStore) :
    (member.read store).calls = member.calls ++ [member.call store] :=
  rfl

theorem keepsLastFault_read (member : Member) (store : FileStore) :
    (member.read store).KeepsLastFault := by
  intro failure
  rw [calls_read, List.getLast?_concat]
  simp only [Option.some.injEq, exists_eq_left']
  exact OptionsReader.fault_read_eq_some_iff member.reader store failure

theorem hasSource_read {member : Member} (h : member.HasSource) (store : FileStore) :
    (member.read store).HasSource := by
  have horigin : (member.read store).origin = member.origin := rfl
  have hcalls : (member.read store).calls ≠ [] := by simp [calls_read]
  unfold HasSource at h ⊢
  rw [horigin, source_read]
  cases hmember : member.origin with
  | bytes content =>
      simp only [hmember] at h
      simp only [if_neg hcalls, h]
      split <;> rfl
  | stream left =>
      simp only [hmember] at h
      rcases h with h | ⟨-, content, -, h⟩
      · exact .inl (by rw [h]; rfl)
      · exact .inl (by rw [h]; rfl)
  | file path =>
      simp only [hmember] at h
      simp only [h]
      rfl

theorem callsSuit_read {member : Member} (hsource : member.HasSource) (h : member.CallsSuit)
    (store : FileStore) : (member.read store).CallsSuit := by
  have horigin : (member.read store).origin = member.origin := rfl
  unfold HasSource at hsource
  unfold CallsSuit at h ⊢
  rw [horigin, calls_read]
  cases hmember : member.origin with
  | bytes content =>
      simp only [hmember] at h hsource ⊢
      apply h.concat
      · intro hcalls
        rw [if_pos hcalls] at hsource
        exact isAsOf_call_of_source hsource store
      · intro hcalls
        rw [if_neg hcalls] at hsource
        exact isRefused_call hsource store
  | stream left =>
      simp only [hmember] at h hsource ⊢
      rcases hsource with hsource | ⟨hcalls, content, hcontent, hsource⟩
      · have hrefused := isRefused_call hsource store
        exact h.concat (fun _ => .inl hrefused) fun _ => hrefused
      · have hfirst : (member.call store).IsAsOf (.ofBytes content) :=
          isAsOf_call_of_source hsource store
        exact h.concat (fun _ => .inr ⟨content, hcontent, hfirst⟩) fun hne => absurd hcalls hne
  | file path =>
      simp only [hmember] at h hsource ⊢
      intro call hcall
      rcases List.mem_append.1 hcall with hcall | hcall
      · exact h call hcall
      · rw [List.mem_singleton.1 hcall]
        exact isOfFile_call hsource store

structure IsSound (member : Member) : Prop where
  fault : member.KeepsLastFault
  source : member.HasSource
  calls : member.CallsSuit

theorem IsSound.read {member : Member} (h : member.IsSound) (store : FileStore) :
    (member.read store).IsSound :=
  ⟨keepsLastFault_read member store, hasSource_read h.source store,
    callsSuit_read h.source h.calls store⟩

theorem IsSound.closeStream {member : Member} (h : member.IsSound) : member.closeStream.IsSound := by
  obtain ⟨origin, reader, listener, calls⟩ := member
  cases origin with
  | bytes content => exact h
  | stream left => exact ⟨h.fault, .inl rfl, h.calls⟩
  | file path => exact h

theorem isSound_new {store : FileStore} {origin : Origin} {reader : OptionsReader}
    (h : origin.reader store = .ok reader) : IsSound { origin, reader } := by
  have hfault : reader.fault = none → KeepsLastFault { origin, reader } := by
    intro hnone failure
    simp [hnone]
  cases origin with
  | bytes content =>
      obtain rfl := Except.ok.inj h
      exact ⟨hfault rfl, rfl, Call.once_nil _⟩
  | stream left =>
      cases left with
      | none =>
          obtain rfl := Except.ok.inj h
          exact ⟨hfault rfl, .inl rfl, Call.once_nil _⟩
      | some content =>
          obtain rfl := Except.ok.inj h
          exact ⟨hfault rfl, .inr ⟨rfl, content, rfl, rfl⟩, Call.once_nil _⟩
  | file path =>
      replace h : OptionsReader.ofPath store path = .ok reader := h
      unfold OptionsReader.ofPath at h
      split at h
      · obtain rfl := Except.ok.inj h
        exact ⟨hfault rfl, rfl, fun call hcall => absurd hcall List.not_mem_nil⟩
      · cases h

end Member

/-! ## Runs -/

theorem forall_mem_change {session : Session} {p : Member → Prop} {f : Member → Member}
    (hf : ∀ member, p member → p (f member)) (h : ∀ member ∈ session.members, p member)
    (index : Nat) : ∀ member ∈ (session.change index f).members, p member := by
  intro member hmember
  obtain ⟨place, hplace, rfl⟩ := List.mem_iff_getElem.1 hmember
  have hold : place < session.members.length := by
    simpa only [change, List.length_modify] using hplace
  have hbefore := h _ (List.getElem_mem hold)
  simp only [change, List.getElem_modify]
  split
  · exact hf _ hbefore
  · exact hbefore

theorem isSound_step {session : Session} (h : ∀ member ∈ session.members, member.IsSound)
    (step : Step) : ∀ member ∈ (session.step step).members, member.IsSound := by
  cases step with
  | create origin =>
      unfold Session.step
      cases horigin : origin.reader session.store with
      | error failure => simpa [horigin] using h
      | ok reader =>
          simp only [horigin]
          intro member hmember
          rcases List.mem_append.1 hmember with hmember | hmember
          · exact h member hmember
          · rw [List.mem_singleton.1 hmember]
            exact Member.isSound_new horigin
  | attach index listener =>
      exact forall_mem_change (fun _ hmember => ⟨hmember.fault, hmember.source, hmember.calls⟩) h index
  | detach index =>
      exact forall_mem_change (fun _ hmember => ⟨hmember.fault, hmember.source, hmember.calls⟩) h index
  | changeFiles store => exact h
  | closeStream index => exact forall_mem_change (fun _ hmember => hmember.closeStream) h index
  | read index => exact forall_mem_change (fun _ hmember => hmember.read session.store) h index

theorem isSound_run {session : Session} (h : ∀ member ∈ session.members, member.IsSound)
    (steps : List Step) : ∀ member ∈ (session.run steps).members, member.IsSound := by
  induction steps generalizing session with
  | nil => exact h
  | cons step steps ih => exact ih (isSound_step h step)

/-- At any time of any session, a reader keeps the error of its last call if and only if that is a
fault of the document, and all its calls have gone as what it is made from lets them. -/
theorem keepsLastFault_run (store : FileStore) (steps : List Step) :
    ∀ member ∈ (run { store } steps).members, member.KeepsLastFault ∧ member.CallsSuit := by
  intro member hmember
  have hnew : ∀ member ∈ ({ store } : Session).members, member.IsSound :=
    fun member hmember => absurd hmember List.not_mem_nil
  have hsound := isSound_run hnew steps member hmember
  exact ⟨hsound.fault, hsound.calls⟩

def storeOf (text : String) : FileStore :=
  (FileStore.empty []).addFile ⟨.relative, ["f"]⟩ text.toUTF8

/-- A file is malformed when it is read first and mended before it is read again. -/
def mendingSteps : List Step :=
  [.create (.file ⟨.relative, ["f"]⟩), .attach 0 0, .read 0, .changeFiles (storeOf "<Scope/>"),
    .read 0]

theorem keepsLastFault_run_mendingSteps :
    ∃ member ∈ (run { store := storeOf "<Scope>" } mendingSteps).members,
      member.calls.map (·.events) = [[.scopeStart none], [.scopeStart none, .scopeEnd]] ∧
        member.reader.fault = none ∧ member.KeepsLastFault ∧ member.CallsSuit := by
  have hmembers : (run { store := storeOf "<Scope>" } mendingSteps).members.map (fun member =>
      (member.calls.map (·.events), member.reader.fault)) =
        [([[.scopeStart none], [.scopeStart none, .scopeEnd]], none)] := by
    decide +kernel
  obtain ⟨member, hmember, heq⟩ := List.map_eq_singleton_iff.1 hmembers
  obtain ⟨hevents, hfault⟩ := Prod.mk.inj heq
  have hmem : member ∈ (run { store := storeOf "<Scope>" } mendingSteps).members := by
    rw [hmember]
    exact List.mem_singleton_self member
  exact ⟨member, hmem, hevents, hfault, keepsLastFault_run _ _ member hmem⟩

end Session

end OptionBindings
