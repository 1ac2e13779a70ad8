import OptionBindings.Emission
import OptionBindings.Proofs.FileStore
import OptionBindings.Proofs.Scope

/-!
# What writing a text changes

The file of a scope and the temporary file beside it are all that writing its text touches. What is
left there depends on what stood there, on the directories of the store and on the steps that fail,
so no scope is in the way of another.
-/

namespace OptionBindings

open FileStore

namespace History

/-- No state differs from the first store but in files at the given locations. -/
structure ChangesOnly (touched : Location → Prop) (store : FileStore) (history : History) : Prop where
  first : history.states.getLast? = some store
  states : ∀ state ∈ history.states, FileStore.ChangesOnly touched store state

variable {touched more : Location → Prop} {store : FileStore} {history : History}

theorem ChangesOnly.start (touched : Location → Prop) (store : FileStore) :
    ChangesOnly touched store ⟨store, []⟩ :=
  ⟨rfl, fun _ hstate => List.mem_singleton.1 hstate ▸ .refl touched store⟩

theorem ChangesOnly.now (h : history.ChangesOnly touched store) :
    FileStore.ChangesOnly touched store history.now :=
  h.states history.now List.mem_cons_self

theorem ChangesOnly.move (h : history.ChangesOnly touched store) {next : FileStore}
    (hnext : FileStore.ChangesOnly touched history.now next) :
    (history.move next).ChangesOnly touched store := by
  refine ⟨?_, fun state hstate => ?_⟩
  · exact (List.getLast?_cons_cons).trans h.first
  · rcases List.mem_cons.1 hstate with rfl | hstate
    · exact h.now.trans hnext
    · exact h.states state hstate

end History

/-- No step but the last one, which removes what is left, fails by the will of the system. -/
def Faults.goThrough (faults : Faults) : Bool :=
  faults.opening.isNone && faults.writing.isNone && faults.replacing.isNone

namespace Emission

/-! ## The locations of a scope -/

variable {faults : Faults} {store other : FileStore} {text : String} {directory : Path}
  {scope : Scope} {home location : Location}

/-- What stands in the place of the temporary file when a writing has failed, before it is removed. -/
def leftBehind (faults : Faults) (content : ByteArray) (before : Option Node) : Option Node :=
  if faults.opening.isSome || before = some .directory then before
  else some (.file (faults.writing.elim content (·.1)))

variable {history : History} {content : ByteArray} {targetAt temporaryAt : Location}

def isFree (faults : Faults) (store : FileStore) (targetAt temporaryAt : Location) : Bool :=
  faults.goThrough && (!store.isDirectoryAt temporaryAt && !store.isDirectoryAt targetAt)

/-- How a writing ends: it fails and cleans up, or the temporary file takes the place of its target. -/
inductive Ends (faults : Faults) (store : FileStore) (content : ByteArray)
    (targetAt temporaryAt : Location) : History × Except String Unit → Prop
  | failed {left : History} (reason : String) (hleft : left.ChangesOnly (· = temporaryAt) store)
    (hbehind : left.now.node? temporaryAt =
      leftBehind faults content (store.node? temporaryAt))
    (hfree : isFree faults store targetAt temporaryAt = false) :
    Ends faults store content targetAt temporaryAt
      (cleanUp faults temporaryAt left, .error reason)
  | done {left : History} (hleft : left.ChangesOnly (· = temporaryAt) store)
    (hfree : isFree faults store targetAt temporaryAt = true) :
    Ends faults store content targetAt temporaryAt
      (left.move ((left.now.erase temporaryAt).put targetAt (.file content)), .ok ())

theorem ends_write (faults : Faults) (store : FileStore) (content : ByteArray) (home : Location)
    (target temporary : Path) (targetName temporaryName : String) :
    Ends faults store content (home ++ [targetName]) (home ++ [temporaryName])
      (write faults ⟨store, []⟩ content home target temporary targetName temporaryName) := by
  have hstart := History.ChangesOnly.start (· = home ++ [temporaryName]) store
  unfold write
  simp only
  cases hopening : faults.opening with
  | some error =>
      exact .failed _ hstart (by simp [leftBehind, hopening])
        (by simp [isFree, Faults.goThrough, hopening])
  | none =>
      rw [Option.elim_none, openFile]
      cases htemporary : store.isDirectoryAt (home ++ [temporaryName]) with
      | true =>
          have hnode : store.node? (home ++ [temporaryName]) = some .directory := by
            simpa [isDirectoryAt] using htemporary
          exact .failed _ hstart (by simp [leftBehind, hnode]) (by simp [isFree, htemporary])
      | false =>
          rw [if_neg Bool.false_ne_true]
          have hnode : store.node? (home ++ [temporaryName]) ≠ some .directory := by
            simpa [isDirectoryAt] using htemporary
          have hopened := hstart.move (changesOnly_put htemporary .empty)
          have hfile := (hopened.now.directories.isDirectoryAt _).trans htemporary
          cases hwriting : faults.writing with
          | some failure =>
              obtain ⟨part, error⟩ := failure
              refine .failed _ (hopened.move (changesOnly_put hfile part)) ?_
                (by simp [isFree, Faults.goThrough, hwriting])
              rw [History.move, node?_put, if_pos rfl]
              simp [leftBehind, hopening, hwriting, hnode]
          | none =>
              have hwritten := hopened.move (changesOnly_put hfile content)
              have hbehind : ((store.put (home ++ [temporaryName]) (.file .empty)).put
                  (home ++ [temporaryName]) (.file content)).node? (home ++ [temporaryName]) =
                    leftBehind faults content (store.node? (home ++ [temporaryName])) := by
                rw [node?_put, if_pos rfl]
                simp [leftBehind, hopening, hwriting, hnode]
              cases hreplacing : faults.replacing with
              | some error =>
                  exact .failed _ hwritten hbehind (by simp [isFree, Faults.goThrough, hreplacing])
              | none =>
                  have hsame := hwritten.now.directories.isDirectoryAt (home ++ [targetName])
                  simp only [Option.elim_none, replaceFile, hsame]
                  cases htarget : store.isDirectoryAt (home ++ [targetName]) with
                  | true => exact .failed _ hwritten hbehind (by simp [isFree, htarget])
                  | false => exact .done hwritten (by
                      simp [isFree, Faults.goThrough, hopening, hwriting, hreplacing, htemporary,
                        htarget])

/-! ## What stands where afterwards -/

theorem Ends.isOk {outcome : Except String Unit}
    (h : Ends faults store content targetAt temporaryAt (history, outcome)) :
    outcome.isOk = isFree faults store targetAt temporaryAt := by
  cases h with
  | failed reason hleft hbehind hfree => exact hfree.symm
  | done hleft hfree => exact hfree.symm

def reported (target : Path) : Except String Unit → Except Failure Path
  | .ok () => .ok target
  | .error reason => .error (.emission target reason)

theorem ends_run (faults : Faults) (text : String) (scope : Scope)
    (hhome : store.home? directory = some home) :
    ∃ outcome, Ends faults store text.toUTF8 (home ++ [scope.fileName])
        (home ++ [scope.temporaryName]) ((run faults store text directory scope).1, outcome) ∧
      (run faults store text directory scope).2 = reported (target directory scope) outcome := by
  have hends := ends_write faults store text.toUTF8 home (target directory scope)
    (temporary (target directory scope)) scope.fileName scope.temporaryName
  rw [home?] at hhome
  rw [run, hhome]
  rw [Scope.temporaryName] at hends ⊢
  simp only
  generalize write _ _ _ _ _ _ _ _ = written at hends ⊢
  obtain ⟨history, outcome⟩ := written
  refine ⟨outcome, ?_, ?_⟩
  · cases outcome <;> exact hends
  · cases outcome <;> rfl

end Emission

end OptionBindings
