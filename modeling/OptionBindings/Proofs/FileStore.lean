import OptionBindings.FileStore

/-!
# What stands where

Where a path leads depends on the directories of a store and on nothing else in it.
-/

namespace OptionBindings.FileStore

def home? (store : FileStore) (directory : Path) : Option Location :=
  (store.locate? directory).filter store.isDirectoryAt

structure SameDirectories (first second : FileStore) : Prop where
  current : first.current = second.current
  isDirectoryAt : ∀ location, first.isDirectoryAt location = second.isDirectoryAt location

theorem SameDirectories.refl (store : FileStore) : SameDirectories store store :=
  ⟨rfl, fun _ => rfl⟩

theorem SameDirectories.trans {first second third : FileStore} (h : SameDirectories first second)
    (h' : SameDirectories second third) : SameDirectories first third :=
  ⟨h.current.trans h'.current,
    fun location => (h.isDirectoryAt location).trans (h'.isDirectoryAt location)⟩

theorem SameDirectories.locate? {first second : FileStore} (h : SameDirectories first second)
    (path : Path) : first.locate? path = second.locate? path := by
  unfold FileStore.locate?
  rw [h.current]
  simp only [h.isDirectoryAt]

theorem SameDirectories.home? {first second : FileStore} (h : SameDirectories first second)
    (directory : Path) : first.home? directory = second.home? directory := by
  have hdirectories : first.isDirectoryAt = second.isDirectoryAt := funext h.isDirectoryAt
  rw [FileStore.home?, FileStore.home?, h.locate?, hdirectories]

/-- From one store to the other only files have changed, at none but the given locations. -/
structure ChangesOnly (touched : Location → Prop) (before after : FileStore) : Prop where
  directories : SameDirectories after before
  node? : ∀ location, ¬ touched location → after.node? location = before.node? location

theorem ChangesOnly.refl (touched : Location → Prop) (store : FileStore) :
    ChangesOnly touched store store :=
  ⟨.refl store, fun _ _ => rfl⟩

theorem ChangesOnly.trans {touched : Location → Prop} {first second third : FileStore}
    (h : ChangesOnly touched first second) (h' : ChangesOnly touched second third) :
    ChangesOnly touched first third :=
  ⟨h'.directories.trans h.directories,
    fun location hnot => (h'.node? location hnot).trans (h.node? location hnot)⟩

variable {store : FileStore} {location : Location}

theorem changesOnly_put (h : store.isDirectoryAt location = false) (content : ByteArray) :
    ChangesOnly (· = location) store (store.put location (.file content)) := by
  refine ⟨⟨rfl, fun other => ?_⟩, fun other hother => ?_⟩
  · by_cases hother : other = location
    · rw [hother, h, isDirectoryAt, node?_put, if_pos rfl]
      simp
    · rw [isDirectoryAt, isDirectoryAt, node?_put, if_neg hother]
  · rw [node?_put, if_neg hother]

end OptionBindings.FileStore
