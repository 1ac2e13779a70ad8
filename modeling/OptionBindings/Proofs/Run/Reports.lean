import OptionBindings.Proofs.OptionsDocument.Outcome
import OptionBindings.Proofs.Run.Isolation
import OptionBindings.Proofs.Xml.EncodingName

/-!
# Problems of a document

A document that cannot be read is reported with a failure of the program's own, and a run ends with a
status, unless the document gives its encoding an unusable name.
-/

namespace OptionBindings

open Xml

theorem problemError_cases (problem : Problem) :
    (∃ reason line column,
        OptionsReader.problemError problem = .failure (.document reason (some line) (some column))) ∨
      ∃ reason, problem = .encoding reason := by
  cases problem with
  | fault fault position => exact .inl ⟨_, _, _, rfl⟩
  | encoding reason => exact .inr ⟨reason, rfl⟩

namespace World

variable {surroundings : Surroundings} {world : World}

/-- Every problem of a document is one that the program reports. -/
structure ReportsProblems (content : List UInt8) : Prop where
  /-- Reading succeeds, or fails with a fault of the document, which the reader keeps. -/
  read : ∀ (reader : OptionsReader) (store : FileStore), reader.content store = .ok content →
    ((reader.read store).2.outcome = .ok () ∧ (reader.read store).1.fault = none) ∨
      ∃ reason line column,
        (reader.read store).2.outcome =
            .error (.failure (.document reason (some line) (some column))) ∧
          (reader.read store).1.fault = some (.document reason (some line) (some column))
  load : (∃ catalog, (Catalog.loadBytes content).outcome = .ok catalog) ∨
    ∃ failure, (Catalog.loadBytes content).outcome = .error (.failure failure)
  /-- A run that has the document as its input file ends with a status, and with 1 if and only if
  no catalog can be loaded. -/
  run : ∀ (world : World) (surroundings : Surroundings) (words : List String) (plan : Plan)
    (file : ByteArray), Plan.ofWords world.current surroundings.environment words = .ok plan →
    world.store.read? (Path.ofString plan.settings.inputFile) = some file →
    file.data.toList = content →
    ((world.run surroundings words).2 = .exit 0 ∨ (world.run surroundings words).2 = .exit 1 ∨
        (world.run surroundings words).2 = .exit 3) ∧
      ((world.run surroundings words).2 = .exit 1 ↔
        ¬∃ catalog, (Catalog.loadBytes content).outcome = .ok catalog)

theorem ending_of_loaded {settings : Settings} {outcome : Except ReadError Catalog}
    (hload : world.loaded settings = outcome)
    (hreported : (∃ catalog, outcome = .ok catalog) ∨ ∃ failure, outcome = .error (.failure failure))
    (scopes : List Scope) :
    ((world.process surroundings settings scopes).2 = .exit 0 ∨
        (world.process surroundings settings scopes).2 = .exit 1 ∨
        (world.process surroundings settings scopes).2 = .exit 3) ∧
      ((world.process surroundings settings scopes).2 = .exit 1 ↔
        ¬∃ catalog, outcome = .ok catalog) := by
  rcases hreported with ⟨catalog, rfl⟩ | ⟨failure, rfl⟩
  · obtain ⟨stderr, hprocess⟩ := process_of_loaded hload surroundings scopes
    rw [hprocess]
    cases (generateAll surroundings settings catalog scopes { world with stderr }).2 <;> simp
  · obtain ⟨stderr, hprocess⟩ := process_of_failure hload surroundings scopes
    rw [hprocess]
    simp

section Usable

variable {content : List UInt8}

theorem exists_document_of_problem
    (husable : ∀ name, Document.encodingName? content = some name → IsUsableName name)
    {problem : Problem} (hproblem : (Document.read content).problem = some problem) :
    ∃ reason line column, OptionsReader.problemError problem =
      .failure (.document reason (some line) (some column)) := by
  rcases problemError_cases problem with hfault | ⟨reason, rfl⟩
  · exact hfault
  · obtain ⟨name, hname, hunusable⟩ :=
      (Document.exists_encoding_problem_iff content).1 ⟨reason, hproblem⟩
    exact absurd (husable name hname) hunusable

theorem loadBytes_reported
    (husable : ∀ name, Document.encodingName? content = some name → IsUsableName name) :
    (∃ catalog, (Catalog.loadBytes content).outcome = .ok catalog) ∨
      ∃ failure, (Catalog.loadBytes content).outcome = .error (.failure failure) := by
  rw [Catalog.outcome_loadBytes]
  cases hproblem : (Document.read content).problem with
  | none => exact .inl ⟨_, rfl⟩
  | some problem =>
      obtain ⟨reason, line, column, hfailure⟩ := exists_document_of_problem husable hproblem
      exact .inr ⟨_, congrArg Except.error hfailure⟩

/-- The reading alone tells an unusable name: its error is no fault of the document. -/
theorem ReportsProblems.isUsableName (h : ReportsProblems content) {name : String}
    (hname : Document.encodingName? content = some name) : IsUsableName name := by
  by_contra hunusable
  obtain ⟨problem, hproblem⟩ :=
    (Document.exists_encoding_problem_iff content).2 ⟨name, hname, hunusable⟩
  have hcontent : (OptionsReader.ofBytes content).content (.empty []) = .ok content := rfl
  have houtcome := OptionsReader.outcome_read hcontent
  rw [hproblem] at houtcome
  rcases h.read (.ofBytes content) (.empty []) rfl with ⟨hok, -⟩ | ⟨reason, line, column, hfault, -⟩
  · cases houtcome.symm.trans hok
  · cases houtcome.symm.trans hfault

end Usable

theorem reportsProblems_iff (content : List UInt8) :
    ReportsProblems content ↔
      ∀ name, Document.encodingName? content = some name → IsUsableName name := by
  refine ⟨fun h name hname => h.isUsableName hname, fun husable => ?_⟩
  have hload := loadBytes_reported husable
  refine ⟨?_, hload, ?_⟩
  · intro reader store hcontent
    rw [OptionsReader.outcome_read hcontent, OptionsReader.fault_read hcontent]
    cases hproblem : (Document.read content).problem with
    | none => exact .inl ⟨rfl, rfl⟩
    | some problem =>
        obtain ⟨reason, line, column, hfailure⟩ := exists_document_of_problem husable hproblem
        refine .inr ⟨reason, line, column, ?_, ?_⟩
        · simp only [hfailure]
        · simp only [Option.bind_some, hfailure, OptionsReader.faultOf]
  · rintro world surroundings words plan file hplan hfile rfl
    have hrun : world.run surroundings words =
        world.process surroundings plan.settings plan.scopes := by
      rw [World.run, hplan]
    rw [hrun]
    exact ending_of_loaded (Catalog.outcome_loadFile hfile) hload plan.scopes

def misnamedDocument : List UInt8 :=
  "<?xml version=\"1.0\" encoding=\"nope\"?><Options/>".toUTF8.data.toList

/-- The unknown name ends the reading with an error that no failure of the program stands for. -/
theorem not_reportsProblems_misnamedDocument : ¬ReportsProblems misnamedDocument := by
  intro h
  have hload : (Catalog.loadBytes misnamedDocument).outcome =
      .error (.encoding (.unknown "nope")) := by
    decide +kernel
  rcases h.load with ⟨catalog, hok⟩ | ⟨failure, hfailure⟩
  · cases hload.symm.trans hok
  · cases hload.symm.trans hfailure

end World

end OptionBindings
