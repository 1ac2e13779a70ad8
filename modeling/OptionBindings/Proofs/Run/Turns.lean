import OptionBindings.Proofs.Emission
import OptionBindings.Run

/-!
# The turns of the scopes

The scopes of a run have their turns one after the other. A turn gives out one identifier, changes
the files of its scope, as far as the system lets it, or adds to the output, and adds to the log;
nothing else goes from one turn to the next.
-/

namespace OptionBindings.World

open Emission FileStore

variable (surroundings : Surroundings) (settings : Settings) (catalog : Catalog)

/-! ## The log -/

theorem log_eq (world : World) (time : String) (threshold : Level) (notice : Notice) :
    ∃ stderr, world.log time threshold notice = { world with stderr } := by
  rw [log]
  split
  · exact ⟨_, rfl⟩
  · exact ⟨world.stderr, rfl⟩

theorem logAll_eq (world : World) (time : String) (threshold : Level) (notices : List Notice) :
    ∃ stderr, world.logAll time threshold notices = { world with stderr } := by
  induction notices generalizing world with
  | nil => exact ⟨world.stderr, rfl⟩
  | cons notice notices ih =>
      obtain ⟨stderr, hlog⟩ := log_eq world time threshold notice
      rw [logAll, List.foldl_cons, hlog]
      exact ih { world with stderr }

/-! ## One turn -/

def imprintOf (uid : String) : Imprint where
  package := settings.package
  copyrightHolder := settings.copyrightHolder
  year := surroundings.year
  uid := uid

/-- What is rendered for a scope with the identifier that is given out under a number. -/
def rendering (number : Nat) (scope : Scope) : Except CheckError String :=
  Render.source (imprintOf surroundings settings (surroundings.uid number)) settings.validate scope
    (catalog.table scope)

def turn (world : World) (scope : Scope) : World :=
  let generated := world.generate surroundings settings catalog scope
  let logged := generated.1.logAll surroundings.time settings.logLevel generated.2.1
  match generated.2.2 with
  | .ok () => logged
  | .error failure =>
    logged.log surroundings.time settings.logLevel (.skippedScope scope failure.message)

/-- The log apart, a turn does no more than to render and write. -/
theorem turn_eq (world : World) (scope : Scope) :
    ∃ stderr, world.turn surroundings settings catalog scope =
      { (world.generate surroundings settings catalog scope).1 with stderr } := by
  obtain ⟨stderr, hlogged⟩ := logAll_eq (world.generate surroundings settings catalog scope).1
    surroundings.time settings.logLevel (world.generate surroundings settings catalog scope).2.1
  rw [turn, hlogged]
  cases (world.generate surroundings settings catalog scope).2.2 with
  | ok => exact ⟨stderr, rfl⟩
  | error failure => exact log_eq _ _ _ _

theorem generateAll_cons_world (scope : Scope) (scopes : List Scope) (world : World) :
    (generateAll surroundings settings catalog (scope :: scopes) world).1 =
      (generateAll surroundings settings catalog scopes
        (world.turn surroundings settings catalog scope)).1 := by
  rw [generateAll, turn]
  obtain ⟨generated, notices, outcome⟩ := world.generate surroundings settings catalog scope
  cases outcome with
  | ok => rfl
  | error failure => rfl

theorem generateAll_cons_failed (scope : Scope) (scopes : List Scope) (world : World) :
    (generateAll surroundings settings catalog (scope :: scopes) world).2 =
      (!(world.generate surroundings settings catalog scope).2.2.isOk ||
        (generateAll surroundings settings catalog scopes
          (world.turn surroundings settings catalog scope)).2) := by
  rw [generateAll, turn]
  obtain ⟨generated, notices, outcome⟩ := world.generate surroundings settings catalog scope
  cases outcome with
  | ok => rfl
  | error failure => rfl

theorem generate_of_rendering_eq_error {world : World} {scope : Scope} {error : CheckError}
    (h : rendering surroundings settings catalog world.issued scope = .error error) :
    world.generate surroundings settings catalog scope =
      ({ world with issued := world.issued + 1 }, [], .error (Render.failure error)) := by
  rw [rendering, imprintOf] at h
  rw [generate, h]

theorem generate_to_stdout {world : World} {scope : Scope} {text : String}
    (hstdout : settings.stdout = true)
    (h : rendering surroundings settings catalog world.issued scope = .ok text) :
    (world.generate surroundings settings catalog scope).1 =
        { world with
          issued := world.issued + 1
          stdout := (world.stdout.emit text).1 } ∧
      (world.generate surroundings settings catalog scope).2.2.isOk =
        (world.stdout.emit text).2.isOk := by
  rw [rendering, imprintOf] at h
  simp only [generate, h, emit, hstdout, if_true]
  cases (world.stdout.emit text).2 with
  | ok => exact ⟨rfl, rfl⟩
  | error failure => exact ⟨rfl, rfl⟩

/-! ## Turns that write files -/

variable {surroundings settings catalog}

end OptionBindings.World

namespace OptionBindings.Stream

/-! ## Texts written in turn -/

/-- The texts that a stream takes of those that are written to it in turn. -/
def accepted (stream : Stream) (texts : List String) : List String :=
  (texts.zipIdx stream.writes).filterMap fun (text, write) =>
    if stream.failing.contains write then none else some text

theorem length_accepted_le (stream : Stream) (texts : List String) :
    (stream.accepted texts).length ≤ texts.length := by
  rw [← List.length_zipIdx (l := texts) (i := stream.writes)]
  exact List.length_filterMap_le _ _

theorem emit_of_failing {stream : Stream} (h : stream.failing.contains stream.writes = true)
    (text : String) :
    (stream.emit text).1 = { stream with writes := stream.writes + 1 } ∧
      (stream.emit text).2.isOk = false := by
  rw [emit, if_pos h]
  exact ⟨rfl, rfl⟩

theorem emit_of_not_failing {stream : Stream} (h : stream.failing.contains stream.writes = false)
    (text : String) :
    (stream.emit text).1 =
        { stream with writes := stream.writes + 1, written := stream.written ++ text } ∧
      (stream.emit text).2.isOk = true := by
  rw [emit, if_neg (by rw [h]; exact Bool.false_ne_true)]
  exact ⟨rfl, rfl⟩

theorem accepted_cons (stream : Stream) (text : String) (texts : List String) :
    stream.accepted (text :: texts) =
      (if stream.failing.contains stream.writes then [] else [text]) ++
        (stream.emit text).1.accepted texts := by
  cases h : stream.failing.contains stream.writes with
  | true =>
      rw [(emit_of_failing h text).1, accepted, List.zipIdx_cons, List.filterMap_cons]
      simp only [h]
      rfl
  | false =>
      rw [(emit_of_not_failing h text).1, accepted, List.zipIdx_cons, List.filterMap_cons]
      simp only [h]
      rfl

end OptionBindings.Stream

namespace OptionBindings.World

variable {surroundings : Surroundings} {settings : Settings} {catalog : Catalog}

/-! ## Runs that print -/

def texts (surroundings : Surroundings) (settings : Settings) (catalog : Catalog) (issued : Nat)
    (scopes : List Scope) : List String :=
  (scopes.zipIdx issued).filterMap fun (scope, number) =>
    (rendering surroundings settings catalog number scope).toOption

theorem length_texts_le (issued : Nat) (scopes : List Scope) :
    (texts surroundings settings catalog issued scopes).length ≤ scopes.length := by
  rw [← List.length_zipIdx (l := scopes) (i := issued)]
  exact List.length_filterMap_le _ _

theorem texts_cons_of_ok {issued : Nat} {scope : Scope} {text : String}
    (h : rendering surroundings settings catalog issued scope = .ok text) (scopes : List Scope) :
    texts surroundings settings catalog issued (scope :: scopes) =
      text :: texts surroundings settings catalog (issued + 1) scopes := by
  rw [texts, List.zipIdx_cons, List.filterMap_cons]
  simp only [h]
  rfl

theorem texts_cons_of_error {issued : Nat} {scope : Scope} {error : CheckError}
    (h : rendering surroundings settings catalog issued scope = .error error) (scopes : List Scope) :
    texts surroundings settings catalog issued (scope :: scopes) =
      texts surroundings settings catalog (issued + 1) scopes := by
  rw [texts, List.zipIdx_cons, List.filterMap_cons]
  simp only [h]
  rfl

/-- A run that prints adds to the output the texts that the output takes, and fails if it takes fewer
of them than there are scopes. -/
theorem generateAll_to_stdout (surroundings : Surroundings) (catalog : Catalog)
    (hstdout : settings.stdout = true) (scopes : List Scope) (world : World) :
    (generateAll surroundings settings catalog scopes world).1.store = world.store ∧
      (generateAll surroundings settings catalog scopes world).1.stdout.written =
        world.stdout.written ++ String.join
          (world.stdout.accepted (texts surroundings settings catalog world.issued scopes)) ∧
      (generateAll surroundings settings catalog scopes world).2 =
        decide ((world.stdout.accepted
          (texts surroundings settings catalog world.issued scopes)).length < scopes.length) := by
  induction scopes generalizing world with
  | nil => exact ⟨rfl, (String.append_empty).symm, rfl⟩
  | cons scope scopes ih =>
      obtain ⟨stderr, hturn⟩ := turn_eq surroundings settings catalog world scope
      obtain ⟨hstore, hwritten, hfailed⟩ := ih (world.turn surroundings settings catalog scope)
      have hle : ∀ (stream : Stream) (issued : Nat),
          (stream.accepted (texts surroundings settings catalog issued scopes)).length ≤
            scopes.length :=
        fun stream issued =>
          Nat.le_trans (stream.length_accepted_le _) (length_texts_le issued scopes)
      rw [generateAll_cons_world, generateAll_cons_failed, hstore, hwritten, hfailed, hturn]
      cases h : rendering surroundings settings catalog world.issued scope with
      | error error =>
          rw [generate_of_rendering_eq_error surroundings settings catalog h,
            texts_cons_of_error h]
          refine ⟨rfl, rfl, ?_⟩
          have hlt : (world.stdout.accepted (texts surroundings settings catalog (world.issued + 1)
              scopes)).length < (scope :: scopes).length :=
            Nat.lt_succ_of_le (hle _ _)
          rw [decide_eq_true hlt]
          rfl
      | ok text =>
          obtain ⟨hgenerated, hok⟩ := generate_to_stdout surroundings settings catalog hstdout h
          rw [hgenerated, hok, texts_cons_of_ok h, Stream.accepted_cons]
          cases hfailing : world.stdout.failing.contains world.stdout.writes with
          | true =>
              obtain ⟨hemitted, hnot⟩ := Stream.emit_of_failing hfailing text
              have hlt := Nat.lt_succ_of_le (hle (world.stdout.emit text).1 (world.issued + 1))
              rw [hnot]
              refine ⟨rfl, ?_, (decide_eq_true hlt).symm⟩
              rw [hemitted]
              rfl
          | false =>
              obtain ⟨hemitted, hok⟩ := Stream.emit_of_not_failing hfailing text
              rw [hok]
              refine ⟨rfl, ?_, ?_⟩
              · rw [hemitted, if_neg Bool.false_ne_true, List.singleton_append, String.join_cons,
                  String.append_assoc]
              · simp

end OptionBindings.World
