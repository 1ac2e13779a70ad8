import OptionBindings.Proofs.Binding.Legibility
import OptionBindings.Proofs.Binding.Verdict
import OptionBindings.Proofs.Run.Turns

/-!
# Verdicts on joined texts

Behind a text that passes and ends its last line, another one is judged as by itself, with all lines
counted further. Any error but that of an unclosed bracket is final, and closing brackets are all that
a text with such a bracket lacks.
-/

namespace OptionBindings

def CheckError.shift (count : Nat) : CheckError → CheckError
  | unbalanced bracket line => unbalanced bracket (line + count)
  | invalidIdentifier identifier line => invalidIdentifier identifier (line + count)
  | invalidInitializer value line => invalidInitializer value (line + count)
  | unclosed bracket line => unclosed bracket (line + count)

def CheckError.isUnclosed : CheckError → Bool
  | unclosed _ _ => true
  | _ => false

namespace Check

open Text

variable {first second : List Char} {before after : List Place} {pending : Pending}
  {error : CheckError}

/-! ## Lines further down -/

def Pending.shift (count : Nat) (pending : Pending) : Pending :=
  pending.map fun (bracket, line) => (bracket, line + count)

def shiftResult (count : Nat) : Except CheckError Pending → Except CheckError Pending
  | .error error => .error (error.shift count)
  | .ok pending => .ok (pending.shift count)

def Place.shift (count : Nat) : Place → Place
  | bracket c line => bracket c (line + count)
  | constant identifier value line => constant identifier value (line + count)

theorem bracket_shift (count number : Nat) (pending : Pending) (c : Char) :
    Check.bracket (number + count) (pending.shift count) c =
      shiftResult count (Check.bracket number pending c) := by
  rw [bracket, bracket]
  split
  · rfl
  · cases opening? c with
    | none => rfl
    | some opening =>
        cases pending with
        | nil => rfl
        | cons innermost outer =>
            simp only [Pending.shift, List.map_cons]
            split <;> rfl

theorem check_shift (count : Nat) (pending : Pending) (place : Place) :
    (place.shift count).check (pending.shift count) = shiftResult count (place.check pending) := by
  cases place with
  | bracket c line => exact bracket_shift count line pending c
  | constant identifier value line =>
      simp only [Place.shift, Place.check]
      split
      · rfl
      · split <;> rfl

theorem foldlM_check_shift (count : Nat) (pending : Pending) (items : List Place) :
    (items.map (Place.shift count)).foldlM Place.check (pending.shift count) =
      shiftResult count (items.foldlM Place.check pending) := by
  induction items generalizing pending with
  | nil => rfl
  | cons place items ih =>
      rw [List.map_cons, List.foldlM_cons, List.foldlM_cons, check_shift]
      cases place.check pending with
      | error error => rfl
      | ok next => exact ih next

theorem ofLine_add (number count : Nat) (line : List Char) :
    Place.ofLine (number + count) line = (Place.ofLine number line).map (Place.shift count) := by
  simp only [Place.ofLine, List.map_append, List.map_map]
  rfl

theorem placesFrom_add (number count : Nat) (lines : List (List Char)) :
    placesFrom (number + count) lines = (placesFrom number lines).map (Place.shift count) := by
  induction lines generalizing number with
  | nil => rfl
  | cons line lines ih =>
      rw [placesFrom, placesFrom, List.map_append, ofLine_add, Nat.add_right_comm, ih]

theorem finish_shiftResult (count : Nat) (result : Except CheckError Pending) :
    finish (shiftResult count result) = (finish result).mapError (CheckError.shift count) := by
  cases result with
  | error error => rfl
  | ok pending => cases pending <;> rfl

/-! ## Joined texts -/

theorem placesFrom_append (number : Nat) (earlier later : List (List Char)) :
    placesFrom number (earlier ++ later) =
      placesFrom number earlier ++ placesFrom (number + earlier.length) later := by
  induction earlier generalizing number with
  | nil => rfl
  | cons line earlier ih =>
      rw [List.cons_append, placesFrom, placesFrom, ih, List.append_assoc, List.length_cons,
        Nat.add_right_comm, Nat.add_assoc]

theorem places_append (h : EndsLine first) (second : List Char) :
    places (first ++ second) =
      places first ++ (places second).map (Place.shift (Text.lines first).length) := by
  rw [places, Text.lines_append h, placesFrom_append, placesFrom_add]
  rfl

theorem source_append_of_eq_ok (h : EndsLine first) (hfirst : source first = .ok ())
    (second : List Char) :
    source (first ++ second) =
      (source second).mapError (CheckError.shift (Text.lines first).length) := by
  rw [source_eq_finish, finish_eq_ok_iff] at hfirst
  rw [source_eq_finish, source_eq_finish, places_append h, visit_append, hfirst,
    ← finish_shiftResult, visit, ← foldlM_check_shift]
  rfl

/-- No place is reported as unclosed. -/
theorem isUnclosed_of_visit_eq_error {text : List Char} (h : visit (places text) = .error error) :
    error.isUnclosed = false := by
  obtain ⟨before, place, after, pending, -, -, hoffends⟩ :=
    (visit_eq_error_iff fun _ => isRegular_of_mem_places).1 h
  cases hoffends <;> rfl

/-- An error is reported where it occurs, unless it is that of a bracket that is left open. -/
theorem visit_of_source_eq_error {text : List Char} (h : source text = .error error) :
    visit (places text) = .error error ∧ error.isUnclosed = false ∨
      error.isUnclosed = true ∧ ∃ pending, visit (places text) = .ok pending := by
  rw [source_eq_finish] at h
  cases hvisit : visit (places text) with
  | error other =>
      rw [hvisit] at h
      cases h
      exact .inl ⟨rfl, isUnclosed_of_visit_eq_error hvisit⟩
  | ok pending =>
      rw [hvisit] at h
      cases pending with
      | nil => cases h
      | cons innermost outer =>
          cases h
          exact .inr ⟨rfl, _, rfl⟩

theorem source_append_of_eq_error (h : EndsLine first) (hfirst : source first = .error error)
    (hfinal : error.isUnclosed = false) (second : List Char) :
    source (first ++ second) = .error error := by
  rcases visit_of_source_eq_error hfirst with ⟨hvisit, -⟩ | ⟨hunclosed, -⟩
  · rw [source_eq_finish, places_append h, visit_append, hvisit]
    rfl
  · rw [hfinal] at hunclosed
    cases hunclosed

/-! ## Closing brackets -/

theorem lines_of_onOneLine {text : List Char} (h : OnOneLine text) (hne : text ≠ []) :
    Text.lines text = [text] := by
  have hlines := lines_append_of_onOneLine h hne []
  rw [List.append_nil] at hlines
  simpa [Text.lines] using hlines

section Closers

variable {closers : List Char}

theorem onOneLine_of_closers (h : ∀ c ∈ closers, ∃ opening, Matches opening c) :
    OnOneLine closers := by
  intro c hc
  obtain ⟨opening, hpair⟩ := h c hc
  cases hpair <;> rfl

theorem code_of_closers (h : ∀ c ∈ closers, ∃ opening, Matches opening c) :
    code closers = closers := by
  refine code_eq_self fun hslashes => ?_
  obtain ⟨opening, hpair⟩ := h '/' (hslashes.subset (by simp))
  cases hpair

theorem filter_of_closers (h : ∀ c ∈ closers, ∃ opening, Matches opening c) :
    closers.filter isBracket = closers :=
  List.filter_eq_self.2 fun c hc => isBracket_iff.2 (.inr (h c hc))

theorem not_isDeclaration_of_closers (h : ∀ c ∈ closers, ∃ opening, Matches opening c)
    (identifier value : List Char) : ¬ IsDeclaration closers identifier value := by
  rintro ⟨indent, rfl, -⟩
  obtain ⟨opening, hpair⟩ := h 'p' (by simp)
  cases hpair

theorem flatMap_code_lines_of_closers (h : ∀ c ∈ closers, ∃ opening, Matches opening c) :
    (Text.lines closers).flatMap code = closers := by
  by_cases hne : closers = []
  · rw [hne]
    rfl
  · rw [lines_of_onOneLine (onOneLine_of_closers h) hne, List.flatMap_singleton, code_of_closers h]

theorem eq_of_mem_lines_of_closers (h : ∀ c ∈ closers, ∃ opening, Matches opening c)
    {line : List Char} (hline : line ∈ Text.lines closers) : line = closers := by
  have hne : closers ≠ [] := by
    rintro rfl
    cases hline
  rw [lines_of_onOneLine (onOneLine_of_closers h) hne] at hline
  exact List.mem_singleton.1 hline

end Closers

/-- What is open in a text is closed by closing brackets on a line behind it. -/
theorem source_append_closers (h : EndsLine first) (hfirst : source first = .error error)
    (hunclosed : error.isUnclosed = true) :
    ∃ closers : List Char, (∀ c ∈ closers, ∃ opening, Matches opening c) ∧
      source (first ++ closers) = .ok () := by
  rcases visit_of_source_eq_error hfirst with ⟨-, hfinal⟩ | ⟨-, pending, hvisit⟩
  · rw [hunclosed] at hfinal
    cases hfinal
  · have hregular : ∀ place ∈ places first, place.IsRegular := fun _ => isRegular_of_mem_places
    obtain ⟨closers, hclosers, hbalanced⟩ := (opens_of_visit_eq_ok hregular hvisit).exists_closers
    have hsound := ((foldlM_check_eq_ok_iff hregular).1 hvisit).2
    rw [places, word_marks_placesFrom] at hbalanced
    rw [places, forall_isSound_placesFrom_iff] at hsound
    refine ⟨closers, hclosers, (source_eq_ok_iff _).2 ?_⟩
    rw [Text.lines_append h, List.flatMap_append, List.filter_append,
      flatMap_code_lines_of_closers hclosers, filter_of_closers hclosers]
    refine ⟨hbalanced, fun line hline identifier value hdeclared => ?_⟩
    rcases List.mem_append.1 hline with hline | hline
    · exact hsound line hline identifier value hdeclared
    · rw [eq_of_mem_lines_of_closers hclosers hline, code_of_closers hclosers] at hdeclared
      exact absurd hdeclared (not_isDeclaration_of_closers hclosers identifier value)

/-! ## Texts printed in turn -/

theorem source_append_flatten (h : EndsLine first) (hfirst : source first = .ok ())
    {units : List (List Char)} (hends : ∀ unit ∈ units, EndsLine unit)
    (hunits : ∀ unit ∈ units, source unit = .ok ()) :
    source (first ++ units.flatten) = .ok () := by
  induction units generalizing first with
  | nil => rw [List.flatten_nil, List.append_nil, hfirst]
  | cons unit units ih =>
      have hjoined : source (first ++ unit) = .ok () := by
        rw [source_append_of_eq_ok h hfirst, hunits unit (by simp)]
        rfl
      rw [List.flatten_cons, ← List.append_assoc]
      exact ih (h.append (hends unit (by simp))) hjoined
        (fun other hother => hends other (by simp [hother]))
        (fun other hother => hunits other (by simp [hother]))

end Check

theorem Stream.mem_of_mem_accepted {stream : Stream} {texts : List String} {text : String}
    (h : text ∈ stream.accepted texts) : text ∈ texts := by
  obtain ⟨⟨taken, write⟩, hmem, htaken⟩ := List.mem_filterMap.1 h
  simp only at htaken
  split at htaken
  · cases htaken
  · obtain rfl := Option.some.inj htaken
    exact (List.mem_zipIdx hmem).2.2 ▸ List.getElem_mem _

namespace World

open Text

variable {surroundings : Surroundings} {settings : Settings} {catalog : Catalog}

theorem source_of_mem_texts (hvalidate : settings.validate = true) {issued : Nat}
    {scopes : List Scope} {text : String}
    (h : text ∈ texts surroundings settings catalog issued scopes) :
    EndsLine text.toList ∧ Check.source text.toList = .ok () := by
  obtain ⟨⟨scope, number⟩, -, hrendering⟩ := List.mem_filterMap.1 h
  have hrendered := eq_ok_of_toOption_eq_some hrendering
  rw [rendering, hvalidate] at hrendered
  have hpassed := Render.source_eq_ok_of_checked hrendered
  rw [Render.source_checked, hpassed] at hrendered
  obtain rfl := Except.ok.inj hrendered
  rw [String.toList_ofList]
  exact ⟨Layout.endsLine_file _ _ _, hpassed⟩

/-- What a run prints passes as a whole if each text has to pass by itself. -/
theorem source_written_generateAll (surroundings : Surroundings) (catalog : Catalog)
    (hstdout : settings.stdout = true) (hvalidate : settings.validate = true) (scopes : List Scope)
    {world : World} (hends : EndsLine world.stdout.written.toList)
    (hworld : Check.source world.stdout.written.toList = .ok ()) :
    Check.source (generateAll surroundings settings catalog scopes world).1.stdout.written.toList =
      .ok () := by
  have hunits : ∀ unit ∈ (world.stdout.accepted
      (texts surroundings settings catalog world.issued scopes)).map String.toList,
      EndsLine unit ∧ Check.source unit = .ok () := by
    intro unit hunit
    obtain ⟨text, htext, rfl⟩ := List.mem_map.1 hunit
    exact source_of_mem_texts hvalidate (Stream.mem_of_mem_accepted htext)
  rw [(generateAll_to_stdout surroundings catalog hstdout scopes world).2.1, String.toList_append,
    String.toList_join, List.flatMap_def]
  exact Check.source_append_flatten hends hworld (fun unit hunit => (hunits unit hunit).1)
    (fun unit hunit => (hunits unit hunit).2)

end World

namespace Check

open Text

/-! ## All of it -/

/-- What the verdict on a text says of the verdicts on all texts that begin with it. -/
structure IsCompositional (first : List Char) : Prop where
  /-- The verdict is that on what follows, so many lines further down. -/
  passed : source first = .ok () → ∀ second,
    source (first ++ second) = (source second).mapError (CheckError.shift (Text.lines first).length)
  /-- So what a run with the check adds to it passes again. -/
  printed : source first = .ok () → ∀ (surroundings : Surroundings) (settings : Settings)
    (catalog : Catalog) (scopes : List Scope) (world : World), settings.stdout = true →
      settings.validate = true → world.stdout.written.toList = first →
        source (World.generateAll surroundings settings catalog scopes
          world).1.stdout.written.toList = .ok ()
  /-- Whatever follows, the error stays. -/
  final : ∀ error, source first = .error error → error.isUnclosed = false →
    ∀ second, source (first ++ second) = .error error
  /-- An open bracket is all that is wrong. -/
  closes : ∀ error, source first = .error error → error.isUnclosed = true →
    ∃ closers : List Char, (∀ c ∈ closers, ∃ opening, Matches opening c) ∧
      source (first ++ closers) = .ok ()
  completable : ∀ error second, source first = .error error →
    source (first ++ second) = .ok () → error.isUnclosed = true

theorem isCompositional {first : List Char} (h : EndsLine first) : IsCompositional first where
  passed := source_append_of_eq_ok h
  printed hfirst surroundings settings catalog scopes world hstdout hvalidate hwritten := by
    rw [← hwritten] at h hfirst
    exact World.source_written_generateAll surroundings catalog hstdout hvalidate scopes h hfirst
  final _ := source_append_of_eq_error h
  closes _ := source_append_closers h
  completable error second hfirst hjoined := by
    cases hunclosed : error.isUnclosed with
    | true => rfl
    | false =>
        rw [source_append_of_eq_error h hfirst hunclosed] at hjoined
        cases hjoined

/-- One text lacks a closing brace, and behind another a bracket is counted on the third line. -/
theorem isCompositional_lines :
    EndsLine "extension A \x7b // (\n".toList ∧
      source "extension A \x7b // (\n".toList = .error (.unclosed '\x7b' 1) ∧
      (∃ closers : List Char, (∀ c ∈ closers, ∃ opening, Matches opening c) ∧
        source ("extension A \x7b // (\n".toList ++ closers) = .ok ()) ∧
      EndsLine "f()\r\n\n".toList ∧
      source ("f()\r\n\n".toList ++ "]".toList) = .error (.unbalanced ']' 3) := by
  have hopen : EndsLine "extension A \x7b // (\n".toList := .inr ⟨"extension A \x7b // (".toList, rfl⟩
  have hclosed : EndsLine "f()\r\n\n".toList := .inr ⟨"f()\r\n".toList, rfl⟩
  have hunclosed : source "extension A \x7b // (\n".toList = .error (.unclosed '\x7b' 1) := by
    decide +kernel
  have hpassed : source "f()\r\n\n".toList = .ok () := by decide +kernel
  refine ⟨hopen, hunclosed, (isCompositional hopen).closes _ hunclosed rfl, hclosed, ?_⟩
  rw [(isCompositional hclosed).passed hpassed]
  rfl

end Check

end OptionBindings
