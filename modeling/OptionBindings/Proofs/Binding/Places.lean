import OptionBindings.Proofs.Binding.Brackets
import OptionBindings.Proofs.Binding.Forms

/-!
# The places of a text

The check reads the brackets of a line and then its declaration, one line after the other. It goes
through all these places if their brackets are in order and their declarations are sound.
-/

namespace OptionBindings.Check

open Text

inductive Place
  | bracket (c : Char) (line : Nat)
  | constant (identifier value : List Char) (line : Nat)

namespace Place

def mark? : Place → Option (Char × Nat)
  | bracket c line => some (c, line)
  | constant _ _ _ => none

def check (pending : Pending) : Place → Except CheckError Pending
  | bracket c line => Check.bracket line pending c
  | constant identifier value line =>
    if !Identifier.accepts identifier then .error (.invalidIdentifier identifier line)
    else if !isInitializer (trim value) then .error (.invalidInitializer value line)
    else .ok pending

def ofLine (number : Nat) (line : List Char) : List Place :=
  ((code line).filter isBracket).map (bracket · number) ++
    (constant? (code line)).toList.map fun declared => constant declared.1 declared.2 number

end Place

def placesFrom : Nat → List (List Char) → List Place
  | _, [] => []
  | number, line :: rest => Place.ofLine number line ++ placesFrom (number + 1) rest

def places (text : List Char) : List Place :=
  placesFrom 1 (Text.lines text)

def marks (places : List Place) : Marks :=
  places.filterMap Place.mark?

variable {number : Nat} {pending next : Pending} {text identifier value : List Char}
  {items before after : List Place} {place : Place}

theorem marks_append (before after : List Place) :
    marks (before ++ after) = marks before ++ marks after :=
  List.filterMap_append

/-! ## Reading place by place -/

theorem brackets_eq_foldlM (number : Nat) (pending : Pending) (text : List Char) :
    brackets number pending text =
      ((text.filter isBracket).map (Place.bracket · number)).foldlM Place.check pending := by
  rw [List.foldlM_map]
  induction text generalizing pending with
  | nil => rfl
  | cons c text ih =>
      rw [brackets_cons]
      cases hc : isBracket c with
      | false =>
          rw [List.filter_cons_of_neg (by simp [hc]), bracket_of_not_isBracket hc]
          exact ih pending
      | true =>
          rw [List.filter_cons_of_pos hc, List.foldlM_cons]
          exact congrArg _ (funext ih)

theorem line_eq_foldlM (number : Nat) (pending : Pending) (line : List Char) :
    Check.line number pending line = (Place.ofLine number line).foldlM Place.check pending := by
  rw [Check.line, Place.ofLine, List.foldlM_append, ← brackets_eq_foldlM]
  congr 1
  funext next
  rw [constant]
  cases hconstant : constant? (code line) with
  | none => rfl
  | some declared =>
      obtain ⟨identifier, value⟩ := declared
      simp only [Option.toList_some, List.map_singleton, List.foldlM_cons, List.foldlM_nil, bind_pure,
        Place.check]
      split
      · rfl
      · split <;> rfl

theorem lines_eq_foldlM (number : Nat) (pending : Pending) (lines : List (List Char)) :
    Check.lines number pending lines = (placesFrom number lines).foldlM Place.check pending := by
  induction lines generalizing number pending with
  | nil => rfl
  | cons line lines ih =>
      rw [Check.lines, placesFrom, List.foldlM_append, ← line_eq_foldlM]
      cases Check.line number pending line with
      | error error => rfl
      | ok next => exact ih (number + 1) next

/-! ## Whole texts -/

def visit (items : List Place) : Except CheckError Pending :=
  items.foldlM Place.check []

theorem visit_append (before after : List Place) :
    visit (before ++ after) = visit before >>= fun pending => after.foldlM Place.check pending :=
  List.foldlM_append

/-- The verdict at the end of a text. -/
def finish : Except CheckError Pending → Except CheckError Unit
  | .error error => .error error
  | .ok [] => .ok ()
  | .ok ((bracket, line) :: _) => .error (.unclosed bracket line)

theorem source_eq_finish (text : List Char) : source text = finish (visit (places text)) := by
  rw [source, lines_eq_foldlM]
  rfl

theorem finish_eq_ok_iff {result : Except CheckError Pending} :
    finish result = .ok () ↔ result = .ok [] := by
  constructor
  · intro h
    cases result with
    | error error => cases h
    | ok pending =>
        cases pending with
        | nil => rfl
        | cons innermost outer => cases h
  · rintro rfl
    rfl

/-! ## What places are like -/

/-- The place is that of a bracket, or of a declaration without line feeds. -/
def Place.IsRegular : Place → Prop
  | bracket c _ => isBracket c = true
  | constant identifier value _ => '\n' ∉ identifier ∧ '\n' ∉ value

theorem Place.isRegular_of_mem_ofLine {line : List Char} (hline : '\n' ∉ line)
    (h : place ∈ ofLine number line) : place.IsRegular := by
  have hcode : '\n' ∉ code line := fun hmem => hline ((isCut_code line).subset hmem)
  rcases List.mem_append.1 h with h | h
  · obtain ⟨c, hc, rfl⟩ := List.mem_map.1 h
    exact (List.mem_filter.1 hc).2
  · obtain ⟨⟨identifier, value⟩, hmem, rfl⟩ := List.mem_map.1 h
    have hdeclared := constant?_eq_some_iff.1 (Option.mem_toList.1 hmem)
    exact ⟨fun hfeed => hcode (hdeclared.identifier_subset hfeed),
      fun hfeed => hcode (hdeclared.value_subset hfeed)⟩

theorem isRegular_of_mem_placesFrom {lines : List (List Char)} (hlines : ∀ line ∈ lines, '\n' ∉ line)
    (h : place ∈ placesFrom number lines) : place.IsRegular := by
  induction lines generalizing number with
  | nil => cases h
  | cons line lines ih =>
      rcases List.mem_append.1 h with h | h
      · exact Place.isRegular_of_mem_ofLine (hlines line (by simp)) h
      · exact ih (fun other hother => hlines other (by simp [hother])) h

theorem isRegular_of_mem_places (h : place ∈ places text) : place.IsRegular := by
  refine isRegular_of_mem_placesFrom (fun line hline hfeed => ?_) h
  exact absurd (isLineEnd_of_mem_lines hline '\n' hfeed) (by decide)

theorem isBracket_of_mem_marks (hregular : ∀ place ∈ items, place.IsRegular) :
    ∀ mark ∈ marks items, isBracket mark.1 = true := by
  intro mark hmark
  obtain ⟨place, hplace, heq⟩ := List.mem_filterMap.1 hmark
  cases place with
  | bracket c line =>
      cases heq
      exact hregular _ hplace
  | constant => cases heq

/-! ## Declarations among places -/

def Place.IsSound : Place → Prop
  | bracket _ _ => True
  | constant identifier value _ => Check.IsSound identifier value

theorem check_constant_eq_ok_iff (hidentifier : '\n' ∉ identifier) (hvalue : '\n' ∉ value)
    {line : Nat} :
    Place.check pending (.constant identifier value line) = .ok next ↔
      Check.IsSound identifier value ∧ pending = next := by
  have hinitializer := isInitializer_iff fun hmem => hvalue (trim_subset value hmem)
  rw [Check.IsSound, ← Identifier.accepts_iff_of_feed_not_mem hidentifier, ← hinitializer,
    Place.check]
  cases Identifier.accepts identifier <;> cases isInitializer (trim value) <;> simp

theorem check_constant_eq_error_iff (hidentifier : '\n' ∉ identifier) (hvalue : '\n' ∉ value)
    {line : Nat} {error : CheckError} :
    Place.check pending (.constant identifier value line) = .error error ↔
      ¬ Identifier.IsValid identifier ∧ error = .invalidIdentifier identifier line ∨
        Identifier.IsValid identifier ∧ ¬ IsInitializer (trim value) ∧
          error = .invalidInitializer value line := by
  have hinitializer := isInitializer_iff fun hmem => hvalue (trim_subset value hmem)
  rw [← Identifier.accepts_iff_of_feed_not_mem hidentifier, ← hinitializer, Place.check]
  cases Identifier.accepts identifier <;> cases isInitializer (trim value) <;> simp [eq_comm]

/-- The check goes through places whose brackets are in order and whose declarations are sound. -/
theorem foldlM_check_eq_ok_iff (hregular : ∀ place ∈ items, place.IsRegular) :
    items.foldlM Place.check pending = .ok next ↔
      track pending (marks items) = .ok next ∧ ∀ place ∈ items, place.IsSound := by
  induction items generalizing pending with
  | nil => simp [marks, track]
  | cons place rest ih =>
      have hrest : ∀ other ∈ rest, other.IsRegular := fun other hother => hregular other (by simp [hother])
      rw [List.foldlM_cons, List.forall_mem_cons]
      cases place with
      | bracket c line =>
          have hmarks : marks (.bracket c line :: rest) = (c, line) :: marks rest := rfl
          rw [hmarks, track_cons, Place.check, Place.IsSound, true_and]
          cases bracket line pending c with
          | error error => simp [bind, Except.bind]
          | ok opened => exact ih hrest
      | constant identifier value line =>
          obtain ⟨hidentifier, hvalue⟩ := hregular (.constant identifier value line) (by simp)
          have hmarks : marks (.constant identifier value line :: rest) = marks rest := rfl
          rw [hmarks, Place.IsSound]
          constructor
          · intro h
            obtain ⟨opened, hopened, hfold⟩ := exists_of_bind_eq_ok h
            obtain ⟨hsound, rfl⟩ := (check_constant_eq_ok_iff hidentifier hvalue).1 hopened
            obtain ⟨htrack, hall⟩ := (ih hrest).1 hfold
            exact ⟨htrack, hsound, hall⟩
          · rintro ⟨htrack, hsound, hall⟩
            rw [(check_constant_eq_ok_iff hidentifier hvalue).2 ⟨hsound, rfl⟩]
            exact (ih hrest).2 ⟨htrack, hall⟩

end OptionBindings.Check
