import OptionBindings.Proofs.Binding.Places

/-!
# The verdict on a text

The check accepts the texts whose brackets are balanced and whose declarations are sound. Of any other
text it reports the first place that offends, or else the innermost bracket that is not closed.
-/

namespace OptionBindings.Check

open Text

variable {text identifier value : List Char} {items before after : List Place} {place : Place}
  {pending : Pending} {error : CheckError}

/-! ## Offences -/

/-- The place is wrong after the places before it, and the error says why: no balanced word goes on
with its bracket, its identifier is invalid, or else its value is. -/
inductive Offends (before : List Place) : Place → CheckError → Prop
  | unbalanced {opening closing : Char} {line : Nat} (hpair : Matches opening closing)
    (h : ¬ CanNest Matches ((marks before).word ++ [closing])) :
    Offends before (.bracket closing line) (.unbalanced closing line)
  | identifier {identifier value : List Char} {line : Nat} (h : ¬ Identifier.IsValid identifier) :
    Offends before (.constant identifier value line) (.invalidIdentifier identifier line)
  | initializer {identifier value : List Char} {line : Nat} (hvalid : Identifier.IsValid identifier)
    (h : ¬ IsInitializer (trim value)) :
    Offends before (.constant identifier value line) (.invalidInitializer value line)

def NoneOffends (items : List Place) : Prop :=
  ∀ before place after, items = before ++ place :: after → ∀ error, ¬ Offends before place error

/-- Some place offends, and none before it does. -/
def FirstOffence (items : List Place) (error : CheckError) : Prop :=
  ∃ before place after, items = before ++ place :: after ∧ NoneOffends before ∧
    Offends before place error

/-- Behind an opening bracket there is nothing but a balanced word. -/
inductive Unclosed (marks : Marks) : CheckError → Prop
  | intro {before after : Marks} {opening closing : Char} {line : Nat}
    (hmarks : marks = before ++ (opening, line) :: after) (hpair : Matches opening closing)
    (hafter : Balanced after.word) : Unclosed marks (.unclosed opening line)

theorem opens_of_visit_eq_ok (hregular : ∀ place ∈ items, place.IsRegular)
    (h : visit items = .ok pending) : Opens pending (marks items) :=
  opens_of_track_eq_ok (isBracket_of_mem_marks hregular)
    ((foldlM_check_eq_ok_iff hregular).1 h).1

/-- A closing bracket fails if no balanced word goes on with it. -/
theorem bracket_eq_error_iff {c : Char} {line : Nat} (hregular : ∀ place ∈ before, place.IsRegular)
    (hc : isBracket c = true) (h : visit before = .ok pending) :
    bracket line pending c = .error error ↔ Offends before (.bracket c line) error := by
  have hmarks : ∀ mark ∈ marks before ++ [(c, line)], isBracket mark.1 = true := by
    intro mark hmark
    rcases List.mem_append.1 hmark with hmark | hmark
    · exact isBracket_of_mem_marks hregular mark hmark
    · rw [List.mem_singleton.1 hmark]
      exact hc
  have htrack := ((foldlM_check_eq_ok_iff hregular).1 h).1
  have hword : (marks before ++ [(c, line)]).word = (marks before).word ++ [c] := by
    rw [Marks.word, List.map_append]
    rfl
  have hnest := canNest_iff hmarks
  have hrun : track [] (marks before ++ [(c, line)]) = bracket line pending c := by
    rw [track_append_of_eq_ok htrack, track_cons]
    exact bind_pure _
  rw [hword, hrun] at hnest
  constructor
  · intro herror
    obtain ⟨⟨opening, hpair⟩, rfl⟩ := eq_unbalanced_of_bracket_eq_error herror
    refine .unbalanced hpair fun hcan => ?_
    obtain ⟨next, hnext⟩ := hnest.1 hcan
    rw [herror] at hnext
    cases hnext
  · intro hoffends
    cases hoffends with
    | unbalanced hpair hcannot =>
        cases hbracket : bracket line pending c with
        | ok next => exact absurd (hnest.2 ⟨next, hbracket⟩) hcannot
        | error other => rw [(eq_unbalanced_of_bracket_eq_error hbracket).2]

theorem check_eq_error_iff (hregular : ∀ place ∈ before, place.IsRegular) (hplace : place.IsRegular)
    (h : visit before = .ok pending) :
    place.check pending = .error error ↔ Offends before place error := by
  cases place with
  | bracket c line => exact bracket_eq_error_iff hregular hplace h
  | constant identifier value line =>
      rw [check_constant_eq_error_iff hplace.1 hplace.2]
      constructor
      · rintro (⟨hinvalid, rfl⟩ | ⟨hvalid, hinvalid, rfl⟩)
        · exact .identifier hinvalid
        · exact .initializer hvalid hinvalid
      · rintro (_ | hinvalid | ⟨hvalid, hinvalid⟩)
        · exact .inl ⟨hinvalid, rfl⟩
        · exact .inr ⟨hvalid, hinvalid, rfl⟩

theorem visit_eq_error_iff (hregular : ∀ place ∈ items, place.IsRegular) :
    visit items = .error error ↔ ∃ before place after pending, items = before ++ place :: after ∧
      visit before = .ok pending ∧ Offends before place error := by
  rw [visit, foldlM_eq_error_iff]
  refine exists_congr fun before => exists_congr fun place => exists_congr fun after =>
    exists_congr fun pending => and_congr_right ?_
  rintro rfl
  obtain ⟨hbefore, hrest⟩ := List.forall_mem_append.1 hregular
  exact and_congr_right fun hvisit =>
    check_eq_error_iff hbefore (hrest place List.mem_cons_self) hvisit

theorem exists_visit_eq_ok_iff (hregular : ∀ place ∈ items, place.IsRegular) :
    (∃ pending, visit items = .ok pending) ↔ NoneOffends items := by
  constructor
  · rintro ⟨pending, h⟩ before place after rfl error hoffends
    have hsplit := h
    rw [visit_append] at hsplit
    obtain ⟨middle, hmiddle, -⟩ := exists_of_bind_eq_ok hsplit
    have herror := (visit_eq_error_iff hregular).2
      ⟨before, place, after, middle, rfl, hmiddle, hoffends⟩
    rw [h] at herror
    cases herror
  · intro hnone
    cases h : visit items with
    | ok pending => exact ⟨pending, rfl⟩
    | error error =>
        obtain ⟨before, place, after, middle, hsplit, -, hoffends⟩ := (visit_eq_error_iff hregular).1 h
        exact absurd hoffends (hnone before place after hsplit error)

theorem visit_eq_error_iff_firstOffence (hregular : ∀ place ∈ items, place.IsRegular) :
    visit items = .error error ↔ FirstOffence items error := by
  rw [visit_eq_error_iff hregular]
  refine exists_congr fun before => exists_congr fun place => exists_congr fun after => ?_
  have hnone : items = before ++ place :: after →
      ((∃ pending, visit before = .ok pending) ↔ NoneOffends before) := by
    rintro rfl
    exact exists_visit_eq_ok_iff (List.forall_mem_append.1 hregular).1
  constructor
  · rintro ⟨pending, hsplit, hvisit, hoffends⟩
    exact ⟨hsplit, (hnone hsplit).1 ⟨pending, hvisit⟩, hoffends⟩
  · rintro ⟨hsplit, hbefore, hoffends⟩
    obtain ⟨pending, hvisit⟩ := (hnone hsplit).2 hbefore
    exact ⟨pending, hsplit, hvisit, hoffends⟩

/-! ## The end of the text -/

/-- The innermost bracket that is open is the only one with nothing unbalanced behind it. -/
theorem unclosed_iff (hregular : ∀ place ∈ items, place.IsRegular)
    (h : visit items = .ok pending) :
    Unclosed (marks items) error ↔
      ∃ opening line outer, pending = (opening, line) :: outer ∧ error = .unclosed opening line := by
  have hopens := opens_of_visit_eq_ok hregular h
  constructor
  · intro hunclosed
    cases hunclosed with
    | @intro before after opening closing line hmarks hpair hafter =>
        have hbrackets : ∀ mark ∈ before, isBracket mark.1 = true := by
          intro mark hmark
          exact isBracket_of_mem_marks hregular mark (by rw [hmarks]; simp [hmark])
        have htrack := hopens.track_eq_ok
        rw [hmarks, track_append] at htrack
        obtain ⟨outer, houter, -⟩ := exists_of_bind_eq_ok htrack
        have hwithin : Opens ((opening, line) :: outer) (marks items) :=
          hmarks ▸ (opens_of_track_eq_ok hbrackets houter).within hpair hafter
        have heq := hopens.track_eq_ok.symm.trans hwithin.track_eq_ok
        exact ⟨opening, line, outer, Except.ok.inj heq, rfl⟩
  · rintro ⟨opening, line, outer, rfl, rfl⟩
    generalize marks items = all at hopens ⊢
    cases hopens with
    | within _ hpair hafter => exact .intro rfl hpair hafter

theorem source_eq_error_iff (text : List Char) :
    source text = .error error ↔
      FirstOffence (places text) error ∨
        NoneOffends (places text) ∧ Unclosed (marks (places text)) error := by
  have hregular : ∀ place ∈ places text, place.IsRegular := fun _ => isRegular_of_mem_places
  rw [source_eq_finish, ← visit_eq_error_iff_firstOffence hregular, ← exists_visit_eq_ok_iff hregular]
  cases hvisit : visit (places text) with
  | error other => simp [finish]
  | ok pending =>
      rw [unclosed_iff hregular hvisit]
      cases pending with
      | nil => simp [finish]
      | cons innermost outer =>
          obtain ⟨opening, line⟩ := innermost
          simp [finish, eq_comm]

/-! ## The grammar -/

theorem word_marks_ofLine (number : Nat) (line : List Char) :
    (marks (Place.ofLine number line)).word = (code line).filter isBracket := by
  have hconstant : marks ((constant? (code line)).toList.map fun declared =>
      Place.constant declared.1 declared.2 number) = [] := by
    rw [marks, List.filterMap_map]
    exact List.filterMap_eq_nil_iff.2 fun _ _ => rfl
  rw [Place.ofLine, marks_append, hconstant, List.append_nil, Marks.word, marks, List.filterMap_map,
    List.map_filterMap]
  simp [Place.mark?]

theorem word_marks_placesFrom (number : Nat) (lines : List (List Char)) :
    (marks (placesFrom number lines)).word = (lines.flatMap code).filter isBracket := by
  induction lines generalizing number with
  | nil => rfl
  | cons line lines ih =>
      rw [placesFrom, marks_append, List.flatMap_cons, List.filter_append, Marks.word,
        List.map_append, ← ih (number + 1), ← word_marks_ofLine number line]
      rfl

theorem forall_isSound_ofLine_iff (number : Nat) (line : List Char) :
    (∀ place ∈ Place.ofLine number line, place.IsSound) ↔
      ∀ identifier value, IsDeclaration (code line) identifier value → IsSound identifier value := by
  constructor
  · intro h identifier value hdeclared
    refine h (.constant identifier value number) (List.mem_append_right _ ?_)
    exact List.mem_map.2
      ⟨(identifier, value), Option.mem_toList.2 (constant?_eq_some_iff.2 hdeclared), rfl⟩
  · intro h place hplace
    rcases List.mem_append.1 hplace with hplace | hplace
    · obtain ⟨c, -, rfl⟩ := List.mem_map.1 hplace
      exact trivial
    · obtain ⟨⟨identifier, value⟩, hmem, rfl⟩ := List.mem_map.1 hplace
      exact h identifier value (constant?_eq_some_iff.1 (Option.mem_toList.1 hmem))

theorem forall_isSound_placesFrom_iff (number : Nat) (lines : List (List Char)) :
    (∀ place ∈ placesFrom number lines, place.IsSound) ↔
      ∀ line ∈ lines, ∀ identifier value,
        IsDeclaration (code line) identifier value → IsSound identifier value := by
  induction lines generalizing number with
  | nil => simp [placesFrom]
  | cons line lines ih =>
      rw [placesFrom, List.forall_mem_append, List.forall_mem_cons, forall_isSound_ofLine_iff,
        ih (number + 1)]

theorem source_eq_ok_iff (text : List Char) :
    source text = .ok () ↔
      Balanced (((Text.lines text).flatMap code).filter isBracket) ∧
        ∀ line ∈ Text.lines text, ∀ identifier value,
          IsDeclaration (code line) identifier value → IsSound identifier value := by
  have hregular : ∀ place ∈ places text, place.IsRegular := fun _ => isRegular_of_mem_places
  have hmarks := isBracket_of_mem_marks hregular
  have hvisit : source text = .ok () ↔ visit (places text) = .ok [] := by
    rw [source_eq_finish, finish_eq_ok_iff]
  rw [hvisit, visit, foldlM_check_eq_ok_iff hregular, track_eq_ok_iff hmarks, opens_nil_iff, places,
    forall_isSound_placesFrom_iff, word_marks_placesFrom]

/-- The check decides a grammar, and of what is wrong it reports what comes first. -/
structure IsDecided (text : List Char) : Prop where
  /-- The brackets of the whole text are balanced, and each declaration in it is sound. -/
  accepts : source text = .ok () ↔
    Balanced (((Text.lines text).flatMap code).filter isBracket) ∧
      ∀ line ∈ Text.lines text, ∀ identifier value,
        IsDeclaration (code line) identifier value → IsSound identifier value
  /-- An open bracket is reported where no place offends, and then the innermost one. -/
  rejects : ∀ error, source text = .error error ↔
    FirstOffence (places text) error ∨
      NoneOffends (places text) ∧ Unclosed (marks (places text)) error
  /-- What is judged is cut at the first comment and read in the form of a declaration. -/
  isCut : ∀ line ∈ Text.lines text, IsCut line (code line)
  isDeclaration : ∀ line ∈ Text.lines text, ∀ identifier value,
    constant? (code line) = some (identifier, value) ↔ IsDeclaration (code line) identifier value

theorem isDecided (text : List Char) : IsDecided text where
  accepts := source_eq_ok_iff text
  rejects _ := source_eq_error_iff text
  isCut line _ := isCut_code line
  isDeclaration _ _ _ _ := constant?_eq_some_iff

end OptionBindings.Check
