import OptionBindings.Proofs.Xml.Consumption

/-!
# The bounds of repeated parts

A lexer of repeated parts takes a number that bounds them. Every part has a cell of its own, so any
bound that is not below the number of cells gives the same result.
-/

namespace OptionBindings.Xml

variable {encoding : Encoding} {cells : Cells} {fuel other : Nat}

theorem lexPieces_congr {quote : Option Char} (h : cells.length < fuel)
    (hother : cells.length < other) :
    lexPieces encoding quote fuel cells = lexPieces encoding quote other cells := by
  induction fuel generalizing cells other with
  | zero => exact absurd h (Nat.not_lt_zero _)
  | succ fuel ih =>
      cases other with
      | zero => exact absurd hother (Nat.not_lt_zero _)
      | succ other =>
          have hshorter : ∀ rest : Cells, rest.length < cells.length →
              lexPieces encoding quote fuel rest = lexPieces encoding quote other rest :=
            fun rest hrest => ih (by omega) (by omega)
          unfold lexPieces
          split
          · rename_i c rest
            have hrest := hshorter rest (Nat.lt_succ_self _)
            simp only [hrest]
            split
            · rfl
            split
            · rfl
            split
            · split
              · rfl
              · rename_i reference behind hreference
                have hlength := length_lt_of_lexReference hreference
                rw [hshorter behind (Nat.lt_succ_of_lt hlength)]
            split
            · split
              · rename_i behind
                rw [hshorter behind (Nat.lt_succ_of_lt (Nat.lt_succ_self _))]
              · rfl
            · rfl
          · rfl
          · rfl

theorem lexQuoted_congr (h : cells.length ≤ fuel) (hother : cells.length ≤ other) :
    lexQuoted encoding fuel cells = lexQuoted encoding other cells := by
  unfold lexQuoted
  split
  · rw [lexPieces_congr h hother]
  · rfl

theorem lexAttribute_congr (h : cells.length ≤ fuel) (hother : cells.length ≤ other) :
    lexAttribute encoding fuel cells = lexAttribute encoding other cells := by
  unfold lexAttribute
  cases hname : lexName encoding cells with
  | error stop => rfl
  | ok found =>
      obtain ⟨name, rest⟩ := found
      replace hname := length_lt_of_lexName hname
      simp only [bind, Except.bind]
      split
      · rename_i c tail
        cases hequal : expectChar '=' (skipSpace (.char c :: tail)) with
        | error stop => rfl
        | ok value =>
            have hskip := length_skipSpace_le (.char c :: tail)
            have hequal := length_eq_of_expectChar hequal
            have hvalue := length_skipSpace_le value
            have hquoted : lexQuoted encoding fuel (skipSpace value) =
                lexQuoted encoding other (skipSpace value) :=
              lexQuoted_congr (by omega) (by omega)
            simp only [hquoted]
      · rfl

theorem lexAttributes_congr (h : cells.length < fuel) (hother : cells.length < other) :
    lexAttributes encoding fuel cells = lexAttributes encoding other cells := by
  induction fuel generalizing cells other with
  | zero => exact absurd h (Nat.not_lt_zero _)
  | succ fuel ih =>
      cases other with
      | zero => exact absurd hother (Nat.not_lt_zero _)
      | succ other =>
          unfold lexAttributes
          split
          · rfl
          split
          · rename_i c rest hopen
            split
            · have hskip := length_skipSpace_le (.char c :: rest)
              simp only
              split
              · rfl
              · have hfirst : lexAttribute encoding fuel (skipSpace (.char c :: rest)) =
                    lexAttribute encoding other (skipSpace (.char c :: rest)) :=
                  lexAttribute_congr (by omega) (by omega)
                rw [hfirst]
                cases hattribute : lexAttribute encoding other (skipSpace (.char c :: rest)) with
                | error stop => rfl
                | ok found =>
                    obtain ⟨raw, behind⟩ := found
                    have hlength := length_lt_of_lexAttribute hattribute
                    have hlater : lexAttributes encoding fuel behind =
                        lexAttributes encoding other behind :=
                      ih (by omega) (by omega)
                    simp only [bind, Except.bind, hlater]
            · rfl
          · rfl

theorem lexMarkup_congr (h : cells.length ≤ fuel) (hother : cells.length ≤ other) :
    lexMarkup encoding fuel cells = lexMarkup encoding other cells := by
  have hstart : lexStartTag encoding fuel cells = lexStartTag encoding other cells := by
    unfold lexStartTag
    cases hname : lexName encoding cells with
    | error stop => rfl
    | ok found =>
        obtain ⟨name, rest⟩ := found
        have hlength := length_lt_of_lexName hname
        have hattributes : lexAttributes encoding fuel rest = lexAttributes encoding other rest :=
          lexAttributes_congr (by omega) (by omega)
        simp only [bind, Except.bind, hattributes]
  unfold lexMarkup
  split
  · rfl
  · rfl
  · rfl
  · exact hstart

end OptionBindings.Xml
