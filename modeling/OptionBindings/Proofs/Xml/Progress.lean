import OptionBindings.Proofs.Xml.Bounds
import OptionBindings.Xml.Reader

/-!
# Progress of a reader

A reader that goes on token by token comes to an end by itself: every step takes cells, leaves a text
or passes to the content, and what it takes in of replacement texts comes out of its budget. So the
bound on the tokens of a run is never what ends it.
-/

namespace OptionBindings.Xml

/-! ## Budgets -/

theorem textUnits_cons (c : Char) (text : List Char) :
    textUnits (c :: text) = c.utf8Size + textUnits text := by
  have hfold : ∀ (n : Nat) (text : List Char),
      text.foldl (fun n c => n + c.utf8Size) n = n + textUnits text := by
    intro n text
    induction text generalizing n with
    | nil => rfl
    | cons c text ih =>
        have hstart : textUnits (c :: text) = c.utf8Size + textUnits text := by
          rw [textUnits, List.foldl_cons, ih, Nat.zero_add]
        rw [List.foldl_cons, ih, hstart, Nat.add_assoc]
  rw [textUnits, List.foldl_cons, hfold, Nat.zero_add]

theorem length_le_textUnits (text : List Char) : text.length ≤ textUnits text := by
  induction text with
  | nil => exact Nat.zero_le _
  | cons c text ih =>
      have hpos : 0 < c.utf8Size := Char.utf8Size_pos c
      rw [List.length_cons, textUnits_cons]
      omega

/-- References take from the budget what their texts have, and nothing gives to it. -/
theorem budget_le_of_resolve {d : Declarations} {depth : Nat} {opened : List String}
    {pieces : List Piece} {start result : List Char × Nat}
    (h : resolve d depth opened pieces start = .ok result) : result.2 ≤ start.2 := by
  induction depth generalizing opened pieces start result with
  | zero => cases h
  | succ depth ih =>
      unfold resolve at h
      induction pieces generalizing start with
      | nil =>
          obtain rfl := Except.ok.inj h
          exact Nat.le_refl _
      | cons piece pieces ihpieces =>
          obtain ⟨value, budget⟩ := start
          obtain ⟨⟨value', budget'⟩, hpiece, h⟩ := exists_of_bind_eq_ok h
          refine Nat.le_trans (ihpieces h) ?_
          simp only at hpiece
          split at hpiece
          · obtain ⟨-, rfl⟩ := Prod.mk.inj (Except.ok.inj hpiece)
            exact Nat.le_refl _
          · cases hpiece
          · cases hpiece
          · split at hpiece
            · obtain ⟨-, rfl⟩ := Prod.mk.inj (Except.ok.inj hpiece)
              exact Nat.le_refl _
            split at hpiece
            · split at hpiece
              · cases hpiece
              · obtain ⟨-, rfl⟩ := Prod.mk.inj (Except.ok.inj hpiece)
                exact Nat.le_refl _
            split at hpiece
            · cases hpiece
            split at hpiece
            · cases hpiece
            · cases hpiece
            · cases hpiece
            · rename_i text
              split at hpiece
              · cases hpiece
              split at hpiece
              · rename_i found hfound
                obtain rfl := Except.ok.inj hpiece
                exact Nat.le_trans (ih hfound) (Nat.sub_le _ _)
              · cases hpiece

theorem budget_le_of_attributeValue {d : Declarations} {cdata : Bool} {opened : List String}
    {budget left : Nat} {pieces : List Piece} {value : String}
    (h : attributeValue d cdata opened budget pieces = .ok (value, left)) : left ≤ budget := by
  obtain ⟨⟨resolved, rest⟩, hresolve, h⟩ := exists_of_bind_eq_ok h
  obtain ⟨-, rfl⟩ := Prod.mk.inj (Except.ok.inj h)
  exact budget_le_of_resolve hresolve

theorem budget_le_of_assembleWith
    {inner : List String → List ValuePiece → ValueState → Except Flaw ValueState} {nested : Bool}
    {opened : List String}
    (hinner : ∀ opened pieces s s', inner opened pieces s = .ok s' → s'.budget ≤ s.budget)
    {pieces : List ValuePiece} {s s' : ValueState}
    (h : assembleWith inner nested opened pieces s = .ok s') : s'.budget ≤ s.budget := by
  induction pieces generalizing s with
  | nil =>
      obtain rfl := Except.ok.inj h
      exact Nat.le_refl _
  | cons piece pieces ih =>
      unfold assembleWith at h
      cases piece with
      | char c =>
          have hrest := ih h
          exact hrest
      | noCharacter place => cases h
      | malformed place => cases h
      | parameter name place =>
          simp only at h
          split at h
          · cases h
          split at h
          · obtain rfl := Except.ok.inj h
            exact Nat.le_refl _
          split at h
          · cases h
          split at h
          · rename_i text
            split at h
            · cases h
            split at h
            · rename_i found hfound
              exact Nat.le_trans (ih h) (Nat.le_trans (hinner _ _ _ _ hfound) (Nat.sub_le _ _))
            · cases h
          · exact ih h
          · have hrest := ih h
            exact hrest

theorem budget_le_of_assemble {depth : Nat} {nested : Bool} {opened : List String}
    {pieces : List ValuePiece} {s s' : ValueState}
    (h : assemble depth nested opened pieces s = .ok s') : s'.budget ≤ s.budget := by
  induction depth generalizing nested opened pieces s s' with
  | zero => cases h
  | succ depth ih => exact budget_le_of_assembleWith (fun _ _ _ _ hinner => ih hinner) h

namespace Reader

theorem budget_le_of_writtenAttributes {r : Reader} {element : String} {raw : List RawAttribute}
    {seen written : List (String × String)} {budget left : Nat}
    (h : r.writtenAttributes element raw seen budget = .ok (written, left)) : left ≤ budget := by
  induction raw generalizing seen budget with
  | nil =>
      obtain ⟨-, rfl⟩ := Prod.mk.inj (Except.ok.inj h)
      exact Nat.le_refl _
  | cons first raw ih =>
      unfold writtenAttributes at h
      split at h
      · cases h
      · simp only at h
        split at h
        · cases h
        · rename_i value rest hvalue
          exact Nat.le_trans (ih h) (budget_le_of_attributeValue hvalue)

/-! ## What is left to do -/

theorem stopped_ne_next (r r' : Reader) (stop : Stop) : r.stopped stop ≠ .next r' := by
  cases stop <;> exact nofun

theorem faultOf_ne_next (r r' : Reader) (flaw : Flaw) : r.faultOf flaw ≠ .next r' := by
  unfold faultOf
  split <;> exact nofun

def cellCount : List Source → Nat
  | [] => 0
  | source :: sources => source.rest.length + cellCount sources

def remaining (r : Reader) : Nat :=
  2 * (r.current.rest.length + cellCount r.outer + r.budget) + r.outer.length +
    match r.phase with
    | .prolog _ => 1
    | _ => 0

theorem remaining_goOn_le {r : Reader} {rest cells : Cells} (h : rest.length ≤ cells.length) :
    (r.goOn rest).remaining ≤ (r.goOn cells).remaining := by
  simp only [goOn, remaining]
  omega

/-- One cell is worth two steps: one to take it and one to leave a text that it leads to. -/
theorem remaining_goOn_lt {r : Reader} {rest : Cells} (h : rest.length < r.current.rest.length) :
    (r.goOn rest).remaining + 1 < r.remaining := by
  simp only [goOn, remaining]
  omega

theorem remaining_enter_le {r r' : Reader} {name : String} {text : List Char} {rest : Cells}
    (h : r.enter name text rest = .next r') : r'.remaining ≤ (r.goOn rest).remaining + 1 := by
  unfold enter at h
  split at h
  · cases h
  · obtain rfl := Step.next.inj h
    have htext := length_le_textUnits text
    simp only [remaining, goOn, textCells, List.length_map, cellCount, List.length_cons]
    omega

theorem remaining_leave_lt {r r' : Reader} (h : r.leave = .next r') (hrest : r.current.rest = []) :
    r'.remaining < r.remaining := by
  unfold leave at h
  split at h
  · cases h
  · rename_i source outer houter
    obtain rfl := Step.next.inj h
    simp only [remaining, houter, hrest, List.length_nil, cellCount, List.length_cons]
    omega

theorem remaining_afterTag_le (r : Reader) : r.afterTag.remaining ≤ r.remaining := by
  unfold afterTag
  split
  · simp only [remaining]
    omega
  · exact Nat.le_refl _

theorem remaining_startTag_le {r r' : Reader} {name : String} {raw : List RawAttribute} {empty : Bool}
    {rest : Cells} (h : r.startTag name raw empty rest = .next r') :
    r'.remaining ≤ (r.goOn rest).remaining := by
  unfold startTag at h
  split at h
  · exact absurd h (faultOf_ne_next _ _ _)
  · rename_i written budget hwritten
    have hbudget := budget_le_of_writtenAttributes hwritten
    simp only at h
    split at h
    · obtain rfl := Step.next.inj h
      refine Nat.le_trans (remaining_afterTag_le _) ?_
      simp only [remaining, goOn, give]
      omega
    · obtain rfl := Step.next.inj h
      simp only [remaining, goOn, give]
      omega

theorem remaining_endTag_le {r r' : Reader} {name : String} {place rest : Cells}
    (h : r.endTag name place rest = .next r') : r'.remaining ≤ (r.goOn rest).remaining := by
  unfold endTag at h
  split at h
  · cases h
  split at h
  · cases h
  split at h
  · cases h
  · obtain rfl := Step.next.inj h
    exact remaining_afterTag_le _

theorem remaining_referTo_le {r r' : Reader} {name : String} {rest : Cells}
    (h : r.referTo name rest = .next r') : r'.remaining ≤ (r.goOn rest).remaining + 1 := by
  unfold referTo at h
  split at h
  · obtain rfl := Step.next.inj h
    exact Nat.le_succ _
  split at h
  · split at h
    · cases h
    · obtain rfl := Step.next.inj h
      exact Nat.le_succ _
  split at h
  · cases h
  split at h
  · cases h
  · exact remaining_enter_le h
  · obtain rfl := Step.next.inj h
    exact Nat.le_succ _
  · obtain rfl := Step.next.inj h
    exact Nat.le_succ _

theorem remaining_readCData_le {r r' : Reader} {cells : Cells}
    (h : r.readCData cells = .next r') : r'.remaining ≤ (r.goOn cells).remaining := by
  unfold readCData at h
  split at h
  · rename_i rest hskip
    obtain rfl := Step.next.inj h
    exact remaining_goOn_le (Nat.le_of_lt (length_lt_of_skipCData hskip))
  all_goals cases h

theorem remaining_readMarkup_le {r r' : Reader} {fuel : Nat} {cells : Cells}
    (h : r.readMarkup fuel cells = .next r') : r'.remaining ≤ (r.goOn cells).remaining := by
  unfold readMarkup at h
  split at h
  · exact absurd h (stopped_ne_next _ _ _)
  · rename_i markup rest hmarkup
    have hrest : (r.goOn rest).remaining ≤ (r.goOn cells).remaining :=
      remaining_goOn_le (Nat.le_of_lt (length_lt_of_lexMarkup hmarkup))
    split at h
    · exact Nat.le_trans (remaining_startTag_le h) hrest
    · exact Nat.le_trans (remaining_endTag_le h) hrest
    · obtain rfl := Step.next.inj h
      exact hrest
    · obtain rfl := Step.next.inj h
      exact hrest
    · cases h
    · exact Nat.le_trans (remaining_readCData_le h) hrest

theorem remaining_readContent_lt {r r' : Reader} {fuel : Nat} (h : r.readContent fuel = .next r') :
    r'.remaining < r.remaining := by
  unfold readContent at h
  split at h
  · rename_i hrest
    unfold endOfContent at h
    split at h
    · cases h
    split at h
    · exact remaining_leave_lt h hrest
    · cases h
  · rename_i rest hrest
    have hshorter : rest.length < r.current.rest.length := by simp [hrest]
    have hgoOn := remaining_goOn_lt hshorter
    have hmarkup := remaining_readMarkup_le h
    omega
  · rename_i rest hrest
    have hshorter : ∀ {reference : Reference} {behind : Cells},
        lexReference r.lexing rest = .ok (reference, behind) →
          behind.length < r.current.rest.length := by
      intro reference behind hreference
      rw [hrest, List.length_cons]
      exact Nat.lt_succ_of_lt (length_lt_of_lexReference hreference)
    split at h
    · exact absurd h (stopped_ne_next _ _ _)
    · cases h
    · rename_i c behind hreference
      obtain rfl := Step.next.inj h
      exact Nat.lt_of_succ_lt (remaining_goOn_lt (hshorter hreference))
    · rename_i name behind hreference
      have hgoOn := remaining_goOn_lt (hshorter hreference)
      have hreferTo := remaining_referTo_le h
      omega
  · cases h
  · rename_i c rest _ _ _ hrest
    have hshorter : rest.length < r.current.rest.length := by simp [hrest]
    split at h
    · cases h
    · obtain rfl := Step.next.inj h
      exact Nat.lt_of_succ_lt (remaining_goOn_lt hshorter)
  · exact absurd h (stopped_ne_next _ _ _)

theorem remaining_next_le {r r' next : Reader} (h : Step.next next = .next r')
    (hnext : next.remaining ≤ r.remaining) : r'.remaining ≤ r.remaining + 1 := by
  obtain rfl := Step.next.inj h
  exact Nat.le_succ_of_le hnext

theorem remaining_obey_le {r r' : Reader} {start : Cells} {say : Prolog.Say} (hsay : say ≠ .root)
    (h : r.obey start say = .next r') : r'.remaining ≤ r.remaining + 1 := by
  unfold obey at h
  split at h
  · exact remaining_next_le h (Nat.le_refl _)
  · exact absurd rfl hsay
  · exact remaining_next_le h (Nat.le_refl _)
  · split at h
    · exact remaining_next_le h (Nat.le_refl _)
    · cases h
  · split at h
    · exact remaining_next_le h (Nat.le_refl _)
    · cases h
  · exact remaining_next_le h (Nat.le_refl _)
  · exact remaining_next_le h (Nat.le_refl _)
  · exact remaining_next_le h (Nat.le_refl _)
  · split at h
    · exact remaining_next_le h (Nat.le_refl _)
    split at h
    · exact absurd h (faultOf_ne_next _ _ _)
    · rename_i s hassemble
      have hbudget : s.budget ≤ r.budget := budget_le_of_assemble hassemble
      refine remaining_next_le h ?_
      simp only [remaining]
      omega
  · split at h
    · exact remaining_next_le h (Nat.le_refl _)
    · exact remaining_next_le h (Nat.le_refl _)
  · split at h
    · exact remaining_next_le h (Nat.le_refl _)
    split at h
    · exact absurd h (faultOf_ne_next _ _ _)
    · rename_i value budget hvalue
      have hbudget := budget_le_of_attributeValue hvalue
      refine remaining_next_le h ?_
      simp only [remaining]
      omega
  · simp only at h
    split at h
    · exact remaining_next_le h (Nat.le_refl _)
    split at h
    · split at h
      · cases h
      · have henter := remaining_enter_le h
        exact henter
    · exact remaining_next_le h (Nat.le_refl _)

theorem say_of_next?_root {expect next : Prolog.Expect} {say : Prolog.Say}
    (h : expect.next? .root = some (next, say)) : say = .root := by
  cases expect <;> cases h <;> rfl

theorem remaining_readProlog_lt {r r' : Reader} {expect : Prolog.Expect}
    (hphase : r.phase = .prolog expect) (h : r.readProlog expect = .next r') : r'.remaining < r.remaining := by
  unfold readProlog at h
  split at h
  · rename_i hrest
    split at h
    · cases h
    split at h
    · exact remaining_leave_lt h hrest
    · cases h
  · rename_i start hstart
    split at h
    · exact absurd h (stopped_ne_next _ _ _)
    · rename_i token rest htoken
      have hsize := Prolog.size_add_length_le_of_lexToken htoken
      split at h
      · cases h
      · rename_i next say hnext
        by_cases hsay : say = .root
        · subst hsay
          obtain rfl := Step.next.inj h
          simp only [remaining, goOn, hphase]
          omega
        · have htoken : token ≠ .root :=
            fun hroot => hsay (say_of_next?_root (hroot ▸ hnext))
          have hpos := Prolog.Token.size_pos htoken
          have hobey := remaining_obey_le hsay h
          have hgoOn : ({ r with phase := .prolog next }.goOn rest).remaining + 1 < r.remaining := by
            simp only [remaining, goOn, hphase]
            omega
          omega

theorem remaining_readEpilog_lt {r r' : Reader} (h : r.readEpilog = .next r') :
    r'.remaining < r.remaining := by
  unfold readEpilog at h
  split at h
  · cases h
  · rename_i start hstart
    split at h
    · exact absurd h (stopped_ne_next _ _ _)
    · rename_i token rest htoken
      have hsize := Prolog.size_add_length_le_of_lexToken htoken
      split at h
      · rename_i hkind
        have hroot : token ≠ .root := by
          rintro rfl
          simp at hkind
        have hpos := Prolog.Token.size_pos hroot
        obtain rfl := Step.next.inj h
        exact Nat.lt_of_succ_lt (remaining_goOn_lt (by omega))
      · cases h

def marked (r : Reader) : Reader :=
  if r.inDocument then { r with mark := r.current.rest } else r

theorem remaining_marked (r : Reader) : r.marked.remaining = r.remaining := by
  unfold marked
  split <;> rfl

theorem step_eq (r : Reader) (fuel : Nat) :
    r.step fuel =
      match r.marked.phase with
      | .prolog expect => r.marked.readProlog expect
      | .content => r.marked.readContent fuel
      | .epilog => r.marked.readEpilog :=
  rfl

theorem remaining_step_lt {r r' : Reader} {fuel : Nat} (h : r.step fuel = .next r') :
    r'.remaining < r.remaining := by
  rw [step_eq] at h
  rw [← remaining_marked r]
  split at h
  · rename_i expect hphase
    exact remaining_readProlog_lt hphase h
  · exact remaining_readContent_lt h
  · exact remaining_readEpilog_lt h

/-! ## Ends -/

theorem rest_marked (r : Reader) : r.marked.current.rest = r.current.rest := by
  unfold marked
  split <;> rfl

/-- The bound of a step does not matter if it is no less than the number of cells. -/
theorem step_congr {r : Reader} {fuel other : Nat} (h : r.current.rest.length ≤ fuel)
    (hother : r.current.rest.length ≤ other) : r.step fuel = r.step other := by
  rw [← rest_marked] at h hother
  rw [step_eq, step_eq]
  split
  · rfl
  · unfold readContent
    split
    · rfl
    · rename_i rest hrest
      rw [hrest, List.length_cons] at h hother
      rw [readMarkup, lexMarkup_congr (Nat.le_of_succ_le h) (Nat.le_of_succ_le hother), readMarkup]
    all_goals rfl
  · rfl

/-- How a reader ends that goes on token by token, without a bound on their number. -/
inductive Ends : Reader → List Tag × Option (Fault × Cells) → Prop
  | next {r r' : Reader} {ending : List Tag × Option (Fault × Cells)} :
    r.step r.current.rest.length = .next r' → Ends r' ending → Ends r ending
  | done {r : Reader} : r.step r.current.rest.length = .done → Ends r (r.tags.reverse, none)
  | fault {r : Reader} {fault : Fault} {place : Cells} :
    r.step r.current.rest.length = .fault fault place → Ends r (r.tags.reverse, some (fault, place))

/-- A run comes to the end of its reader, not to that of its bound. -/
theorem ends_run {r : Reader} {fuel : Nat} (h : r.remaining < fuel) : Ends r (run fuel r) := by
  induction fuel generalizing r with
  | zero => exact absurd h (Nat.not_lt_zero _)
  | succ fuel ih =>
      have hlength : r.current.rest.length ≤ r.remaining := by
        simp only [remaining]
        omega
      have hstep : r.step (fuel + 1) = r.step r.current.rest.length :=
        step_congr (by omega) (Nat.le_refl _)
      rw [run, hstep]
      cases hnext : r.step r.current.rest.length with
      | next r' =>
          have hless := remaining_step_lt hnext
          exact .next hnext (ih (by omega))
      | done => exact .done hnext
      | fault fault place => exact .fault hnext

theorem Ends.unique {r : Reader} {first second : List Tag × Option (Fault × Cells)}
    (hfirst : Ends r first) (hsecond : Ends r second) : first = second := by
  induction hfirst with
  | next hstep _ ih =>
      cases hsecond with
      | next hstep' hrest => exact ih (Step.next.inj (hstep.symm.trans hstep') ▸ hrest)
      | done hstep' => cases hstep.symm.trans hstep'
      | fault hstep' => cases hstep.symm.trans hstep'
  | done hstep =>
      cases hsecond with
      | next hstep' => cases hstep.symm.trans hstep'
      | done => rfl
      | fault hstep' => cases hstep.symm.trans hstep'
  | fault hstep =>
      cases hsecond with
      | next hstep' => cases hstep.symm.trans hstep'
      | done hstep' => cases hstep.symm.trans hstep'
      | fault hstep' =>
          cases hstep.symm.trans hstep'
          rfl

/-- Every reader has one end, and any run with room for it comes to that. -/
theorem run_eq_iff_ends {r : Reader} {fuel : Nat} (h : r.remaining < fuel)
    (ending : List Tag × Option (Fault × Cells)) : run fuel r = ending ↔ Ends r ending :=
  ⟨fun heq => heq ▸ ends_run h, fun hends => (ends_run h).unique hends⟩

end Reader

end OptionBindings.Xml
