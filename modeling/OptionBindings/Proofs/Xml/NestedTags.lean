import OptionBindings.Proofs.WellNested
import OptionBindings.Proofs.Xml.Progress
import OptionBindings.Xml.Document

/-!
# Nesting of tags

The tags that a reader gives are well nested as far as they go: the end tags of the elements that are
open complete them. A reader that comes to the end of a document has no open elements.
-/

namespace OptionBindings.Xml

inductive Tag.Pairs : Tag → Tag → Prop
  | element (name : String) (attributes : List (String × String)) :
    Pairs (.start name attributes) (.finish name)

namespace Reader

/-- The name of the entity that the outermost text belongs to. -/
def ground (r : Reader) : Option String :=
  (r.outer.getLast?.getD r.current).entity

/-- No tags are given, and the same elements are open within the same document. -/
structure Keeps (r r' : Reader) : Prop where
  tags : r'.tags = r.tags
  opened : r'.opened = r.opened
  phase : r'.phase = r.phase
  ground : r'.ground = r.ground

theorem Keeps.refl (r : Reader) : Keeps r r :=
  ⟨rfl, rfl, rfl, rfl⟩

theorem keeps_of_next {r r' next : Reader} (h : Step.next next = .next r') (hnext : Keeps r next) :
    Keeps r r' := by
  obtain rfl := Step.next.inj h
  exact hnext

/-! ## Steps without tags -/

theorem keeps_marked (r : Reader) : Keeps r r.marked := by
  unfold marked
  split
  · exact ⟨rfl, rfl, rfl, rfl⟩
  · exact .refl r

theorem ground_goOn (r : Reader) (rest : Cells) : (r.goOn rest).ground = r.ground := by
  unfold ground goOn
  cases r.outer.getLast? <;> rfl

theorem keeps_goOn (r : Reader) (rest : Cells) : Keeps r (r.goOn rest) :=
  ⟨rfl, rfl, rfl, ground_goOn r rest⟩

theorem keeps_enter {r r' : Reader} {name : String} {text : List Char} {rest : Cells}
    (h : r.enter name text rest = .next r') : Keeps r r' := by
  unfold enter at h
  split at h
  · cases h
  · refine keeps_of_next h ⟨rfl, rfl, rfl, ?_⟩
    unfold ground
    rw [List.getLast?_cons]
    cases r.outer.getLast? <;> rfl

theorem keeps_leave {r r' : Reader} (h : r.leave = .next r') : Keeps r r' := by
  unfold leave at h
  split at h
  · cases h
  · rename_i source outer houter
    refine keeps_of_next h ⟨rfl, rfl, rfl, ?_⟩
    unfold ground
    rw [houter, List.getLast?_cons]
    rfl

theorem leave_ne_done {r : Reader} (hground : r.ground = none) (h : r.inDocument = false) :
    r.leave ≠ .done := by
  unfold leave
  split
  · rename_i houter
    have hentity : r.current.entity = none := by simpa [ground, houter] using hground
    rw [inDocument, hentity] at h
    cases h
  · nofun

theorem keeps_referTo {r r' : Reader} {name : String} {rest : Cells}
    (h : r.referTo name rest = .next r') : Keeps r r' := by
  unfold referTo at h
  split at h
  · exact keeps_of_next h (keeps_goOn r rest)
  split at h
  · split at h
    · cases h
    · exact keeps_of_next h (keeps_goOn r rest)
  split at h
  · cases h
  split at h
  · cases h
  · exact keeps_enter h
  · exact keeps_of_next h (keeps_goOn r rest)
  · exact keeps_of_next h (keeps_goOn r rest)

theorem keeps_readCData {r r' : Reader} {cells : Cells} (h : r.readCData cells = .next r') :
    Keeps r r' := by
  unfold readCData at h
  split at h
  · exact keeps_of_next h (keeps_goOn r _)
  all_goals cases h

theorem keeps_obey {r r' : Reader} {start : Cells} {say : Prolog.Say}
    (h : r.obey start say = .next r') : ∃ phase, Keeps { r with phase } r' := by
  -- All but the start of the root leave the phase as it is.
  have hsame : ∀ {next : Reader}, Keeps r next → ∃ phase, Keeps { r with phase } next :=
    fun hkeeps => ⟨r.phase, hkeeps⟩
  unfold obey at h
  split at h
  · exact hsame (keeps_of_next h (.refl r))
  · refine ⟨.content, keeps_of_next h ⟨rfl, rfl, rfl, ?_⟩⟩
    exact ground_goOn r start
  · exact hsame (keeps_of_next h ⟨rfl, rfl, rfl, rfl⟩)
  · split at h
    · exact hsame (keeps_of_next h (.refl r))
    · cases h
  · split at h
    · exact hsame (keeps_of_next h (.refl r))
    · cases h
  · exact hsame (keeps_of_next h ⟨rfl, rfl, rfl, rfl⟩)
  · exact hsame (keeps_of_next h ⟨rfl, rfl, rfl, rfl⟩)
  · exact hsame (keeps_of_next h ⟨rfl, rfl, rfl, rfl⟩)
  · split at h
    · exact hsame (keeps_of_next h (.refl r))
    split at h
    · exact absurd h (faultOf_ne_next _ _ _)
    · exact hsame (keeps_of_next h ⟨rfl, rfl, rfl, rfl⟩)
  · split at h
    · exact hsame (keeps_of_next h ⟨rfl, rfl, rfl, rfl⟩)
    · exact hsame (keeps_of_next h (.refl r))
  · split at h
    · exact hsame (keeps_of_next h (.refl r))
    split at h
    · exact absurd h (faultOf_ne_next _ _ _)
    · exact hsame (keeps_of_next h ⟨rfl, rfl, rfl, rfl⟩)
  · simp only at h
    split at h
    · exact hsame (keeps_of_next h ⟨rfl, rfl, rfl, rfl⟩)
    split at h
    · split at h
      · cases h
      · have henter := keeps_enter h
        exact hsame ⟨henter.tags, henter.opened, henter.phase, henter.ground⟩
    · exact hsame (keeps_of_next h ⟨rfl, rfl, rfl, rfl⟩)

theorem keeps_readProlog {r r' : Reader} {expect : Prolog.Expect}
    (h : r.readProlog expect = .next r') : ∃ phase, Keeps { r with phase } r' := by
  unfold readProlog at h
  split at h
  · split at h
    · cases h
    split at h
    · exact ⟨r.phase, keeps_leave h⟩
    · cases h
  · split at h
    · exact absurd h (stopped_ne_next _ _ _)
    · rename_i token rest htoken
      split at h
      · cases h
      · rename_i next say hnext
        obtain ⟨phase, hkeeps⟩ := keeps_obey h
        have hground := ground_goOn { r with phase } rest
        exact ⟨phase, hkeeps.tags, hkeeps.opened, hkeeps.phase, hkeeps.ground.trans hground⟩

theorem keeps_readEpilog {r r' : Reader} (h : r.readEpilog = .next r') : Keeps r r' := by
  unfold readEpilog at h
  split at h
  · cases h
  · split at h
    · exact absurd h (stopped_ne_next _ _ _)
    · split at h
      · exact keeps_of_next h (keeps_goOn r _)
      · cases h

/-! ## Nesting -/

/-- The end tags of the open elements complete the tags, and elements are open in the content only. -/
structure IsNested (r : Reader) : Prop where
  tags : WellNested Tag.Pairs (r.tags.reverse ++ r.opened.map Tag.finish)
  opened : r.phase = .content ∨ r.opened = []
  ground : r.ground = none

theorem IsNested.of_keeps {r r' : Reader} (h : r.IsNested) (hkeeps : Keeps r r') : r'.IsNested where
  tags := by
    rw [hkeeps.tags, hkeeps.opened]
    exact h.tags
  opened := by
    rw [hkeeps.phase, hkeeps.opened]
    exact h.opened
  ground := hkeeps.ground.trans h.ground

theorem IsNested.withPhase {r : Reader} (h : r.IsNested) (hopened : r.opened = []) (phase : Phase) :
    ({ r with phase } : Reader).IsNested :=
  ⟨h.tags, .inr hopened, h.ground⟩

theorem IsNested.afterTag {r : Reader} (h : r.IsNested) : r.afterTag.IsNested := by
  unfold Reader.afterTag
  split
  · rename_i hopened
    exact h.withPhase (List.isEmpty_iff.1 hopened) .epilog
  · exact h

theorem isNested_startTag {r r' : Reader} {name : String} {raw : List RawAttribute} {empty : Bool}
    {rest : Cells} (hr : r.IsNested) (hphase : r.phase = .content)
    (h : r.startTag name raw empty rest = .next r') : r'.IsNested := by
  unfold startTag at h
  split at h
  · exact absurd h (faultOf_ne_next _ _ _)
  · rename_i written budget hwritten
    have hpair := Tag.Pairs.element name
      (written ++ defaultAttributes r.declarations name written)
    have htags := hr.tags.insert_pair hpair
    have hground : ({ r with budget }.goOn rest).ground = none :=
      (ground_goOn _ rest).trans hr.ground
    simp only at h
    split at h
    · obtain rfl := Step.next.inj h
      refine IsNested.afterTag ⟨?_, .inl hphase, hground⟩
      simpa [give, goOn] using htags
    · obtain rfl := Step.next.inj h
      refine ⟨?_, .inl hphase, hground⟩
      simpa [give, goOn] using htags

theorem isNested_endTag {r r' : Reader} {name : String} {place rest : Cells} (hr : r.IsNested)
    (hphase : r.phase = .content) (h : r.endTag name place rest = .next r') : r'.IsNested := by
  unfold endTag at h
  split at h
  · cases h
  · rename_i element opened hopened
    split at h
    · cases h
    split at h
    · cases h
    · rename_i hname
      obtain rfl := Step.next.inj h
      obtain rfl : element = name := by simpa using hname
      have htags := hr.tags
      rw [hopened] at htags
      have hground : ({ r with opened }.goOn rest).ground = none :=
        (ground_goOn _ rest).trans hr.ground
      refine IsNested.afterTag ⟨?_, .inl hphase, hground⟩
      simpa [give, goOn] using htags

theorem isNested_readMarkup {r r' : Reader} {fuel : Nat} {cells : Cells} (hr : r.IsNested)
    (hphase : r.phase = .content) (h : r.readMarkup fuel cells = .next r') : r'.IsNested := by
  unfold readMarkup at h
  split at h
  · exact absurd h (stopped_ne_next _ _ _)
  · split at h
    · exact isNested_startTag hr hphase h
    · exact isNested_endTag hr hphase h
    · exact hr.of_keeps (keeps_of_next h (keeps_goOn r _))
    · exact hr.of_keeps (keeps_of_next h (keeps_goOn r _))
    · cases h
    · exact hr.of_keeps (keeps_readCData h)

theorem isNested_readContent {r r' : Reader} {fuel : Nat} (hr : r.IsNested)
    (hphase : r.phase = .content) (h : r.readContent fuel = .next r') : r'.IsNested := by
  unfold readContent at h
  split at h
  · unfold endOfContent at h
    split at h
    · cases h
    split at h
    · exact hr.of_keeps (keeps_leave h)
    · cases h
  · exact isNested_readMarkup hr hphase h
  · split at h
    · exact absurd h (stopped_ne_next _ _ _)
    · cases h
    · exact hr.of_keeps (keeps_of_next h (keeps_goOn r _))
    · exact hr.of_keeps (keeps_referTo h)
  · cases h
  · split at h
    · cases h
    · exact hr.of_keeps (keeps_of_next h (keeps_goOn r _))
  · exact absurd h (stopped_ne_next _ _ _)

theorem isNested_step {r r' : Reader} {fuel : Nat} (hr : r.IsNested)
    (h : r.step fuel = .next r') : r'.IsNested := by
  have hmarked := hr.of_keeps (keeps_marked r)
  rw [step_eq] at h
  split at h
  · rename_i expect hphase
    have hopened : r.marked.opened = [] := hmarked.opened.resolve_left (by simp [hphase])
    obtain ⟨phase, hkeeps⟩ := keeps_readProlog h
    exact (hmarked.withPhase hopened phase).of_keeps hkeeps
  · exact isNested_readContent hmarked ‹_› h
  · exact hmarked.of_keeps (keeps_readEpilog h)

/-! ## The end -/

theorem stopped_ne_done (r : Reader) (stop : Stop) : r.stopped stop ≠ .done := by
  cases stop <;> nofun

theorem faultOf_ne_done (r : Reader) (flaw : Flaw) : r.faultOf flaw ≠ .done := by
  unfold faultOf
  split <;> nofun

theorem enter_ne_done (r : Reader) (name : String) (text : List Char) (rest : Cells) :
    r.enter name text rest ≠ .done := by
  unfold enter
  split <;> nofun

theorem referTo_ne_done (r : Reader) (name : String) (rest : Cells) :
    r.referTo name rest ≠ .done := by
  unfold referTo
  split
  · nofun
  split
  · split <;> nofun
  split
  · nofun
  split
  · nofun
  · exact enter_ne_done r name _ rest
  · nofun
  · nofun

theorem startTag_ne_done (r : Reader) (name : String) (raw : List RawAttribute) (empty : Bool)
    (rest : Cells) : r.startTag name raw empty rest ≠ .done := by
  unfold startTag
  split
  · exact faultOf_ne_done r _
  · simp only
    split <;> nofun

theorem endTag_ne_done (r : Reader) (name : String) (place rest : Cells) :
    r.endTag name place rest ≠ .done := by
  unfold endTag
  split
  · nofun
  split
  · nofun
  split <;> nofun

theorem readMarkup_ne_done (r : Reader) (fuel : Nat) (cells : Cells) :
    r.readMarkup fuel cells ≠ .done := by
  unfold readMarkup
  split
  · exact stopped_ne_done r _
  split
  · exact startTag_ne_done r _ _ _ _
  · exact endTag_ne_done r _ _ _
  · nofun
  · nofun
  · nofun
  · unfold readCData
    split <;> nofun

theorem readContent_ne_done {r : Reader} (hground : r.ground = none) (fuel : Nat) :
    r.readContent fuel ≠ .done := by
  unfold readContent
  split
  · unfold endOfContent
    split
    · nofun
    · rename_i hentity
      split
      · exact leave_ne_done hground (by simpa using hentity)
      · nofun
  · exact readMarkup_ne_done r fuel _
  · split
    · exact stopped_ne_done r _
    · nofun
    · nofun
    · exact referTo_ne_done r _ _
  · nofun
  · split <;> nofun
  · exact stopped_ne_done r _

/-- A reader is done when it has closed all elements. -/
theorem opened_of_step_eq_done {r : Reader} {fuel : Nat} (hr : r.IsNested)
    (h : r.step fuel = .done) : r.opened = [] := by
  have hmarked := hr.of_keeps (keeps_marked r)
  rw [← (keeps_marked r).opened]
  refine hmarked.opened.resolve_left fun hphase => ?_
  rw [step_eq, hphase] at h
  exact readContent_ne_done hmarked.ground fuel h

/-- What a run gives is well nested as far as it goes, and complete if there is no fault. -/
theorem wellNested_run {r : Reader} (hr : r.IsNested) (fuel : Nat) :
    ∃ rest, WellNested Tag.Pairs ((run fuel r).1 ++ rest) ∧ ((run fuel r).2 = none → rest = []) := by
  induction fuel generalizing r with
  | zero => exact ⟨_, hr.tags, fun hnone => absurd hnone (Option.some_ne_none _)⟩
  | succ fuel ih =>
      rw [run]
      cases hstep : r.step (fuel + 1) with
      | next r' => exact ih (isNested_step hr hstep)
      | done =>
          refine ⟨_, hr.tags, fun _ => ?_⟩
          rw [opened_of_step_eq_done hr hstep, List.map_nil]
      | fault fault place =>
          exact ⟨_, hr.tags, fun hnone => absurd hnone (Option.some_ne_none _)⟩

end Reader

def Reading.IsNested (reading : Reading) : Prop :=
  ∃ rest, WellNested Tag.Pairs (reading.tags ++ rest) ∧ (reading.problem = none → rest = [])

namespace Document

theorem isNested_of_no_tags (problem : Problem) : Reading.IsNested ⟨[], some problem⟩ :=
  ⟨[], .nil, fun _ => rfl⟩

theorem isNested_readFrom (encoding : Encoding) (expect : Prolog.Expect) (standalone : Bool)
    (size : Nat) (cells rest : Cells) :
    (readFrom encoding expect standalone size cells rest).IsNested := by
  unfold readFrom
  simp only
  have hstart : ∀ declarations budget, Reader.IsNested
      { encoding, declarations, phase := .prolog expect, current := ⟨none, 0, rest⟩, outer := [],
        mark := rest, opened := [], budget, tags := [] } :=
    fun _ _ => ⟨.nil, .inr rfl, rfl⟩
  obtain ⟨later, htags, hend⟩ := Reader.wellNested_run (hstart { standalone } (allowance size))
    (2 * (rest.length + allowance size) + 4)
  split
  · rename_i tags hrun
    rw [hrun] at htags hend
    exact ⟨later, htags, fun _ => hend rfl⟩
  · rename_i tags fault place hrun
    rw [hrun] at htags
    exact ⟨later, htags, nofun⟩

theorem isNested_readDeclared (bytes : List UInt8) (encoding : Encoding) (bom : Nat)
    (cells start rest : Cells) :
    (readDeclared bytes encoding bom cells start rest).IsNested := by
  unfold readDeclared
  simp only
  split
  · exact isNested_of_no_tags _
  · split
    · exact isNested_readFrom _ _ _ _ _ _
    · split
      · exact isNested_of_no_tags _
      · exact isNested_of_no_tags _
      · exact isNested_readFrom _ _ _ _ _ _

theorem isNested_read (bytes : List UInt8) : (read bytes).IsNested := by
  unfold read
  split
  · exact isNested_of_no_tags _
  · simp only
    split
    · exact isNested_readDeclared _ _ _ _ _ _
    · exact isNested_readFrom _ _ _ _ _ _

end Document

end OptionBindings.Xml
