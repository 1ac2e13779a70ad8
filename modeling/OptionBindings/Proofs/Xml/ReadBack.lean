import OptionBindings.Proofs.Xml.Progress
import OptionBindings.Proofs.Xml.WrittenTags
import OptionBindings.Xml.Document

/-!
# Reading what was written

A document of written elements in UTF-8 is read without a problem, and its tags are those of the
elements, with every attribute's value as it was.
-/

namespace OptionBindings.Xml

/-! ## Values -/

theorem resolve_of_characters (d : Declarations) (depth : Nat) (opened : List String)
    {pieces : List Piece} {text : List Char} (h : pieces.mapM Piece.character? = some text)
    (value : List Char) (budget : Nat) :
    resolve d (depth + 1) opened pieces (value, budget) = .ok (text.reverse ++ value, budget) := by
  rw [resolve]
  induction pieces generalizing text value with
  | nil =>
      obtain rfl : [] = text := by simpa using h
      rfl
  | cons piece pieces ih =>
      obtain ⟨c, hc, text, htext, rfl⟩ :
          ∃ c, piece.character? = some c ∧ ∃ rest, pieces.mapM Piece.character? = some rest ∧
            c :: rest = text := by
        simpa [List.mapM_cons, Option.bind_eq_some_iff] using h
      rw [List.foldlM_cons, List.reverse_cons, List.append_assoc]
      cases piece with
      | char c' =>
          obtain rfl := Option.some.inj hc
          exact ih htext (c' :: value)
      | entity name place =>
          have hname : predefined? name = some c := hc
          simp only [hname]
          exact ih htext (c :: value)
      | noCharacter place => cases hc
      | malformed place => cases hc

theorem attributeValue_of_value? (d : Declarations) (opened : List String) (budget : Nat)
    {raw : RawAttribute} {value : String} (h : raw.value? = some value) :
    attributeValue d true opened budget raw.pieces = .ok (value, budget) := by
  obtain ⟨text, htext, rfl⟩ := Option.map_eq_some_iff.1 h
  rw [attributeValue, resolve_of_characters d _ opened htext]
  simp [bind, Except.bind]

namespace Reader

theorem writtenAttributes_of_value? {r : Reader} {element : String}
    (hrules : r.declarations.rulesOf element = []) {raw : List RawAttribute}
    {attributes : List (String × String)}
    (hraw : (raw.map fun r => (r.name, r.value?)) =
      attributes.map fun written => (written.1, some written.2))
    (hnodup : (attributes.map (·.1)).Nodup) {seen : List (String × String)}
    (hseen : ∀ written ∈ attributes, written.1 ∉ seen.map (·.1)) (budget : Nat) :
    r.writtenAttributes element raw seen budget = .ok (seen.reverse ++ attributes, budget) := by
  induction raw generalizing attributes seen with
  | nil =>
      obtain rfl : attributes = [] := by simpa using hraw.symm
      rw [writtenAttributes, List.append_nil]
  | cons first raw ih =>
      cases attributes with
      | nil => cases hraw
      | cons written attributes =>
          obtain ⟨hfirst, hothers⟩ := List.cons.inj hraw
          obtain ⟨hname, hvalue⟩ := Prod.mk.inj hfirst
          have hnew : (seen.any fun other => decide (other.1 = first.name)) = false := by
            have hwritten := hseen written List.mem_cons_self
            rw [List.any_eq_false]
            intro other hother hsame
            exact hwritten (List.mem_map.2 ⟨other, hother, (of_decide_eq_true hsame).trans hname⟩)
          rw [List.map_cons, List.nodup_cons] at hnodup
          have hlater : ∀ other ∈ attributes, other.1 ∉ (written :: seen).map (·.1) := by
            intro other hother hmem
            rw [List.map_cons, List.mem_cons] at hmem
            rcases hmem with hsame | hmem
            · exact hnodup.1 (hsame ▸ List.mem_map_of_mem hother)
            · exact hseen other (List.mem_cons_of_mem _ hother) hmem
          have hcdata : ((((r.declarations.rulesOf element).find? (·.name = first.name)).map
              (·.cdata)).getD true) = true := by
            rw [hrules]
            rfl
          simp only [writtenAttributes, hnew, hcdata,
            attributeValue_of_value? r.declarations r.openEntities budget hvalue]
          rw [hname, if_neg Bool.false_ne_true, ih hothers hnodup.2 hlater, List.reverse_cons,
            List.append_assoc, List.singleton_append]

/-! ## Tags -/

/-- A reader of a document in UTF-8 that declares nothing. -/
def plain (phase : Phase) (opened : List String) (tags : List Tag) (budget : Nat)
    (mark rest : Cells) : Reader where
  encoding := .utf8
  declarations := {}
  phase
  current := ⟨none, 0, rest⟩
  outer := []
  mark
  opened
  budget
  tags

variable {name : String} {attributes : List (String × String)} {opened : List String}
  {tags : List Tag} {budget fuel : Nat} {mark rest : Cells}

theorem step_startTag (htag : IsTag name attributes) (empty : Bool) (rest : Cells) {cells : Cells}
    (hcells : cells = textCells (startTagText name attributes empty) ++ rest)
    (hfuel : cells.length ≤ fuel) :
    (plain .content opened tags budget mark cells).step fuel =
      .next (if empty then
          (plain .content opened (.finish name :: .start name attributes :: tags) budget cells
            rest).afterTag
        else plain .content (name :: opened) (.start name attributes :: tags) budget cells rest) := by
  have hopen : cells = .char '<' :: (textCells name.toList ++ (textCells (attributesText attributes) ++
      (textCells (tagEndText empty) ++ rest))) := by
    simp [hcells, startTagText]
  have hbound : (attributesText attributes).length < fuel := by
    rw [hopen] at hfuel
    simp only [List.length_cons, List.length_append, textCells, List.length_map] at hfuel
    omega
  obtain ⟨raw, hraw, hlex⟩ := exists_lexMarkup_startTagText htag.element htag.named empty hbound rest
  have hwritten : (plain .content opened tags budget cells cells).writtenAttributes name raw []
      (plain .content opened tags budget cells cells).budget = .ok (attributes, budget) :=
    writtenAttributes_of_value? rfl hraw htag.distinct (by simp) budget
  have hread : (plain .content opened tags budget mark cells).step fuel =
      (plain .content opened tags budget cells cells).readMarkup fuel
        (textCells name.toList ++ (textCells (attributesText attributes) ++
          (textCells (tagEndText empty) ++ rest))) := by
    rw [hopen]
    rfl
  have hlexing : (plain .content opened tags budget cells cells).lexing = .utf8 := rfl
  rw [hread, readMarkup, hlexing, hlex]
  simp only [startTag, hwritten]
  cases empty <;> simp [defaultAttributes, plain, goOn, give, Declarations.rulesOf]

theorem step_endTag (hname : isXmlName .utf8 name) (rest : Cells) {cells : Cells}
    (hcells : cells = textCells (endTagText name) ++ rest) :
    (plain .content (name :: opened) tags budget mark cells).step fuel =
      .next (plain .content opened (.finish name :: tags) budget cells rest).afterTag := by
  have hopen : cells = .char '<' :: .char '/' :: (textCells name.toList ++ .char '>' :: rest) := by
    simp [hcells, endTagText]
  have hread : (plain .content (name :: opened) tags budget mark cells).step fuel =
      (plain .content (name :: opened) tags budget cells cells).readMarkup fuel
        (.char '/' :: (textCells name.toList ++ .char '>' :: rest)) := by
    rw [hopen]
    rfl
  have hlexing : (plain .content (name :: opened) tags budget cells cells).lexing = .utf8 := rfl
  rw [hread, readMarkup, hlexing, lexMarkup_endTagText hname]
  simp [endTag, plain, goOn, give]

theorem afterTag_plain (phase : Phase) (hopened : opened ≠ []) :
    (plain phase opened tags budget mark rest).afterTag =
      plain phase opened tags budget mark rest := by
  rw [afterTag, if_neg]
  rwa [List.isEmpty_iff]

/-! ## Elements -/

/-- Within an element a reader comes from before written elements to behind them. -/
theorem ends_of_writes {elements : Elements} {text : List Char} (h : Writes elements text)
    {opened : List String} (hopened : opened ≠ []) {tags : List Tag} {budget : Nat} {rest : Cells}
    {ending : List Tag × Option (Fault × Cells)}
    (hrest : ∀ mark, Ends (plain .content opened (elements.tags.reverse ++ tags) budget mark rest)
      ending) (mark : Cells) :
    Ends (plain .content opened tags budget mark (textCells text ++ rest)) ending := by
  -- What follows is any text that leads to the ending, so that the inner elements can be followed by
  -- the end tag and the later ones.
  induction h generalizing opened tags rest mark with
  | none => exact hrest mark
  | @empty name attributes later laterText htag _ ih =>
      refine .next (step_startTag htag true (textCells laterText ++ rest) (by simp)
        (Nat.le_refl _)) ?_
      rw [if_pos rfl, afterTag_plain _ hopened]
      refine ih hopened (fun mark => ?_) _
      simpa [Elements.tags] using hrest mark
  | @around name attributes inner later innerText laterText htag _ _ ihinner ihlater =>
      refine .next (step_startTag htag false (textCells innerText ++ (textCells (endTagText name) ++
        (textCells laterText ++ rest))) (by simp) (Nat.le_refl _)) ?_
      rw [if_neg Bool.false_ne_true]
      refine ihinner (List.cons_ne_nil _ _) (fun mark => ?_) _
      refine .next (step_endTag htag.element _ rfl) ?_
      rw [afterTag_plain _ hopened]
      refine ihlater hopened (fun mark => ?_) _
      simpa [Elements.tags] using hrest mark

/-! ## Documents -/

theorem lexToken_root {c : Char} (hc : Encoding.isNameStart .utf8 c) (rest : Cells) :
    Prolog.lexToken .utf8 (.char '<' :: .char c :: rest) =
      .ok (.root, .char '<' :: .char c :: rest) := by
  have hopens : Encoding.opensElement .utf8 (.char c) := by
    simp [Encoding.opensElement, hc]
  have hspace : isSpace '<' = false := rfl
  unfold Prolog.lexToken
  simp only [hspace, Bool.false_eq_true, if_false]
  split
  · rename_i heq
    obtain ⟨⟨rfl⟩, -⟩ := List.cons.inj heq
    exact absurd hc (by decide)
  · rename_i heq
    obtain ⟨⟨rfl⟩, -⟩ := List.cons.inj heq
    exact absurd hc (by decide)
  · rename_i heq
    obtain ⟨rfl, -⟩ := List.cons.inj heq
    rw [if_pos hopens]
  · rename_i heq
    cases heq

theorem step_root {c : Char} (hc : Encoding.isNameStart .utf8 c) {cells : Cells}
    (hcells : cells = .char '<' :: .char c :: rest) :
    (plain (.prolog .start) [] [] budget mark cells).step fuel =
      .next (plain .content [] [] budget cells cells) := by
  subst hcells
  change (plain (.prolog .start) [] [] budget (.char '<' :: .char c :: rest)
    (.char '<' :: .char c :: rest)).readProlog .start = _
  simp only [readProlog, plain, lexing, inDocument, Option.isNone_none, if_true, lexToken_root hc]
  rfl

theorem ends_epilog (tags : List Tag) (budget : Nat) (mark : Cells) :
    Ends (plain .epilog [] tags budget mark []) (tags.reverse, none) :=
  .done rfl

theorem ends_root {attributes : List (String × String)} {inner : Elements}
    {text : List Char} (h : Writes (.cons name attributes inner .none) text) (budget : Nat)
    (mark : Cells) :
    Ends (plain .content [] [] budget mark (textCells text))
      ((Elements.cons name attributes inner .none).tags, none) := by
  generalize hroot : Elements.cons name attributes inner .none = root at h
  cases h with
  | none => cases hroot
  | empty htag hlater =>
      obtain ⟨rfl, rfl, rfl, rfl⟩ := Elements.cons.inj hroot
      cases hlater
      refine .next (step_startTag htag true [] (by simp) (Nat.le_refl _)) ?_
      exact ends_epilog _ _ _
  | @around _ _ _ _ innerText _ htag hinner hlater =>
      obtain ⟨rfl, rfl, rfl, rfl⟩ := Elements.cons.inj hroot
      cases hlater
      refine .next (step_startTag htag false (textCells innerText ++ textCells (endTagText name))
        (by simp) (Nat.le_refl _)) ?_
      rw [if_neg Bool.false_ne_true]
      refine ends_of_writes hinner (List.cons_ne_nil _ _) (fun mark => ?_) _
      refine .next (step_endTag htag.element [] (by simp)) ?_
      have hend := ends_epilog (.finish name :: (inner.tags.reverse ++ [.start name attributes]))
        budget (textCells (endTagText name))
      have htags : (Tag.finish name :: (inner.tags.reverse ++ [.start name attributes])).reverse =
          (Elements.cons name attributes inner .none).tags := by
        simp [Elements.tags]
      rwa [htags] at hend

end Reader

theorem exists_startTagText {name : String} {attributes : List (String × String)}
    (h : IsTag name attributes) (empty : Bool) :
    ∃ c behind, Encoding.isNameStart .utf8 c ∧
      startTagText name attributes empty = '<' :: c :: behind := by
  obtain ⟨c, cs, hcs, hc, -⟩ := exists_of_isXmlName h.element
  exact ⟨c, cs ++ attributesText attributes ++ tagEndText empty, hc, by simp [startTagText, hcs]⟩

theorem Writes.exists_start {elements : Elements} {text : List Char} (h : Writes elements text)
    (hne : elements ≠ .none) :
    ∃ c behind, Encoding.isNameStart .utf8 c ∧ text = '<' :: c :: behind := by
  cases h with
  | none => exact absurd rfl hne
  | empty htag _ =>
      obtain ⟨c, behind, hc, hstart⟩ := exists_startTagText htag true
      exact ⟨c, behind ++ _, hc, by rw [hstart]; rfl⟩
  | around htag _ _ =>
      obtain ⟨c, behind, hc, hstart⟩ := exists_startTagText htag false
      refine ⟨c, behind ++ _ ++ _ ++ _, hc, by rw [hstart]; rfl⟩

namespace Document

theorem ofMark_plain {second : UInt8} (h : second ≠ 0) (bytes : List UInt8) :
    Encoding.ofMark (0x3c :: second :: bytes) = (.utf8, 0) := by
  unfold Encoding.ofMark
  split
  case h_6 => rfl
  case h_5 heq =>
    obtain ⟨-, hbytes⟩ := List.cons.inj heq
    exact absurd (List.cons.inj hbytes).1 h
  all_goals
    rename_i heq
    exact absurd (List.cons.inj heq).1 (by decide)

theorem read_utf8 {c : Char} (hc : Encoding.isNameStart .utf8 c) {text behind : List Char}
    (htext : text = '<' :: c :: behind) (hlegal : ∀ d ∈ text, isLegal d) :
    ∃ size, read (String.ofList text).toUTF8.data.toList =
      readFrom .utf8 .start false size (textCells text) (textCells text) := by
  have hcells : textCells text = .char '<' :: .char c :: textCells behind := by
    rw [htext]
    rfl
  have hdecode : Encoding.decodeUtf8 (text.flatMap String.utf8EncodeChar) = textCells text :=
    Encoding.decodeUtf8_encode hlegal
  obtain ⟨second, others, hsecond, hne⟩ :=
    Encoding.exists_utf8EncodeChar (hlegal c (by simp [htext]))
  have hbytes : text.flatMap String.utf8EncodeChar =
      0x3c :: second :: (others ++ behind.flatMap String.utf8EncodeChar) := by
    rw [htext, List.flatMap_cons, List.flatMap_cons, hsecond]
    rfl
  have hwhole : Encoding.endsInMark (text.flatMap String.utf8EncodeChar) = false := by
    rw [hbytes]
    simp [Encoding.endsInMark]
  have hmark : Encoding.ofMark (text.flatMap String.utf8EncodeChar) = (.utf8, 0) := by
    rw [hbytes]
    exact ofMark_plain hne _
  refine ⟨(text.flatMap String.utf8EncodeChar).length, ?_⟩
  rw [Encoding.toList_toUTF8_ofList, read, hwhole]
  simp only [Bool.false_eq_true, if_false, hmark, List.drop_zero, Encoding.decode, hdecode]
  rw [hcells, Reader.lexToken_root hc]

theorem readFrom_of_ends {size : Nat} {cells : Cells} {tags : List Tag}
    (h : Reader.Ends (.plain (.prolog .start) [] [] (allowance size) cells cells) (tags, none)) :
    readFrom .utf8 .start false size cells cells = ⟨tags, none⟩ := by
  have hbound : (Reader.plain (.prolog .start) [] [] (allowance size) cells cells).remaining <
      2 * (cells.length + allowance size) + 4 := by
    simp [Reader.remaining, Reader.plain, Reader.cellCount]
  have hrun := (Reader.run_eq_iff_ends hbound (tags, none)).2 h
  simp only [Reader.plain] at hrun
  rw [readFrom, hrun]

/-- Reading undoes writing: the tags of a written document are those of its elements. -/
theorem read_of_writes {name : String} {attributes : List (String × String)} {inner : Elements}
    {text : List Char} (h : Writes (.cons name attributes inner .none) text) :
    read (String.ofList text).toUTF8.data.toList =
      ⟨(Elements.cons name attributes inner .none).tags, none⟩ := by
  obtain ⟨c, behind, hc, htext⟩ := h.exists_start (by simp)
  have hlegal : ∀ d ∈ text, isLegal d := fun d hd => isLegal_of_isXmlChar (h.isXmlChar d hd)
  have hcells : textCells text = .char '<' :: .char c :: textCells behind := by
    rw [htext]
    rfl
  obtain ⟨size, hread⟩ := read_utf8 hc htext hlegal
  rw [hread]
  exact readFrom_of_ends (.next (Reader.step_root hc hcells) (Reader.ends_root h _ _))

end Document

end OptionBindings.Xml
