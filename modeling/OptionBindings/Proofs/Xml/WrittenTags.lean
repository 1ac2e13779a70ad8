import OptionBindings.Proofs.Xml.Writing

/-!
# Lexing written tags

The lexers take a written tag up to its end and no further, and the pieces of a value stand for the
characters that were written.
-/

namespace OptionBindings.Xml

@[simp] theorem textCells_nil : textCells [] = [] :=
  rfl

@[simp] theorem textCells_cons (c : Char) (text : List Char) :
    textCells (c :: text) = .char c :: textCells text :=
  rfl

@[simp] theorem textCells_append (first second : List Char) :
    textCells (first ++ second) = textCells first ++ textCells second :=
  List.map_append

/-! ## Names -/

variable {encoding : Encoding} {d : Char}

theorem nameChars_append {text : List Char} (h : ∀ c ∈ text, encoding.isName c)
    (hd : encoding.isName d = false) (rest : Cells) :
    nameChars encoding (textCells text ++ .char d :: rest) = (text, .char d :: rest) := by
  induction text with
  | nil => simp [nameChars, hd]
  | cons c text ih =>
      have hc := h c List.mem_cons_self
      rw [textCells_cons, List.cons_append, nameChars, if_pos hc,
        ih fun other hother => h other (List.mem_cons_of_mem c hother)]

theorem lexName_append {name : String} (h : isXmlName encoding name)
    (hd : encoding.isName d = false) (rest : Cells) :
    lexName encoding (textCells name.toList ++ .char d :: rest) = .ok (name, .char d :: rest) := by
  obtain ⟨first, others, hname, hfirst, hothers⟩ := exists_of_isXmlName h
  have hofList : String.ofList (first :: others) = name := by
    rw [← hname, String.ofList_toList]
  rw [hname, textCells_cons, List.cons_append, lexName, if_pos hfirst,
    nameChars_append hothers hd]
  simp only [hofList]

/-! ## Values -/

theorem length_charText_pos (c : Char) : 0 < (charText c).length := by
  unfold charText
  repeat' split
  all_goals exact Nat.zero_lt_succ _

theorem length_le_valueText (value : String) :
    value.toList.length ≤ (valueText value).length := by
  rw [valueText]
  induction value.toList with
  | nil => exact Nat.le_refl _
  | cons c text ih =>
      have hpos := length_charText_pos c
      rw [List.flatMap_cons, List.length_append, List.length_cons]
      omega

def Piece.character? : Piece → Option Char
  | .char c => some c
  | .entity name _ => predefined? name
  | .noCharacter _ | .malformed _ => none

theorem exists_lexPieces_charText (c : Char) (fuel : Nat) (rest : Cells) :
    ∃ piece, piece.character? = some c ∧
      lexPieces .utf8 (some '"') (fuel + 1) (textCells (charText c) ++ rest) =
        lexPieces.more piece (lexPieces .utf8 (some '"') fuel rest) := by
  unfold charText
  split
  · rename_i hc
    subst hc
    exact ⟨.entity "amp" (textCells "&amp;".toList ++ rest), rfl, rfl⟩
  split
  · rename_i hc
    subst hc
    exact ⟨.entity "lt" (textCells "&lt;".toList ++ rest), rfl, rfl⟩
  split
  · rename_i hc
    subst hc
    exact ⟨.entity "quot" (textCells "&quot;".toList ++ rest), rfl, rfl⟩
  split
  · rename_i hc
    subst hc
    exact ⟨.char '\t', rfl, rfl⟩
  split
  · rename_i hc
    subst hc
    exact ⟨.char '\n', rfl, rfl⟩
  split
  · rename_i hc
    subst hc
    exact ⟨.char '\r', rfl, rfl⟩
  · rename_i hamp hlt hquot htab hfeed hreturn
    have hspace : (if isSpace c then ' ' else c) = c := by
      simp only [isSpace, htab, hfeed, hreturn, decide_false, Bool.or_false, decide_eq_true_eq]
      split
      · rename_i hc
        exact hc.symm
      · rfl
    have hquote : ¬some '"' = some c := fun h => hquot (Option.some.inj h).symm
    refine ⟨.char c, rfl, ?_⟩
    simp only [textCells_cons, textCells_nil, List.cons_append, List.nil_append, lexPieces, hquote,
      hlt, hamp, hreturn, if_false, hspace]

/-- A written value is read up to its quote, in pieces that stand for its characters. -/
theorem exists_lexPieces_written (text : List Char) {fuel : Nat} (h : text.length < fuel)
    (rest : Cells) :
    ∃ pieces, pieces.mapM Piece.character? = some text ∧
      lexPieces .utf8 (some '"') fuel
          (textCells (text.flatMap charText) ++ .char '"' :: rest) = (pieces, .ok rest) := by
  induction text generalizing fuel with
  | nil =>
      obtain ⟨fuel, rfl⟩ := Nat.exists_eq_add_one.2 h
      exact ⟨[], rfl, rfl⟩
  | cons c text ih =>
      obtain ⟨fuel, rfl⟩ := Nat.exists_eq_add_one.2 (Nat.zero_lt_of_lt h)
      obtain ⟨pieces, hpieces, hlater⟩ := ih (Nat.lt_of_succ_lt_succ h)
      obtain ⟨piece, hpiece, hfirst⟩ := exists_lexPieces_charText c fuel
        (textCells (text.flatMap charText) ++ .char '"' :: rest)
      refine ⟨piece :: pieces, by simp [hpiece, hpieces], ?_⟩
      rw [List.flatMap_cons, textCells_append, List.append_assoc, hfirst, hlater]
      rfl

/-! ## Attributes -/

def RawAttribute.value? (raw : RawAttribute) : Option String :=
  (raw.pieces.mapM Piece.character?).map String.ofList

theorem exists_lexAttribute_written {name : String} (hname : isXmlName .utf8 name) (value : String)
    {fuel : Nat} (h : value.toList.length < fuel) (rest : Cells) :
    ∃ raw : RawAttribute, raw.name = name ∧ raw.value? = some value ∧
      lexAttribute .utf8 fuel
          (textCells name.toList ++ .char '=' :: .char '"' :: (textCells (valueText value) ++
            .char '"' :: rest)) = .ok (raw, rest) := by
  obtain ⟨pieces, hpieces, hlex⟩ := exists_lexPieces_written value.toList h rest
  refine ⟨⟨name, textCells name.toList ++ .char '=' :: .char '"' ::
    (textCells (valueText value) ++ .char '"' :: rest), pieces⟩, rfl, ?_, ?_⟩
  · simp [RawAttribute.value?, hpieces]
  · have hequal : Encoding.isName .utf8 '=' = false := by decide
    have hquoted : lexQuoted .utf8 fuel (skipSpace (.char '"' ::
        (textCells (valueText value) ++ .char '"' :: rest))) = .ok (pieces, rest) := by
      change lexQuoted .utf8 fuel (.char '"' :: _) = _
      rw [lexQuoted, if_pos (by decide), valueText, hlex]
    rw [lexAttribute, lexName_append hname hequal]
    change (lexQuoted _ _ _ >>= _) = _
    rw [hquoted]
    rfl

theorem tagEnd?_of_isNameStart {c : Char} (h : Encoding.isNameStart .utf8 c) (rest : Cells) :
    tagEnd? (.char c :: rest) = none := by
  unfold tagEnd?
  split
  case h_3 => rfl
  all_goals
    rename_i heq
    obtain ⟨⟨rfl⟩, -⟩ := List.cons.inj heq
    exact absurd h (by decide)

theorem isSpace_of_isNameStart {c : Char} (h : Encoding.isNameStart .utf8 c) : isSpace c = false := by
  rw [Bool.eq_false_iff]
  intro hspace
  simp only [isSpace, Bool.or_eq_true, decide_eq_true_eq] at hspace
  obtain ((rfl | rfl) | rfl) | rfl := hspace <;> exact absurd h (by decide)

theorem lexAttributes_tagEnd (empty : Bool) (fuel : Nat) (rest : Cells) :
    lexAttributes .utf8 (fuel + 1) (textCells (tagEndText empty) ++ rest) =
      .ok (([], empty), rest) := by
  cases empty <;> rfl

theorem lexAttributes_space {c : Char} (h : Encoding.isNameStart .utf8 c) (fuel : Nat)
    (rest : Cells) :
    lexAttributes .utf8 (fuel + 1) (.char ' ' :: .char c :: rest) = (do
      let (first, rest) ← lexAttribute .utf8 fuel (.char c :: rest)
      let ((others, empty), rest) ← lexAttributes .utf8 fuel rest
      .ok ((first :: others, empty), rest)) := by
  have hskip : skipSpace (.char ' ' :: .char c :: rest) = .char c :: rest := by
    simp [skipSpace, Cell.isSpace, isSpace_of_isNameStart h, show isSpace ' ' = true from rfl]
  rw [lexAttributes.eq_def]
  simp only [hskip, tagEnd?_of_isNameStart h]
  rfl

theorem exists_lexAttributes_written {attributes : List (String × String)}
    (hnames : ∀ written ∈ attributes, isXmlName .utf8 written.1) (empty : Bool) {fuel : Nat}
    (hfuel : (attributesText attributes).length < fuel) (rest : Cells) :
    ∃ raw : List RawAttribute,
      (raw.map fun r => (r.name, r.value?)) =
          attributes.map (fun written => (written.1, some written.2)) ∧
        lexAttributes .utf8 fuel
            (textCells (attributesText attributes) ++ (textCells (tagEndText empty) ++ rest)) =
          .ok ((raw, empty), rest) := by
  induction attributes generalizing fuel with
  | nil =>
      obtain ⟨fuel, rfl⟩ := Nat.exists_eq_add_one.2 hfuel
      exact ⟨[], rfl, lexAttributes_tagEnd empty fuel rest⟩
  | cons written attributes ih =>
      obtain ⟨name, value⟩ := written
      have hname := hnames _ List.mem_cons_self
      obtain ⟨fuel, rfl⟩ := Nat.exists_eq_add_one.2 (Nat.zero_lt_of_lt hfuel)
      have hlength : value.toList.length < fuel ∧ (attributesText attributes).length < fuel := by
        have hvalue := length_le_valueText value
        simp only [attributesText, List.flatMap_cons, attributeText, List.length_append,
          List.length_cons] at hfuel ⊢
        omega
      obtain ⟨others, hothers, hlater⟩ :=
        ih (fun written hwritten => hnames written (List.mem_cons_of_mem _ hwritten)) hlength.2
      obtain ⟨raw, hrawname, hvalue, hfirst⟩ := exists_lexAttribute_written hname value hlength.1
        (textCells (attributesText attributes) ++ (textCells (tagEndText empty) ++ rest))
      refine ⟨raw :: others, by simp [hrawname, hvalue, hothers], ?_⟩
      obtain ⟨c, cs, hcs, hc, -⟩ := exists_of_isXmlName hname
      have hcells : textCells (attributesText ((name, value) :: attributes)) ++
            (textCells (tagEndText empty) ++ rest) =
          .char ' ' :: (textCells name.toList ++ .char '=' :: .char '"' ::
            (textCells (valueText value) ++ .char '"' ::
              (textCells (attributesText attributes) ++
                (textCells (tagEndText empty) ++ rest)))) := by
        simp [attributesText, attributeText]
      rw [hcells, hcs, textCells_cons, List.cons_append, lexAttributes_space hc,
        ← List.cons_append, ← textCells_cons, ← hcs, hfirst]
      simp only [bind, Except.bind, hlater]

/-! ## Tags -/

theorem exists_char_attributesText (attributes : List (String × String)) (empty : Bool)
    (rest : Cells) :
    ∃ c behind, Encoding.isName .utf8 c = false ∧
      textCells (attributesText attributes) ++ (textCells (tagEndText empty) ++ rest) =
        .char c :: behind := by
  cases attributes with
  | nil =>
      cases empty with
      | false => exact ⟨'>', rest, by decide, rfl⟩
      | true => exact ⟨'/', .char '>' :: rest, by decide, rfl⟩
  | cons written attributes => exact ⟨' ', _, by decide, rfl⟩

theorem lexMarkup_of_isNameStart {c : Char} (h : Encoding.isNameStart .utf8 c) (fuel : Nat)
    (rest : Cells) :
    lexMarkup .utf8 fuel (.char c :: rest) = lexStartTag .utf8 fuel (.char c :: rest) := by
  unfold lexMarkup
  split
  case h_4 => rfl
  all_goals
    rename_i heq
    obtain ⟨⟨rfl⟩, -⟩ := List.cons.inj heq
    exact absurd h (by decide)

theorem exists_lexMarkup_startTagText {name : String} (hname : isXmlName .utf8 name)
    {attributes : List (String × String)}
    (hnames : ∀ written ∈ attributes, isXmlName .utf8 written.1) (empty : Bool) {fuel : Nat}
    (hfuel : (attributesText attributes).length < fuel) (rest : Cells) :
    ∃ raw : List RawAttribute,
      (raw.map fun r => (r.name, r.value?)) =
          attributes.map (fun written => (written.1, some written.2)) ∧
        lexMarkup .utf8 fuel
            (textCells name.toList ++ (textCells (attributesText attributes) ++
              (textCells (tagEndText empty) ++ rest))) =
          .ok (.startTag name raw empty, rest) := by
  obtain ⟨raw, hraw, hlex⟩ := exists_lexAttributes_written hnames empty hfuel rest
  refine ⟨raw, hraw, ?_⟩
  obtain ⟨c, cs, hcs, hc, -⟩ := exists_of_isXmlName hname
  obtain ⟨d, behind, hd, hbehind⟩ := exists_char_attributesText attributes empty rest
  rw [hbehind] at hlex ⊢
  rw [hcs, textCells_cons, List.cons_append, lexMarkup_of_isNameStart hc, ← List.cons_append,
    ← textCells_cons, ← hcs, lexStartTag, lexName_append hname hd]
  simp only [bind, Except.bind, hlex]

theorem lexMarkup_endTagText {name : String} (hname : isXmlName .utf8 name) (fuel : Nat)
    (rest : Cells) :
    lexMarkup .utf8 fuel (.char '/' :: (textCells name.toList ++ .char '>' :: rest)) =
      .ok (.endTag name (textCells name.toList ++ .char '>' :: rest), rest) := by
  have hend : Encoding.isName .utf8 '>' = false := by decide
  change lexEndTag _ _ = _
  rw [lexEndTag, lexName_append hname hend]
  rfl

end OptionBindings.Xml
