import OptionBindings.Proofs.Except
import OptionBindings.Xml.Markup
import OptionBindings.Xml.Prolog.Token

/-!
# What lexemes leave

Every lexeme takes at least one cell, so what is left behind it is shorter. The start of the root is
the one token that takes nothing.
-/

namespace OptionBindings.Xml

variable {encoding : Encoding} {cells rest : Cells}

/-! ## Names and references -/

theorem length_skipSpace_le (cells : Cells) : (skipSpace cells).length ≤ cells.length :=
  (List.dropWhile_suffix _).length_le

theorem length_eq_of_expectChar {c : Char} (h : expectChar c cells = .ok rest) :
    cells.length = rest.length + 1 := by
  unfold expectChar at h
  split at h
  · split at h
    · obtain rfl := Except.ok.inj h
      rfl
    · cases h
  · cases h

theorem length_nameChars_le (encoding : Encoding) (cells : Cells) :
    (nameChars encoding cells).2.length ≤ cells.length := by
  fun_induction nameChars encoding cells with
  | case1 c rest hname cs rest' hchars ih =>
      rw [hchars] at ih
      exact Nat.le_succ_of_le ih
  | case2 c rest hname => exact Nat.le_refl _
  | case3 cells hcells => exact Nat.le_refl _

theorem length_lt_of_lexName {name : String} (h : lexName encoding cells = .ok (name, rest)) :
    rest.length < cells.length := by
  unfold lexName at h
  split at h
  · rename_i c others
    split at h
    · have hchars := length_nameChars_le encoding others
      obtain ⟨-, rfl⟩ := Prod.mk.inj (Except.ok.inj h)
      exact Nat.lt_succ_of_le hchars
    · cases h
  · cases h

theorem length_lt_of_lexNameUntil {mark : Char} {name : String}
    (h : lexNameUntil encoding mark cells = .ok (name, rest)) : rest.length < cells.length := by
  obtain ⟨⟨word, behind⟩, hname, h⟩ := exists_of_bind_eq_ok h
  have hlength := length_lt_of_lexName hname
  simp only at h
  split at h
  · split at h
    · obtain ⟨-, rfl⟩ := Prod.mk.inj (Except.ok.inj h)
      exact Nat.lt_of_succ_lt hlength
    · cases h
  · cases h

theorem length_lt_of_lexDigits {base n value : Nat} (h : lexDigits base n cells = .ok (value, rest)) :
    rest.length < cells.length := by
  fun_induction lexDigits base n cells with
  | case1 n others =>
      obtain ⟨-, rfl⟩ := Prod.mk.inj (Except.ok.inj h)
      exact Nat.lt_succ_self _
  | case2 n c others hmark d hdigit ih => exact Nat.lt_succ_of_lt (ih h)
  | case3 => cases h
  | case4 => cases h

theorem length_lt_of_lexNumber {base value : Nat} (h : lexNumber base cells = .ok (value, rest)) :
    rest.length < cells.length := by
  unfold lexNumber at h
  split at h
  · cases h
  · exact length_lt_of_lexDigits h

theorem length_lt_of_lexReference {reference : Reference}
    (h : lexReference encoding cells = .ok (reference, rest)) : rest.length < cells.length := by
  unfold lexReference at h
  split at h
  · obtain ⟨⟨value, behind⟩, hnumber, h⟩ := exists_of_bind_eq_ok h
    obtain ⟨-, rfl⟩ := Prod.mk.inj (Except.ok.inj h)
    exact Nat.lt_succ_of_lt (Nat.lt_succ_of_lt (length_lt_of_lexNumber hnumber))
  · obtain ⟨⟨value, behind⟩, hnumber, h⟩ := exists_of_bind_eq_ok h
    obtain ⟨-, rfl⟩ := Prod.mk.inj (Except.ok.inj h)
    exact Nat.lt_succ_of_lt (length_lt_of_lexNumber hnumber)
  · obtain ⟨⟨name, behind⟩, hname, h⟩ := exists_of_bind_eq_ok h
    obtain ⟨-, rfl⟩ := Prod.mk.inj (Except.ok.inj h)
    exact length_lt_of_lexNameUntil hname

/-! ## Comments and instructions -/

theorem length_lt_of_skipComment (h : skipComment cells = .ok rest) : rest.length < cells.length := by
  fun_induction skipComment cells with
  | case1 others =>
      have hlength := length_eq_of_expectChar h
      simp only [List.length_cons]
      omega
  | case2 c others hhyphens ih => exact Nat.lt_succ_of_lt (ih h)
  | case3 => cases h

theorem length_lt_of_lexComment (h : lexComment cells = .ok rest) : rest.length < cells.length := by
  obtain ⟨second, hfirst, h⟩ := exists_of_bind_eq_ok h
  obtain ⟨third, hsecond, h⟩ := exists_of_bind_eq_ok h
  have hfirst := length_eq_of_expectChar hfirst
  have hsecond := length_eq_of_expectChar hsecond
  have hcomment := length_lt_of_skipComment h
  omega

theorem length_lt_of_skipInstruction (h : skipInstruction cells = .ok rest) :
    rest.length < cells.length := by
  fun_induction skipInstruction cells with
  | case1 others =>
      obtain rfl := Except.ok.inj h
      simp only [List.length_cons]
      omega
  | case2 c others hend ih => exact Nat.lt_succ_of_lt (ih h)
  | case3 => cases h

theorem length_lt_of_lexInstruction {kind : Instruction}
    (h : lexInstruction encoding cells = .ok (kind, rest)) : rest.length < cells.length := by
  obtain ⟨⟨target, behind⟩, hname, h⟩ := exists_of_bind_eq_ok h
  have hlength := length_lt_of_lexName hname
  simp only at h
  split at h
  · rename_i c others
    rw [List.length_cons] at hlength
    split at h
    · cases h
    · split at h
      · obtain ⟨behind, hskip, h⟩ := exists_of_bind_eq_ok h
        obtain ⟨-, rfl⟩ := Prod.mk.inj (Except.ok.inj h)
        have hskip := length_lt_of_skipInstruction hskip
        omega
      · split at h
        · obtain ⟨behind, hend, h⟩ := exists_of_bind_eq_ok h
          obtain ⟨-, rfl⟩ := Prod.mk.inj (Except.ok.inj h)
          have hend := length_eq_of_expectChar hend
          omega
        · cases h
  · cases h

/-! ## Markup of the content -/

theorem length_le_of_lexPieces {quote : Option Char} {fuel : Nat}
    (h : (lexPieces encoding quote fuel cells).2 = .ok rest) : rest.length ≤ cells.length := by
  induction fuel generalizing cells with
  | zero => cases h
  | succ fuel ih =>
      unfold lexPieces at h
      split at h
      · rename_i c others
        split at h
        · obtain rfl := Except.ok.inj h
          exact Nat.le_succ _
        split at h
        · cases h
        split at h
        · split at h
          · cases h
          · rename_i reference behind hreference
            have hlength := length_lt_of_lexReference hreference
            exact Nat.le_of_lt (Nat.lt_succ_of_lt (Nat.lt_of_le_of_lt (ih h) hlength))
        split at h
        · split at h
          · exact Nat.le_succ_of_le (Nat.le_succ_of_le (ih h))
          · exact Nat.le_succ_of_le (ih h)
        · exact Nat.le_succ_of_le (ih h)
      · split at h
        · obtain rfl := Except.ok.inj h
          exact Nat.le_refl _
        · cases h
      · cases h

theorem length_lt_of_lexQuoted {fuel : Nat} {pieces : List Piece}
    (h : lexQuoted encoding fuel cells = .ok (pieces, rest)) : rest.length < cells.length := by
  unfold lexQuoted at h
  split at h
  · rename_i c others
    split at h
    · split at h
      · rename_i found behind hpieces
        obtain ⟨-, rfl⟩ := Prod.mk.inj (Except.ok.inj h)
        exact Nat.lt_succ_of_le (length_le_of_lexPieces (congrArg Prod.snd hpieces))
      · cases h
    · cases h
  · cases h

theorem length_lt_of_lexAttribute {fuel : Nat} {raw : RawAttribute}
    (h : lexAttribute encoding fuel cells = .ok (raw, rest)) : rest.length < cells.length := by
  obtain ⟨⟨name, behind⟩, hname, h⟩ := exists_of_bind_eq_ok h
  replace hname := length_lt_of_lexName hname
  simp only at h
  split at h
  · rename_i others c tail
    obtain ⟨value, hequal, h⟩ := exists_of_bind_eq_ok h
    obtain ⟨⟨pieces, last⟩, hquoted, h⟩ := exists_of_bind_eq_ok h
    simp only [Except.ok.injEq, Prod.mk.injEq] at h
    obtain ⟨-, rfl⟩ := h
    have hskip := length_skipSpace_le (.char c :: tail)
    have hequal := length_eq_of_expectChar hequal
    have hvalue := length_skipSpace_le value
    have hquoted := length_lt_of_lexQuoted hquoted
    omega
  · cases h

theorem length_lt_of_tagEnd? {empty : Bool} (h : tagEnd? cells = some (.ok (empty, rest))) :
    rest.length < cells.length := by
  unfold tagEnd? at h
  split at h
  · obtain ⟨-, rfl⟩ := Prod.mk.inj (Except.ok.inj (Option.some.inj h))
    exact Nat.lt_succ_self _
  · rename_i others
    have h := Option.some.inj h
    cases hend : expectChar '>' others with
    | error stop =>
        rw [hend] at h
        cases h
    | ok behind =>
        rw [hend] at h
        obtain ⟨-, rfl⟩ := Prod.mk.inj (Except.ok.inj h)
        have hlength := length_eq_of_expectChar hend
        simp only [List.length_cons]
        omega
  · cases h

theorem length_lt_of_tagEnd?_map {outcome : Except Stop (Bool × Cells)} {attributes : List RawAttribute}
    {empty : Bool} (hend : tagEnd? cells = some outcome)
    (h : (outcome.map fun (empty, rest) => ((([] : List RawAttribute), empty), rest)) =
      .ok ((attributes, empty), rest)) : rest.length < cells.length := by
  cases outcome with
  | error stop => cases h
  | ok found =>
      obtain ⟨closed, behind⟩ := found
      obtain ⟨-, rfl⟩ := Prod.mk.inj (Except.ok.inj h)
      exact length_lt_of_tagEnd? hend

theorem length_lt_of_lexAttributes {fuel : Nat} {attributes : List RawAttribute} {empty : Bool}
    (h : lexAttributes encoding fuel cells = .ok ((attributes, empty), rest)) :
    rest.length < cells.length := by
  induction fuel generalizing cells attributes with
  | zero => cases h
  | succ fuel ih =>
      unfold lexAttributes at h
      split at h
      · rename_i outcome hend
        exact length_lt_of_tagEnd?_map hend h
      split at h
      · rename_i c others hopen
        split at h
        · have hskip := length_skipSpace_le (.char c :: others)
          simp only at h
          split at h
          · rename_i outcome hend
            exact Nat.lt_of_lt_of_le (length_lt_of_tagEnd?_map hend h) hskip
          · obtain ⟨⟨first, behind⟩, hfirst, h⟩ := exists_of_bind_eq_ok h
            obtain ⟨⟨⟨later, closed⟩, last⟩, hlater, h⟩ := exists_of_bind_eq_ok h
            simp only [Except.ok.injEq, Prod.mk.injEq] at h
            obtain ⟨⟨-, rfl⟩, rfl⟩ := h
            have hfirst := length_lt_of_lexAttribute hfirst
            exact Nat.lt_trans (ih hlater) (Nat.lt_of_lt_of_le hfirst hskip)
        · cases h
      · cases h

theorem length_lt_of_lexStartTag {fuel : Nat} {markup : Markup}
    (h : lexStartTag encoding fuel cells = .ok (markup, rest)) : rest.length < cells.length := by
  obtain ⟨⟨name, behind⟩, hname, h⟩ := exists_of_bind_eq_ok h
  replace hname := length_lt_of_lexName hname
  simp only at h
  split at h
  · cases h
  · obtain ⟨⟨⟨attributes, empty⟩, others⟩, hattributes, h⟩ := exists_of_bind_eq_ok h
    obtain ⟨-, rfl⟩ := Prod.mk.inj (Except.ok.inj h)
    exact Nat.lt_trans (length_lt_of_lexAttributes hattributes) hname

theorem length_lt_of_lexEndTag {markup : Markup}
    (h : lexEndTag encoding cells = .ok (markup, rest)) : rest.length < cells.length := by
  obtain ⟨⟨name, behind⟩, hname, h⟩ := exists_of_bind_eq_ok h
  replace hname := length_lt_of_lexName hname
  simp only at h
  split at h
  · rename_i behind others c tail
    obtain ⟨last, hend, h⟩ := exists_of_bind_eq_ok h
    obtain ⟨-, rfl⟩ := Prod.mk.inj (Except.ok.inj h)
    have hend := length_eq_of_expectChar hend
    have hskip := length_skipSpace_le (.char c :: tail)
    omega
  · cases h

theorem length_le_of_foldlM_expectChar {word : List Char}
    (h : word.foldlM (fun rest c => expectChar c rest) cells = .ok rest) :
    rest.length ≤ cells.length := by
  induction word generalizing cells with
  | nil =>
      obtain rfl := Except.ok.inj h
      exact Nat.le_refl _
  | cons c word ih =>
      obtain ⟨behind, hfirst, h⟩ := exists_of_bind_eq_ok h
      have hfirst := length_eq_of_expectChar hfirst
      have hrest := ih h
      omega

theorem length_le_of_lexOpenCData {markup : Markup}
    (h : lexOpenCData encoding cells = .ok (markup, rest)) : rest.length ≤ cells.length := by
  unfold lexOpenCData at h
  split at h
  · cases h
  · obtain ⟨behind, hword, h⟩ := exists_of_bind_eq_ok h
    obtain ⟨-, rfl⟩ := Prod.mk.inj (Except.ok.inj h)
    exact length_le_of_foldlM_expectChar hword

theorem length_lt_of_lexMarkup {fuel : Nat} {markup : Markup}
    (h : lexMarkup encoding fuel cells = .ok (markup, rest)) : rest.length < cells.length := by
  unfold lexMarkup at h
  split at h
  · split at h
    · obtain ⟨behind, hcomment, h⟩ := exists_of_bind_eq_ok h
      obtain ⟨-, rfl⟩ := Prod.mk.inj (Except.ok.inj h)
      exact Nat.lt_succ_of_lt (length_lt_of_lexComment hcomment)
    · exact Nat.lt_succ_of_le (Nat.le_succ_of_le (length_le_of_lexOpenCData h))
    · cases h
  · obtain ⟨⟨kind, behind⟩, hinstruction, h⟩ := exists_of_bind_eq_ok h
    obtain ⟨-, rfl⟩ := Prod.mk.inj (Except.ok.inj h)
    exact Nat.lt_succ_of_lt (length_lt_of_lexInstruction hinstruction)
  · exact Nat.lt_succ_of_lt (length_lt_of_lexEndTag h)
  · exact length_lt_of_lexStartTag h

theorem length_lt_of_skipCData (h : skipCData cells = .ok rest) : rest.length < cells.length := by
  fun_induction skipCData cells with
  | case1 others =>
      obtain rfl := Except.ok.inj h
      simp only [List.length_cons]
      omega
  | case2 c others hend ih => exact Nat.lt_succ_of_lt (ih h)
  | case3 => cases h

/-! ## Tokens of the prolog -/

namespace Prolog

theorem length_le_of_endsBefore {token found : Token} {isEnd : Char → Bool}
    (h : endsBefore token isEnd cells = .ok (found, rest)) :
    found = token ∧ rest.length ≤ cells.length := by
  unfold endsBefore at h
  split at h
  · split at h
    · obtain ⟨rfl, rfl⟩ := Prod.mk.inj (Except.ok.inj h)
      exact ⟨rfl, Nat.le_refl _⟩
    · cases h
  · split at h
    · obtain ⟨rfl, rfl⟩ := Prod.mk.inj (Except.ok.inj h)
      exact ⟨rfl, Nat.zero_le _⟩
    · cases h

theorem length_lt_of_untilQuote {quote : Char} {body : Cells}
    (h : untilQuote quote cells = .ok (body, rest)) :
    body.length + rest.length < cells.length := by
  induction cells generalizing body with
  | nil => cases h
  | cons cell cells ih =>
      unfold untilQuote at h
      split at h
      · rename_i c others hcells
        obtain ⟨rfl, rfl⟩ := List.cons.inj hcells
        split at h
        · obtain ⟨rfl, rfl⟩ := Prod.mk.inj (Except.ok.inj h)
          simp
        · obtain ⟨⟨inner, behind⟩, hinner, h⟩ := exists_of_bind_eq_ok h
          obtain ⟨rfl, rfl⟩ := Prod.mk.inj (Except.ok.inj h)
          have hinner := ih hinner
          simp only [List.length_cons]
          omega
      · cases h

/-- How many cells a token has at least. -/
def Token.size : Token → Nat
  | literal body => body.length + 1
  | root => 0
  | _ => 1

theorem Token.size_pos {token : Token} (h : token ≠ .root) : 0 < token.size := by
  cases token with
  | root => exact absurd rfl h
  | _ => exact Nat.succ_pos _

theorem size_add_length_le_of_lexLiteral {quote : Char} {token : Token}
    (h : lexLiteral quote cells = .ok (token, rest)) : token.size + rest.length ≤ cells.length := by
  obtain ⟨⟨body, behind⟩, hbody, h⟩ := exists_of_bind_eq_ok h
  have hbody := length_lt_of_untilQuote hbody
  obtain ⟨rfl, hend⟩ := length_le_of_endsBefore h
  simp only [Token.size] at *
  omega

theorem length_keywordLetters_le (encoding : Encoding) (cells : Cells) :
    (keywordLetters encoding cells).2.length ≤ cells.length := by
  induction cells with
  | nil => exact Nat.le_refl _
  | cons cell rest ih =>
      cases cell with
      | char c =>
          rw [keywordLetters]
          split
          · exact Nat.le_succ_of_le ih
          · exact Nat.le_refl _
      | _ => exact Nat.le_refl _

theorem size_add_length_le_of_lexDeclaration {token : Token}
    (h : lexDeclaration encoding cells = .ok (token, rest)) :
    token.size + rest.length ≤ cells.length + 1 := by
  unfold lexDeclaration at h
  split at h
  · obtain ⟨behind, hcomment, h⟩ := exists_of_bind_eq_ok h
    obtain ⟨rfl, rfl⟩ := Prod.mk.inj (Except.ok.inj h)
    have hcomment := length_lt_of_lexComment hcomment
    simp only [Token.size]
    omega
  · obtain ⟨rfl, rfl⟩ := Prod.mk.inj (Except.ok.inj h)
    simp only [Token.size, List.length_cons]
    omega
  · have hkeyword := length_keywordLetters_le encoding cells
    split at h
    · cases h
    · rename_i letters behind hnonempty hletters
      have hfound : token = .openDeclaration (String.ofList letters) ∧ rest = behind := by
        simp only at h
        grind
      obtain ⟨rfl, rfl⟩ := hfound
      simp only [hletters] at hkeyword
      simp only [Token.size]
      omega

theorem size_add_length_le_of_lexPercent {token : Token}
    (h : lexPercent encoding cells = .ok (token, rest)) :
    token.size + rest.length ≤ cells.length + 1 := by
  unfold lexPercent at h
  split at h
  · split at h
    · obtain ⟨rfl, rfl⟩ := Prod.mk.inj (Except.ok.inj h)
      simp only [Token.size]
      omega
    · obtain ⟨⟨name, behind⟩, hname, h⟩ := exists_of_bind_eq_ok h
      obtain ⟨rfl, rfl⟩ := Prod.mk.inj (Except.ok.inj h)
      have hname := length_lt_of_lexNameUntil hname
      simp only [Token.size]
      omega
  · cases h

theorem size_add_length_le_of_lexKeyword {token : Token}
    (h : lexKeyword encoding cells = .ok (token, rest)) :
    token.size + rest.length ≤ cells.length + 1 := by
  obtain ⟨⟨word, behind⟩, hname, h⟩ := exists_of_bind_eq_ok h
  replace hname := length_lt_of_lexName hname
  simp only at h
  split at h
  · cases h
  · obtain ⟨rfl, hend⟩ := length_le_of_endsBefore h
    simp only [Token.size]
    omega

theorem size_add_length_le_of_lexWord {first : Char} {token : Token}
    (h : lexWord encoding first cells = .ok (token, rest)) :
    token.size + rest.length ≤ cells.length + 1 := by
  have hchars := length_nameChars_le encoding cells
  have hends : ∀ {isName : Bool} {word : String} {others : Cells},
      lexWord.ends isName word others = .ok (token, rest) →
        token.size = 1 ∧ rest.length ≤ others.length := by
    intro isName word others hends
    obtain ⟨rfl, hend⟩ := length_le_of_endsBefore hends
    exact ⟨by cases isName <;> rfl, hend⟩
  unfold lexWord at h
  simp only at h
  split at h
  · rename_i c others hothers
    rw [hothers, List.length_cons] at hchars
    split at h
    · obtain ⟨rfl, rfl⟩ := Prod.mk.inj (Except.ok.inj h)
      simp only [Token.size]
      omega
    · have hends := hends h
      rw [hothers, List.length_cons] at hends
      omega
  · cases h
  · have hends := hends h
    omega

/-- Every token takes its cells, and the start of the root alone has none. -/
theorem size_add_length_le_of_lexToken {token : Token}
    (h : lexToken encoding cells = .ok (token, rest)) : token.size + rest.length ≤ cells.length := by
  have hone : ∀ {found : Token} {others : Cells}, found.size = 1 →
      (Except.ok (found, others) : Except Stop (Token × Cells)) = .ok (token, rest) →
      others.length < cells.length → token.size + rest.length ≤ cells.length := by
    intro found others hsize heq hlength
    obtain ⟨rfl, rfl⟩ := Prod.mk.inj (Except.ok.inj heq)
    omega
  unfold lexToken at h
  split at h
  · rename_i c others
    split at h
    · exact hone rfl h (Nat.lt_succ_of_le (length_skipSpace_le others))
    · split at h
      · exact Nat.le_succ_of_le (size_add_length_le_of_lexLiteral h)
      · exact Nat.le_succ_of_le (size_add_length_le_of_lexLiteral h)
      · -- `<` starts a declaration, an instruction or the root
        split at h
        · have hdeclaration := size_add_length_le_of_lexDeclaration h
          simp only [List.length_cons]
          omega
        · obtain ⟨⟨kind, behind⟩, hinstruction, h⟩ := exists_of_bind_eq_ok h
          have hinstruction := length_lt_of_lexInstruction hinstruction
          refine hone rfl h ?_
          simp only [List.length_cons]
          omega
        · split at h
          · obtain ⟨rfl, rfl⟩ := Prod.mk.inj (Except.ok.inj h)
            simp [Token.size]
          · cases h
        · cases h
      · exact size_add_length_le_of_lexPercent h
      · exact hone rfl h (Nat.lt_succ_self _)
      · exact hone rfl h (Nat.lt_succ_self _)
      · -- `]` may go on to `]]>`
        split at h
        · refine hone rfl h ?_
          simp only [List.length_cons]
          omega
        · split at h
          · cases h
          · exact hone rfl h (Nat.lt_succ_self _)
        · refine hone rfl h ?_
          split
          · exact Nat.succ_pos _
          · exact Nat.lt_succ_self _
      · exact hone rfl h (Nat.lt_succ_self _)
      · -- `)` takes the repetition mark behind it
        split at h
        · rename_i mark tail
          split at h
          · refine hone rfl h ?_
            simp only [List.length_cons]
            omega
          · obtain ⟨rfl, hend⟩ := length_le_of_endsBefore h
            simp only [Token.size, List.length_cons] at *
            omega
        · obtain ⟨rfl, hend⟩ := length_le_of_endsBefore h
          simp only [Token.size, List.length_cons] at *
          omega
      · exact hone rfl h (Nat.lt_succ_self _)
      · exact hone rfl h (Nat.lt_succ_self _)
      · exact size_add_length_le_of_lexKeyword h
      · split at h
        · exact size_add_length_le_of_lexWord h
        · cases h
  · cases h

end Prolog

end OptionBindings.Xml
