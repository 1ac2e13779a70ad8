import Mathlib.Data.List.TakeWhile
import OptionBindings.Binding.Check
import OptionBindings.Proofs.Identifier.Grammar
import OptionBindings.Proofs.Text.Lines

/-!
# The check of one line

A line whose code is blank says nothing. A line that declares a constant is read as such if its
identifier has no white space, and is then judged by its identifier and its value.
-/

namespace OptionBindings.Check

open Text

/-! ## The code of a line -/

theorem code_cons_of_ne {c : Char} {rest : List Char} (h : c ≠ '/') :
    code (c :: rest) = c :: code rest := by
  rw [code]
  rintro tail rfl -
  exact h rfl

theorem code_append_slashes {first : List Char} (h : '/' ∉ first) (rest : List Char) :
    code (first ++ '/' :: '/' :: rest) = first := by
  induction first with
  | nil => rfl
  | cons c first ih =>
      rw [List.cons_append, code_cons_of_ne (List.ne_of_not_mem_cons h).symm,
        ih (List.not_mem_of_not_mem_cons h)]

theorem code_eq_self {text : List Char} (h : ¬ ['/', '/'] <:+: text) : code text = text := by
  fun_induction code text with
  | case1 => rfl
  | case2 rest => exact absurd ⟨[], rest, rfl⟩ h
  | case3 c rest _ ih =>
      rw [ih fun hinfix => h (List.infix_cons hinfix)]

theorem slashes_infix_append_cons {first rest : List Char} {c : Char} (hc : c ≠ '/')
    (h : ['/', '/'] <:+: first ++ c :: rest) :
    ['/', '/'] <:+: first ∨ ['/', '/'] <:+: rest := by
  rcases List.infix_append_iff_ne_nil.1 h with hfirst | hrest | ⟨start, stop, -, hne, hsplit, -, hstop⟩
  · exact .inl hfirst
  · rcases List.infix_cons_iff.1 hrest with hprefix | hrest
    · exact absurd (List.cons_prefix_cons.1 hprefix).1.symm hc
    · exact .inr hrest
  · have hslash : ∀ d ∈ stop, d = '/' := by
      intro d hd
      have hmem : d ∈ ['/', '/'] := hsplit ▸ List.mem_append_right start hd
      simpa using hmem
    cases stop with
    | nil => exact absurd rfl hne
    | cons d stop =>
        obtain ⟨rfl, -⟩ := List.cons_prefix_cons.1 hstop
        exact absurd (hslash d (by simp)) hc

/-! ## Brackets -/

def isBracket (c : Char) : Bool :=
  isOpening c || (opening? c).isSome

private theorem ok_bind {α β : Type} (a : α) (f : α → Except CheckError β) :
    (Except.ok a >>= f) = f a :=
  rfl

theorem brackets_append (number : Nat) (pending : Pending) (first second : List Char) :
    brackets number pending (first ++ second) =
      brackets number pending first >>= fun pending => brackets number pending second := by
  rw [brackets, List.foldlM_append]
  rfl

theorem brackets_cons (number : Nat) (pending : Pending) (c : Char) (text : List Char) :
    brackets number pending (c :: text) =
      bracket number pending c >>= fun pending => brackets number pending text := by
  rw [brackets, List.foldlM_cons]
  rfl

theorem bracket_of_not_isBracket {c : Char} (h : isBracket c = false) (number : Nat)
    (pending : Pending) : bracket number pending c = .ok pending := by
  rw [isBracket, Bool.or_eq_false_iff] at h
  obtain ⟨hopening, hclosing⟩ := h
  have hnone : opening? c = none := by simpa using hclosing
  rw [bracket, if_neg (by simp [hopening]), hnone]

theorem brackets_of_not_isBracket {text : List Char} (h : ∀ c ∈ text, isBracket c = false)
    (number : Nat) (pending : Pending) : brackets number pending text = .ok pending := by
  induction text with
  | nil => rfl
  | cons c text ih =>
      rw [brackets_cons, bracket_of_not_isBracket (h c (by simp))]
      exact ih fun d hd => h d (by simp [hd])

theorem brackets_parentheses {before inner : List Char} (hbefore : ∀ c ∈ before, isBracket c = false)
    (hinner : ∀ c ∈ inner, isBracket c = false) (number : Nat) (pending : Pending) :
    brackets number pending (before ++ '(' :: inner ++ [')']) = .ok pending := by
  have hopen : bracket number pending '(' = .ok (('(', number) :: pending) := rfl
  have hclose : brackets number (('(', number) :: pending) [')'] = .ok pending := rfl
  calc brackets number pending (before ++ '(' :: inner ++ [')'])
      = brackets number pending ('(' :: (inner ++ [')'])) := by
        rw [List.append_assoc, List.cons_append, brackets_append,
          brackets_of_not_isBracket hbefore, ok_bind]
    _ = brackets number (('(', number) :: pending) (inner ++ [')']) := by
        rw [brackets_cons, hopen, ok_bind]
    _ = brackets number (('(', number) :: pending) [')'] := by
        rw [brackets_append, brackets_of_not_isBracket hinner, ok_bind]
    _ = .ok pending := hclose

/-! ## Declarations -/

theorem after?_append (start rest : List Char) : after? start (start ++ rest) = some rest :=
  List.isPrefixOf?_eq_some_iff_append_eq.2 rfl

theorem takeWhile_append_of_head {p : Char → Bool} {first rest : List Char}
    (hfirst : ∀ c ∈ first, p c = true) (hrest : ∀ c, rest.head? = some c → p c = false) :
    (first ++ rest).takeWhile p = first := by
  have hstop : rest.takeWhile p = [] := by
    cases rest with
    | nil => rfl
    | cons c rest => rw [List.takeWhile_cons, hrest c rfl, if_neg Bool.false_ne_true]
  rw [List.takeWhile_append_of_pos hfirst, hstop, List.append_nil]

theorem dropWhile_append_of_head {p : Char → Bool} {first rest : List Char}
    (hfirst : ∀ c ∈ first, p c = true) (hrest : ∀ c, rest.head? = some c → p c = false) :
    (first ++ rest).dropWhile p = rest := by
  rw [List.dropWhile_append_of_pos hfirst]
  cases rest with
  | nil => rfl
  | cons c rest => rw [List.dropWhile_cons, hrest c rfl, if_neg Bool.false_ne_true]

theorem constant?_of_isBlank {text : List Char} (h : ∀ c ∈ text, isBlank c = true) :
    constant? text = none := by
  have hdrop : text.dropWhile isBlank = [] := List.dropWhile_eq_nil_iff.2 h
  rw [constant?, hdrop]
  rfl

theorem constant?_of_indent {indent identifier : List Char}
    (hindent : ∀ c ∈ indent, isBlank c = true) (hne : identifier ≠ [])
    (hblank : ∀ c ∈ identifier, isBlank c = false) (value : List Char) :
    constant? (indent ++ "public static let ".toList ++ identifier ++ " = ".toList ++ value) =
      some (identifier, value) := by
  have hstart : (indent ++ ("public static let ".toList ++ (identifier ++
      (" = ".toList ++ value)))).dropWhile isBlank =
        "public static let ".toList ++ (identifier ++ (" = ".toList ++ value)) :=
    dropWhile_append_of_head hindent (by rintro c hc; cases hc; rfl)
  have htake : (identifier ++ (" = ".toList ++ value)).takeWhile (!isBlank ·) = identifier :=
    takeWhile_append_of_head (by simpa using hblank) (by rintro c hc; cases hc; rfl)
  have hdrop : (identifier ++ (" = ".toList ++ value)).dropWhile (!isBlank ·) =
      " = ".toList ++ value :=
    dropWhile_append_of_head (by simpa using hblank) (by rintro c hc; cases hc; rfl)
  simp only [List.append_assoc, constant?, hstart, after?_append, Option.bind_eq_bind,
    Option.bind_some, htake, hdrop, if_neg hne]

theorem constant?_declaration {identifier : List Char} (hne : identifier ≠ [])
    (hblank : ∀ c ∈ identifier, isBlank c = false) (value : List Char) :
    constant? ("    public static let ".toList ++ identifier ++ " = ".toList ++ value) =
      some (identifier, value) := by
  have hindent : ∀ c ∈ "    ".toList, isBlank c = true := by decide
  exact constant?_of_indent hindent hne hblank value

theorem trim_eq_self {first last : Char} {inner : List Char} (hfirst : isBlank first = false)
    (hlast : isBlank last = false) : trim (first :: inner ++ [last]) = first :: inner ++ [last] := by
  rw [trim, List.cons_append, List.dropWhile_cons_of_neg (by simp [hfirst]), trimRight,
    ← List.cons_append, List.reverse_append, List.reverse_singleton, List.singleton_append,
    List.dropWhile_cons_of_neg (by simp [hlast])]
  simp

theorem isInitializer_append {type : List Char} (htype : Identifier.IsPlainWord type)
    (symbol : List Char) :
    isInitializer (type ++ "(rawValue: ".toList ++ symbol ++ [')']) =
      (!symbol.contains ')' && Identifier.accepts symbol) := by
  have hhead : ∀ c, ("(rawValue: ".toList ++ (symbol ++ [')'])).head? = some c →
      Identifier.isPart c = false := by
    rintro c hc
    cases hc
    rfl
  simp only [List.append_assoc, isInitializer]
  rw [takeWhile_append_of_head htype.isPart hhead, dropWhile_append_of_head htype.isPart hhead,
    after?_append]
  simp [Identifier.isWord_iff.2 htype]

/-! ## Whole lines -/

/-- The two judgements on a declaration whose brackets are in order. -/
theorem line_of_constant? {number : Nat} {pending next : Pending} {text identifier value : List Char}
    (hbrackets : brackets number pending (code text) = .ok next)
    (hconstant : constant? (code text) = some (identifier, value)) :
    line number pending text =
      if Identifier.accepts identifier then
        if isInitializer (trim value) then .ok next else .error (.invalidInitializer value number)
      else .error (.invalidIdentifier identifier number) := by
  rw [line, hbrackets, ok_bind, constant, hconstant]
  cases hidentifier : Identifier.accepts identifier with
  | false =>
      simp only [hidentifier]
      rfl
  | true =>
      cases hvalue : isInitializer (trim value) with
      | false =>
          simp only [hidentifier, hvalue]
          rfl
      | true =>
          simp only [hidentifier, hvalue]
          rfl

theorem accepts_of_line_eq_ok {number : Nat} {pending rest : Pending}
    {text identifier value : List Char} (h : line number pending text = .ok rest)
    (hconstant : constant? (code text) = some (identifier, value)) :
    Identifier.accepts identifier = true ∧ isInitializer (trim value) = true := by
  rw [line] at h
  cases hbrackets : brackets number pending (code text) with
  | error error =>
      rw [hbrackets] at h
      cases h
  | ok open' =>
      rw [hbrackets, ok_bind, constant, hconstant] at h
      cases hidentifier : Identifier.accepts identifier with
      | false =>
          simp only [hidentifier] at h
          cases h
      | true =>
          cases hvalue : isInitializer (trim value) with
          | false =>
              simp only [hidentifier, hvalue] at h
              cases h
          | true => exact ⟨rfl, rfl⟩

theorem line_of_isBlank_code {text : List Char} (h : ∀ c ∈ code text, isBlank c = true)
    (number : Nat) (pending : Pending) : line number pending text = .ok pending := by
  have hbracket : ∀ c ∈ code text, isBracket c = false := by
    intro c hc
    have hall : ∀ c ∈ blanks, isBracket c = false := by decide
    exact hall c (by simpa [isBlank] using h c hc)
  rw [line, brackets_of_not_isBracket hbracket, constant, constant?_of_isBlank h]
  rfl

end OptionBindings.Check
