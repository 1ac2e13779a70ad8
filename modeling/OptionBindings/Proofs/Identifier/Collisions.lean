import Mathlib.Data.List.SplitBy
import OptionBindings.Binding.Declaration
import OptionBindings.Proofs.Identifier.Repetition

/-!
# Names that share an identifier

The capitals of an identifier are where the segments of its name start, provided that every segment
starts with a letter and the name is not in camel case already. So the segments can be read off the
identifier, up to their case, and two such names share one if and only if they have the same segments
up to case.
-/

namespace OptionBindings.Identifier

open Text

/-- A name of letters, digits and underscores with a letter at the start of each of its segments,
which is not in mixed case already: it has an underscore, or starts with a capital, or has none. -/
structure IsSnakeCase (name : List Char) : Prop where
  isPart : ∀ c ∈ name, isPart c = true
  segments_ne_nil : segments name ≠ []
  startsWithLetter : ∀ segment ∈ segments name, segment.head?.any Char.isAlpha = true
  not_mixed : '_' ∈ name ∨ name.head?.any Char.isUpper = true ∨ ∀ c ∈ name, c.isUpper = false

instance (name : List Char) : Decidable (IsSnakeCase name) :=
  decidable_of_iff
    ((∀ c ∈ name, Identifier.isPart c = true) ∧ segments name ≠ [] ∧
      (∀ segment ∈ segments name, segment.head?.any Char.isAlpha = true) ∧
      ('_' ∈ name ∨ name.head?.any Char.isUpper = true ∨ ∀ c ∈ name, c.isUpper = false))
    ⟨fun ⟨h₁, h₂, h₃, h₄⟩ => ⟨h₁, h₂, h₃, h₄⟩, fun ⟨h₁, h₂, h₃, h₄⟩ => ⟨h₁, h₂, h₃, h₄⟩⟩

def SameSegments (first second : List Char) : Prop :=
  (segments first).map lower = (segments second).map lower

def tidied (name : List Char) : List Char :=
  List.intercalate ['_'] ((segments name).map lower)

/-! ## Words that start with a letter -/

/-- How the two cases of a letter, digit or underscore go with each other. -/
structure HasTwoCases (c : Char) : Prop where
  toLower_toLower : c.toLower.toLower = c.toLower
  toLower_toUpper : c.toUpper.toLower = c.toLower
  toUpper_toLower : c.toLower.toUpper = c.toUpper
  isUpper_toLower : c.toLower.isUpper = false
  isUpper_toUpper : c.toUpper.isUpper = c.isAlpha
  toLower_eq_self : c.isUpper = false → c.toLower = c

instance (c : Char) : Decidable (HasTwoCases c) :=
  decidable_of_iff
    (c.toLower.toLower = c.toLower ∧ c.toUpper.toLower = c.toLower ∧
      c.toLower.toUpper = c.toUpper ∧ c.toLower.isUpper = false ∧ c.toUpper.isUpper = c.isAlpha ∧
      (c.isUpper = false → c.toLower = c))
    ⟨fun ⟨h₁, h₂, h₃, h₄, h₅, h₆⟩ => ⟨h₁, h₂, h₃, h₄, h₅, h₆⟩,
      fun ⟨h₁, h₂, h₃, h₄, h₅, h₆⟩ => ⟨h₁, h₂, h₃, h₄, h₅, h₆⟩⟩

theorem hasTwoCases_of_isPart {c : Char} (h : isPart c = true) : HasTwoCases c :=
  ascii_forall (by decide +kernel) (toNat_lt_of_isPart h)

structure IsLetterWord (part : List Char) : Prop where
  isPart : ∀ c ∈ part, Identifier.isPart c = true
  startsWithLetter : part.head?.any Char.isAlpha = true

theorem IsSnakeCase.isLetterWord {name : List Char} (h : IsSnakeCase name) :
    ∀ segment ∈ segments name, IsLetterWord segment :=
  fun segment hsegment =>
    ⟨isPart_of_mem_segments h.isPart hsegment, h.startsWithLetter segment hsegment⟩

theorem lower_lower (text : List Char) : lower (lower text) = lower text :=
  lowerAfter_eq_self_iff.2 lowerChar_of_mem_lowerAfter

theorem lower_of_isPart {text : List Char} (h : ∀ c ∈ text, isPart c = true) :
    lower text = text.map Char.toLower :=
  lowerAfter_of_isPart h

theorem map_toLower_map_toLower {text : List Char} (h : ∀ c ∈ text, isPart c = true) :
    (text.map Char.toLower).map Char.toLower = text.map Char.toLower := by
  rw [List.map_map]
  apply List.map_congr_left
  intro c hc
  exact (hasTwoCases_of_isPart (h c hc)).toLower_toLower

namespace IsLetterWord

variable {part : List Char}

theorem cases (h : IsLetterWord part) :
    ∃ c rest, part = c :: rest ∧ c.isAlpha = true ∧ Identifier.isPart c = true ∧
      ∀ d ∈ rest, Identifier.isPart d = true := by
  obtain ⟨c, hc, halpha⟩ := (Option.any_eq_true _ _).1 h.startsWithLetter
  obtain ⟨rest, rfl⟩ := List.head?_eq_some_iff.1 hc
  exact ⟨c, rest, rfl, halpha, h.isPart c (by simp), fun d hd => h.isPart d (by simp [hd])⟩

theorem ne_nil (h : IsLetterWord part) : part ≠ [] := by
  obtain ⟨c, rest, rfl, -⟩ := h.cases
  exact List.cons_ne_nil c rest

theorem lower_capitalize (h : IsLetterWord part) : lower (capitalize part) = lower part := by
  obtain ⟨c, rest, rfl, -, hc, hrest⟩ := h.cases
  rw [lower_of_isPart (isPart_capitalize h.isPart), lower_of_isPart h.isPart,
    capitalize_of_isPart hc hrest, List.map_cons, List.map_cons,
    (hasTwoCases_of_isPart hc).toLower_toUpper, map_toLower_map_toLower hrest]

theorem capitalize_lower (h : IsLetterWord part) : capitalize (lower part) = capitalize part := by
  obtain ⟨c, rest, rfl, -, hc, hrest⟩ := h.cases
  rw [lower_of_isPart h.isPart, List.map_cons,
    capitalize_of_isPart (keepsKind_toLower hc).isPart (isPart_map_toLower hrest),
    capitalize_of_isPart hc hrest, (hasTwoCases_of_isPart hc).toUpper_toLower,
    map_toLower_map_toLower hrest]

theorem lower_ne_nil (h : IsLetterWord part) : lower part ≠ [] := by
  rw [ne_eq, (lower_recased part).eq_nil_iff]
  exact h.ne_nil

theorem isUpper_lower (h : IsLetterWord part) : ∀ c ∈ lower part, c.isUpper = false := by
  rw [lower_of_isPart h.isPart]
  intro d hd
  obtain ⟨c, hc, rfl⟩ := List.mem_map.1 hd
  exact (hasTwoCases_of_isPart (h.isPart c hc)).isUpper_toLower

theorem capitalize_cases (h : IsLetterWord part) :
    ∃ first rest, capitalize part = first :: rest ∧ first.isUpper = true ∧
      ∀ c ∈ rest, c.isUpper = false := by
  obtain ⟨c, rest, rfl, halpha, hc, hrest⟩ := h.cases
  refine ⟨c.toUpper, rest.map Char.toLower, capitalize_of_isPart hc hrest,
    (hasTwoCases_of_isPart hc).isUpper_toUpper.trans halpha, ?_⟩
  intro d hd
  obtain ⟨e, he, rfl⟩ := List.mem_map.1 hd
  exact (hasTwoCases_of_isPart (hrest e he)).isUpper_toLower

end IsLetterWord

/-! ## Reading segments off an identifier -/

def pieces : List (List Char) → List (List Char)
  | [] => []
  | first :: rest => lower first :: rest.map capitalize

theorem flatten_pieces (parts : List (List Char)) :
    (pieces parts).flatten = joinSegments parts := by
  cases parts with
  | nil => rfl
  | cons first rest => rw [pieces, List.flatten_cons, joinSegments, List.flatMap_def]

/-- A capital starts a new piece. -/
def goesOn (_ next : Char) : Bool :=
  !next.isUpper

theorem isChain_cons_of_forall {α : Type} {r : α → α → Prop} {a : α} {items : List α}
    (h : ∀ first ∈ a :: items, ∀ second ∈ items, r first second) : (a :: items).IsChain r := by
  apply List.Pairwise.isChain
  refine List.pairwise_cons.2 ⟨h a (by simp), ?_⟩
  exact List.pairwise_of_forall_mem_list fun first hfirst => h first (by simp [hfirst])

theorem isChain_goesOn {first : Char} {rest : List Char} (h : ∀ c ∈ rest, c.isUpper = false) :
    (first :: rest).IsChain fun c next => goesOn c next = true := by
  apply isChain_cons_of_forall
  intro c _ next hnext
  simp [goesOn, h next hnext]

variable {parts : List (List Char)}

theorem isChain_of_mem_pieces (h : ∀ part ∈ parts, IsLetterWord part) :
    ∀ piece ∈ pieces parts, piece ≠ [] ∧ piece.IsChain fun c next => goesOn c next = true := by
  intro piece hpiece
  cases parts with
  | nil => cases hpiece
  | cons first rest =>
      rcases List.mem_cons.1 hpiece with rfl | hpiece
      · have hfirst := h first (by simp)
        refine ⟨hfirst.lower_ne_nil, ?_⟩
        obtain ⟨c, tail, hlower⟩ := List.exists_cons_of_ne_nil hfirst.lower_ne_nil
        rw [hlower]
        exact isChain_goesOn fun d hd => hfirst.isUpper_lower d (by simp [hlower, hd])
      · obtain ⟨part, hpart, rfl⟩ := List.mem_map.1 hpiece
        obtain ⟨c, tail, hcapital, -, htail⟩ := (h part (by simp [hpart])).capitalize_cases
        rw [hcapital]
        exact ⟨List.cons_ne_nil c tail, isChain_goesOn htail⟩

theorem isChain_pieces (h : ∀ part ∈ parts, IsLetterWord part) :
    (pieces parts).IsChain fun piece next =>
      ∃ hpiece hnext, goesOn (piece.getLast hpiece) (next.head hnext) = false := by
  cases hparts : parts with
  | nil => exact .nil
  | cons first rest =>
      apply isChain_cons_of_forall
      intro piece hpiece next hnext
      have hne : piece ≠ [] := (isChain_of_mem_pieces h piece (by rw [hparts]; exact hpiece)).1
      obtain ⟨part, hpart, rfl⟩ := List.mem_map.1 hnext
      obtain ⟨c, tail, hcapital, hc, -⟩ := (h part (by simp [hparts, hpart])).capitalize_cases
      refine ⟨hne, by simp [hcapital], ?_⟩
      simp [goesOn, hcapital, hc]

theorem splitBy_joinSegments (h : ∀ part ∈ parts, IsLetterWord part) :
    (joinSegments parts).splitBy goesOn = pieces parts := by
  rw [← flatten_pieces]
  exact List.splitBy_flatten (fun hnil => (isChain_of_mem_pieces h [] hnil).1 rfl)
    (fun piece hpiece => (isChain_of_mem_pieces h piece hpiece).2) (isChain_pieces h)

theorem map_lower_pieces (h : ∀ part ∈ parts, IsLetterWord part) :
    (pieces parts).map lower = parts.map lower := by
  cases parts with
  | nil => rfl
  | cons first rest =>
      rw [pieces, List.map_cons, List.map_cons, lower_lower, List.map_map]
      have hrest : ∀ part ∈ rest, lower (capitalize part) = lower part := fun part hpart =>
        (h part (by simp [hpart])).lower_capitalize
      exact congrArg (lower first :: ·) (List.map_congr_left hrest)

theorem pieces_map_lower (h : ∀ part ∈ parts, IsLetterWord part) :
    pieces (parts.map lower) = pieces parts := by
  cases parts with
  | nil => rfl
  | cons first rest =>
      rw [List.map_cons, pieces, pieces, lower_lower, List.map_map]
      have hrest : ∀ part ∈ rest, capitalize (lower part) = capitalize part := fun part hpart =>
        (h part (by simp [hpart])).capitalize_lower
      exact congrArg (lower first :: ·) (List.map_congr_left hrest)

theorem joinSegments_eq_iff {others : List (List Char)} (h : ∀ part ∈ parts, IsLetterWord part)
    (hothers : ∀ part ∈ others, IsLetterWord part) :
    joinSegments parts = joinSegments others ↔ parts.map lower = others.map lower := by
  constructor
  · intro heq
    rw [← map_lower_pieces h, ← map_lower_pieces hothers, ← splitBy_joinSegments h, heq,
      splitBy_joinSegments hothers]
  · intro heq
    rw [← flatten_pieces, ← flatten_pieces, ← pieces_map_lower h, heq, pieces_map_lower hothers]

/-! ## Names -/

theorem escape_eq_iff {first second : List Char} (hfirst : '`' ∉ first) (hsecond : '`' ∉ second) :
    escape first = escape second ↔ first = second := by
  refine ⟨fun heq => ?_, fun heq => by rw [heq]⟩
  rw [escape, escape] at heq
  split at heq
  · split at heq
    · simpa using heq
    · exact absurd (heq ▸ by simp) hsecond
  · split at heq
    · exact absurd (heq.symm ▸ by simp) hfirst
    · exact heq

/-- A name of this kind that is left alone has no capital to lose. -/
theorem camelCase_of_isSnakeCase {name : List Char} (h : IsSnakeCase name) :
    camelCase name = joinSegments (segments name) := by
  rw [camelCase]
  split
  · rename_i hcamel
    have hnot := underscore_not_mem_of_isCamelCase hcamel
    have hne : name ≠ [] := by
      rintro rfl
      exact h.segments_ne_nil rfl
    have hsmall : ∀ c ∈ name, c.isUpper = false := by
      rcases h.not_mixed with hmem | hcapital | hsmall
      · exact absurd hmem hnot
      · obtain ⟨c, hc, hupper⟩ := (Option.any_eq_true _ _).1 hcapital
        have hlower : isLower c = true := by
          simp only [isCamelCase, Bool.and_eq_true] at hcamel
          simpa [Option.mem_def.1 hc] using hcamel.2
        have hpart := h.isPart c (List.mem_of_head? hc)
        have hself := (hasTwoCases_of_isPart hpart).isUpper_toLower
        rw [toLower_eq_self_of_isLower hpart hlower, hupper] at hself
        exact absurd hself (by decide)
      · exact hsmall
    rw [segments_of_underscore_not_mem hnot hne, joinSegments, lower_of_isPart h.isPart,
      List.flatMap_nil, List.append_nil]
    have hself : name.map Char.toLower = name.map id :=
      List.map_congr_left fun c hc =>
        (hasTwoCases_of_isPart (h.isPart c hc)).toLower_eq_self (hsmall c hc)
    rw [hself, List.map_id]
  · rfl

theorem backtick_not_mem_camelCase {name : List Char} (h : IsSnakeCase name) :
    '`' ∉ camelCase name := by
  intro hmem
  exact absurd (isPart_camelCase h.isPart '`' hmem) (by decide)

theorem ofName_eq_iff {first second : List Char} (hfirst : IsSnakeCase first)
    (hsecond : IsSnakeCase second) : ofName first = ofName second ↔ SameSegments first second :=
  calc ofName first = ofName second
      ↔ camelCase first = camelCase second :=
        escape_eq_iff (backtick_not_mem_camelCase hfirst) (backtick_not_mem_camelCase hsecond)
    _ ↔ joinSegments (segments first) = joinSegments (segments second) := by
        rw [camelCase_of_isSnakeCase hfirst, camelCase_of_isSnakeCase hsecond]
    _ ↔ SameSegments first second :=
        joinSegments_eq_iff hfirst.isLetterWord hsecond.isLetterWord

theorem splitOn_tidied {name : List Char} (h : segments name ≠ []) :
    (tidied name).splitOn '_' = (segments name).map lower := by
  rw [tidied, List.splitOn_intercalate '_' ?_ (by simpa using h)]
  intro part hpart
  obtain ⟨segment, hsegment, rfl⟩ := List.mem_map.1 hpart
  exact underscore_not_mem_lower (underscore_not_mem_of_mem_segments hsegment)

theorem tidied_eq_iff {first second : List Char} (hfirst : segments first ≠ [])
    (hsecond : segments second ≠ []) : tidied first = tidied second ↔ SameSegments first second := by
  constructor
  · intro heq
    rw [SameSegments, ← splitOn_tidied hfirst, heq, splitOn_tidied hsecond]
  · intro hsame
    rw [tidied, tidied, hsame]

/-- Of names in snake case just those have the same identifier that have the same segments up to
case. So the constants of a scope have names of their own if and only if no two names of options
agree in lower case without their redundant underscores. -/
theorem collide_iff_sameSegments :
    (∀ first second, IsSnakeCase first → IsSnakeCase second →
      (ofName first = ofName second ↔ SameSegments first second)) ∧
    ∀ (scope : Scope) (table : OptionTable),
      (∀ option ∈ table.sorted, IsSnakeCase option.name.toList) →
      (((Declaration.ofTable scope table).map (·.identifier)).Nodup ↔
        (table.sorted.map fun option => tidied option.name.toList).Nodup) := by
  refine ⟨fun first second hfirst hsecond => ofName_eq_iff hfirst hsecond, ?_⟩
  intro scope table h
  unfold List.Nodup
  rw [Declaration.ofTable, List.map_map, List.pairwise_map, List.pairwise_map]
  apply List.Pairwise.iff_of_mem
  intro first second hfirst hsecond
  apply not_congr
  rw [tidied_eq_iff (h first hfirst).segments_ne_nil (h second hsecond).segments_ne_nil]
  exact ofName_eq_iff (h first hfirst) (h second hsecond)

def twinTable : OptionTable where
  entries :=
    [("DEFAULT_PATH", { name := "DEFAULT_PATH", code := "1" }),
     ("_default__Path", { name := "_default__Path", code := "2" })]

theorem sorted_twinTable : twinTable.sorted = twinTable.entries.map (·.2) := by
  rw [OptionTable.sorted, List.mergeSort_of_pairwise (by decide +kernel)]

theorem collide_iff_sameSegments_twinTable :
    ofName "DEFAULT_PATH".toList = ofName "_default__Path".toList ∧
      ¬ ((Declaration.ofTable .network twinTable).map (·.identifier)).Nodup := by
  have hsnake : ∀ option ∈ twinTable.sorted, IsSnakeCase option.name.toList := by
    rw [sorted_twinTable]
    decide +kernel
  constructor
  · exact (collide_iff_sameSegments.1 _ _ (by decide +kernel) (by decide +kernel)).2
      (by unfold SameSegments; decide +kernel)
  · rw [collide_iff_sameSegments.2 .network twinTable hsnake, sorted_twinTable]
    decide +kernel

end OptionBindings.Identifier
