import Mathlib.Data.List.Nodup
import Mathlib.Data.List.TakeWhile
import OptionBindings.Proofs.CommandLine.Grammar

/-!
# Words of the grammar

A word by itself: what it is sorted as and which flags it spells, on the side of the reader and on the
side of the grammar.
-/

namespace OptionBindings.CommandLine

variable {interface : Interface}

/-! ## Spellings -/

theorem nodup_spellings (interface : Interface) : (interface.spellings.map Prod.fst).Nodup := by
  cases interface <;> decide

theorem flag?_eq_none_iff {spelling : String} :
    interface.flag? spelling = none ↔ ∀ flag, (spelling, flag) ∉ interface.spellings := by
  unfold Interface.flag?
  rw [List.lookup_eq_none_iff]
  constructor
  · intro h flag hmem
    simpa using h _ hmem
  · rintro h ⟨other, flag⟩ hmem
    rw [bne_iff_ne]
    rintro rfl
    exact h flag hmem

theorem flag?_eq_some_iff {spelling : String} {flag : Flag} :
    interface.flag? spelling = some flag ↔ (spelling, flag) ∈ interface.spellings := by
  constructor
  · intro h
    obtain ⟨before, behind, heq, -⟩ := List.lookup_eq_some_iff.1 h
    rw [heq]
    simp
  · intro hmem
    cases h : interface.flag? spelling with
    | none => exact absurd hmem (flag?_eq_none_iff.1 h flag)
    | some other =>
        obtain ⟨before, behind, heq, -⟩ := List.lookup_eq_some_iff.1 h
        have hother : (spelling, other) ∈ interface.spellings := by
          rw [heq]
          simp
        have heq := List.inj_on_of_nodup_map (nodup_spellings interface) hother hmem rfl
        rw [(Prod.mk.inj heq).2]

namespace Word

theorem completions_eq_singleton_iff {start : List Char} {entry : String × Flag} :
    completions interface start = [entry] ↔
      entry ∈ interface.spellings ∧ start <+: entry.1.toList ∧
        ∀ other ∈ interface.spellings, start <+: other.1.toList → other = entry := by
  have hnodup : (completions interface start).Nodup :=
    (nodup_spellings interface).of_map.filter _
  have hmem (other : String × Flag) :
      other ∈ completions interface start ↔
        other ∈ interface.spellings ∧ start <+: other.1.toList := by
    simp [completions]
  rw [← List.perm_singleton, List.perm_ext_iff_of_nodup hnodup (List.nodup_singleton entry)]
  simp only [hmem, List.mem_singleton]
  constructor
  · intro h
    exact ⟨((h entry).2 rfl).1, ((h entry).2 rfl).2, fun other ho hp => (h other).1 ⟨ho, hp⟩⟩
  · rintro ⟨hentry, hstart, hunique⟩ other
    exact ⟨fun h => hunique other h.1 h.2, fun h => h ▸ ⟨hentry, hstart⟩⟩

theorem completions_eq_nil_iff {start : List Char} :
    completions interface start = [] ↔
      ∀ entry ∈ interface.spellings, ¬ start <+: entry.1.toList := by
  simp [completions]

/-! ## One word -/

private theorem decide_ne_of_not_mem {text : List Char} (h : '=' ∉ text) :
    ∀ c ∈ text, decide (c ≠ '=') = true := by
  intro c hc
  simpa using ne_of_mem_of_not_mem hc h

theorem cut_of_not_mem {word : List Char} (h : '=' ∉ word) : cut word = (word, none) := by
  unfold cut
  rw [List.dropWhile_eq_nil_iff.2 (decide_ne_of_not_mem h)]

theorem cut_append {start : List Char} (h : '=' ∉ start) (value : List Char) :
    cut (start ++ '=' :: value) = (start, some value) := by
  unfold cut
  rw [List.dropWhile_append_of_pos (decide_ne_of_not_mem h),
    List.takeWhile_append_of_pos (decide_ne_of_not_mem h)]
  simp

theorem cut_fst (word : List Char) : (cut word).1 = word.takeWhile (· ≠ '=') := by
  by_cases h : '=' ∈ word
  · obtain ⟨start, value, rfl, hstart⟩ := List.eq_append_cons_of_mem h
    rw [cut_append hstart, List.takeWhile_append_of_pos (decide_ne_of_not_mem hstart)]
    simp
  · rw [cut_of_not_mem h, List.takeWhile_eq_self_iff.2 (decide_ne_of_not_mem h)]

theorem not_mem_of_isLongName {start : List Char} {flag : Flag}
    (h : IsLongName interface start flag) : '=' ∉ start := by
  have hspellings : ∀ entry ∈ interface.spellings, '=' ∉ entry.1.toList := by
    cases interface <;> decide
  rcases h with h | ⟨entry, hentry, -, hstart, -⟩
  · simpa using hspellings _ h
  · exact fun hmem => hspellings entry hentry (hstart.subset hmem)

/-! ## Words with two dashes -/

theorem ofLong_of_isLongName {word : String} {start : List Char} {value : Option (List Char)}
    {flag : Flag} (hcut : cut word.toList = (start, value)) (h : IsLongName interface start flag) :
    ofLong interface word = .ok (.long flag value) := by
  unfold ofLong
  rw [hcut]
  cases hfull : interface.flag? (String.ofList start) with
  | some other =>
      have hother := flag?_eq_some_iff.1 hfull
      rcases h with h | ⟨entry, hentry, rfl, hstart, hunique⟩
      · rw [← Option.some.inj ((flag?_eq_some_iff.2 h).symm.trans hfull)] at hfull
        simp [hfull]
      · -- A spelling in full starts with itself, so it is the only one with this start.
        have heq := hunique _ hother (by simp)
        simp [hfull, ← heq]
  | none =>
      rcases h with h | ⟨entry, hentry, rfl, hstart, hunique⟩
      · exact absurd h (flag?_eq_none_iff.1 hfull flag)
      · simp [hfull, completions_eq_singleton_iff.2 ⟨hentry, hstart, hunique⟩]

theorem ofLong_of_no_completion {word : String}
    (h : ∀ entry ∈ interface.spellings, ¬ (cut word.toList).1 <+: entry.1.toList) :
    ofLong interface word = .ok (ofOther word) := by
  have hfull : interface.flag? (String.ofList (cut word.toList).1) = none := by
    rw [flag?_eq_none_iff]
    intro flag hmem
    exact h _ hmem (by simp)
  unfold ofLong
  simp [hfull, completions_eq_nil_iff.2 h]

theorem ofLong_cases {word : String} {sorted : Word} (h : ofLong interface word = .ok sorted) :
    (∃ flag, IsLongName interface (cut word.toList).1 flag ∧
      sorted = .long flag (cut word.toList).2) ∨
    (∀ entry ∈ interface.spellings, ¬ (cut word.toList).1 <+: entry.1.toList) ∧
      sorted = ofOther word := by
  unfold ofLong at h
  cases hfull : interface.flag? (String.ofList (cut word.toList).1) with
  | some flag =>
      simp only [hfull, Except.ok.injEq] at h
      exact .inl ⟨flag, .inl (flag?_eq_some_iff.1 hfull), h.symm⟩
  | none =>
      simp only [hfull] at h
      split at h
      · next hnil =>
          exact .inr ⟨completions_eq_nil_iff.1 hnil, (Except.ok.inj h).symm⟩
      · next spelling flag hone =>
          obtain ⟨hentry, hstart, hunique⟩ := completions_eq_singleton_iff.1 hone
          exact .inl ⟨flag, .inr ⟨_, hentry, rfl, hstart, hunique⟩, (Except.ok.inj h).symm⟩
      · cases h

/-! ## Words without a flag -/

theorem ofOther_of_isHarmless {word : String} (h : IsHarmless word.toList) :
    ofOther word = .plain word := by
  unfold ofOther
  rw [if_pos (by simpa [IsHarmless] using h)]

theorem ofOther_cases (word : String) :
    (IsHarmless word.toList ∧ ofOther word = .plain word) ∨ ofOther word = .unknown word := by
  by_cases h : IsHarmless word.toList
  · exact .inl ⟨h, ofOther_of_isHarmless h⟩
  · right
    unfold ofOther
    rw [if_neg (by simpa [IsHarmless] using h)]

end Word

/-! ## Groups of flags -/

def Group.items (group : Group) : List Item :=
  group.flags.map .flag ++
    match group.valued with
    | some (flag, some value) => [.value flag value]
    | _ => []

def Group.opened? (group : Group) : Option Flag :=
  match group.valued with
  | some (flag, none) => some flag
  | _ => none

theorem exists_readGroup_of_behind {flag : Flag} {behind : List Char} {items : List Item}
    {opened : Option Flag} (h : Behind interface flag behind items opened) :
    ∃ group, readGroup interface flag behind = .ok group ∧ group.unknown = none ∧
      group.items = items ∧ group.opened? = opened := by
  induction h with
  | done htakes => exact ⟨_, rfl, by simp [Group.ofFlag, Group.items, Group.opened?, htakes]⟩
  | opened htakes => exact ⟨_, rfl, by simp [Group.ofFlag, Group.items, Group.opened?, htakes]⟩
  | assigned value htakes =>
      refine ⟨{ valued := some (_, some (String.ofList value)) }, ?_, rfl, rfl, rfl⟩
      simp [readGroup, Group.ofValue, htakes]
  | joined c rest htakes hc =>
      refine ⟨{ valued := some (_, some (String.ofList (c :: rest))) }, ?_, rfl, rfl, rfl⟩
      simp [readGroup, Group.ofValue, htakes]
  | @more flag next c rest items opened htakes hassign hdash hnext _ ih =>
      obtain ⟨group, hgroup, hunknown, rfl, rfl⟩ := ih
      refine ⟨{ group with flags := flag :: group.flags }, ?_, hunknown, rfl, rfl⟩
      rw [readGroup, if_neg (by simp [htakes, hdash]), flag?_eq_some_iff.2 hnext]
      · dsimp only
        rw [hgroup]
        rfl
      · exact hassign

theorem behind_of_readGroup {flag : Flag} {behind : List Char} {group : Group}
    (h : readGroup interface flag behind = .ok group) (hunknown : group.unknown = none) :
    Behind interface flag behind group.items group.opened? := by
  fun_induction readGroup interface flag behind generalizing group with
  | case1 flag =>
      cases h
      cases htakes : flag.takesValue with
      | true => simpa [Group.ofFlag, Group.items, Group.opened?, htakes] using .opened htakes
      | false => simpa [Group.ofFlag, Group.items, Group.opened?, htakes] using .done htakes
  | case2 flag value =>
      unfold Group.ofValue at h
      split at h
      · next htakes =>
          cases h
          exact .assigned value htakes
      · cases h
  | case3 flag c rest hassign htakes =>
      unfold Group.ofValue at h
      split at h
      · next htakes =>
          cases h
          exact .joined c rest htakes hassign
      · cases h
  | case4 =>
      cases h
      cases hunknown
  | case5 flag c rest hassign htakes next hnext ih =>
      simp only [Bool.or_eq_true, decide_eq_true_eq, not_or, Bool.not_eq_true] at htakes
      cases hgroup : readGroup interface next rest with
      | error error =>
          rw [hgroup] at h
          cases h
      | ok inner =>
          rw [hgroup] at h
          cases h
          exact .more htakes.1 hassign htakes.2 (flag?_eq_some_iff.1 hnext) (ih hgroup hunknown)

/-! ## Sorted words -/

namespace Word

theorem ofText_of_two_dashes {word : String} {rest : List Char}
    (h : word.toList = '-' :: '-' :: rest) : ofText interface word = ofLong interface word := by
  unfold ofText
  rw [h]
  rfl

theorem ofText_of_one_dash {word : String} {c : Char} {rest : List Char}
    (h : word.toList = '-' :: c :: rest) (hc : c ≠ '-') :
    ofText interface word =
      match interface.flag? (String.ofList ['-', c]) with
      | some flag => .ok (.short flag rest)
      | none => .ok (ofOther word) := by
  unfold ofText ofShort
  rw [h]
  simp only [List.take_succ_cons, List.take_zero, List.drop_succ_cons, List.drop_zero]
  cases interface.flag? (String.ofList ['-', c]) <;> rfl

theorem ofText_of_isPlain {word : String} (h : IsPlain interface word.toList) :
    ofText interface word = .ok (.plain word) := by
  generalize hword : word.toList = text at h
  cases h with
  | empty =>
      unfold ofText
      rw [hword]
  | @undashed c rest hc =>
      unfold ofText
      rw [hword]
      simp [hc]
  | dash =>
      unfold ofText
      rw [hword]
      rfl
  | long hnone hharmless =>
      rw [ofText_of_two_dashes hword, ofLong_of_no_completion,
        ofOther_of_isHarmless (hword ▸ hharmless)]
      rw [cut_fst, hword]
      exact hnone
  | short hc hnone hharmless =>
      rw [ofText_of_one_dash hword hc, flag?_eq_none_iff.2 hnone,
        ofOther_of_isHarmless (hword ▸ hharmless)]

theorem ofText_of_spells {word : String} {items : List Item} {opened : Option Flag}
    (h : Spells interface word.toList items opened) :
    ∃ sorted flag behind, ofText interface word = .ok sorted ∧
      groupOf? interface sorted = some (readGroup interface flag behind) ∧
      Behind interface flag behind items opened := by
  generalize hword : word.toList = text at h
  cases h with
  | @long start flag _ _ hname hbehind =>
      have hcut : cut word.toList = ('-' :: '-' :: start, none) := by
        rw [hword, cut_of_not_mem (not_mem_of_isLongName hname)]
      refine ⟨.long flag none, flag, [], ?_, rfl, hbehind⟩
      rw [ofText_of_two_dashes hword, ofLong_of_isLongName hcut hname]
  | @assigned start value flag _ _ hname hbehind =>
      have hcut : cut word.toList = ('-' :: '-' :: start, some value) := by
        rw [hword, cut_append (not_mem_of_isLongName hname)]
      refine ⟨.long flag (some value), flag, '=' :: value, ?_, rfl, hbehind⟩
      rw [ofText_of_two_dashes hword, ofLong_of_isLongName hcut hname]
  | @short c behind flag _ _ hc hflag hbehind =>
      refine ⟨.short flag behind, flag, behind, ?_, rfl, hbehind⟩
      rw [ofText_of_one_dash hword hc, flag?_eq_some_iff.2 hflag]

theorem spells_of_isLongName {flag : Flag} {rest : List Char}
    (h : IsLongName interface (cut ('-' :: '-' :: rest)).1 flag) :
    ∃ behind, groupOf? interface (.long flag (cut ('-' :: '-' :: rest)).2) =
        some (readGroup interface flag behind) ∧
      ∀ items opened, Behind interface flag behind items opened →
        Spells interface ('-' :: '-' :: rest) items opened := by
  by_cases hequals : '=' ∈ rest
  · obtain ⟨start, value, rfl, hstart⟩ := List.eq_append_cons_of_mem hequals
    have hcut : cut ('-' :: '-' :: start ++ '=' :: value) = ('-' :: '-' :: start, some value) :=
      cut_append (by simpa using hstart) value
    rw [List.cons_append, List.cons_append] at hcut
    rw [hcut] at h ⊢
    exact ⟨'=' :: value, rfl, fun _ _ hbehind => .assigned h hbehind⟩
  · rw [cut_of_not_mem (by simpa using hequals)] at h ⊢
    exact ⟨[], rfl, fun _ _ hbehind => .long h hbehind⟩

theorem isPlain_or_dashed (interface : Interface) (text : List Char) :
    IsPlain interface text ∨ (∃ rest, text = '-' :: '-' :: rest) ∨
      ∃ c rest, c ≠ '-' ∧ text = '-' :: c :: rest := by
  match text with
  | [] => exact .inl .empty
  | [c] =>
      by_cases hc : c = '-'
      · exact .inl (hc ▸ .dash)
      · exact .inl (.undashed hc)
  | c :: d :: rest =>
      by_cases hc : c = '-'
      · subst hc
        by_cases hd : d = '-'
        · exact .inr (.inl ⟨rest, by rw [hd]⟩)
        · exact .inr (.inr ⟨d, rest, hd, rfl⟩)
      · exact .inl (.undashed hc)

variable (interface) in
inductive SortedAs (word : String) : Word → Prop
  | plain : IsPlain interface word.toList → SortedAs word (.plain word)
  | unknown : SortedAs word (.unknown word)
  | flags {sorted flag behind} :
      groupOf? interface sorted = some (readGroup interface flag behind) →
      (∀ items opened, Behind interface flag behind items opened →
        Spells interface word.toList items opened) → SortedAs word sorted

theorem SortedAs.ofOther {word : String}
    (h : IsHarmless word.toList → IsPlain interface word.toList) :
    SortedAs interface word (ofOther word) := by
  rcases ofOther_cases word with ⟨hharmless, hplain⟩ | hunknown
  · rw [hplain]
    exact .plain (h hharmless)
  · rw [hunknown]
    exact .unknown

theorem sortedAs_of_ofText {word : String} {sorted : Word}
    (h : ofText interface word = .ok sorted) : SortedAs interface word sorted := by
  rcases isPlain_or_dashed interface word.toList with hplain | ⟨rest, hword⟩ | ⟨c, rest, hc, hword⟩
  · rw [ofText_of_isPlain hplain] at h
    cases h
    exact .plain hplain
  · rw [ofText_of_two_dashes hword] at h
    rcases ofLong_cases h with ⟨flag, hname, rfl⟩ | ⟨hnone, rfl⟩
    · rw [hword] at hname ⊢
      obtain ⟨behind, hgroup, hspells⟩ := spells_of_isLongName hname
      exact .flags hgroup (hword ▸ hspells)
    · rw [cut_fst, hword] at hnone
      apply SortedAs.ofOther
      rw [hword]
      exact .long hnone
  · rw [ofText_of_one_dash hword hc] at h
    cases hflag : interface.flag? (String.ofList ['-', c]) with
    | some flag =>
        rw [hflag] at h
        cases h
        refine .flags rfl fun items opened hbehind => ?_
        rw [hword]
        exact .short hc (flag?_eq_some_iff.1 hflag) hbehind
    | none =>
        rw [hflag] at h
        cases h
        apply SortedAs.ofOther
        rw [hword]
        exact .short hc (flag?_eq_none_iff.1 hflag)

end Word

end OptionBindings.CommandLine
