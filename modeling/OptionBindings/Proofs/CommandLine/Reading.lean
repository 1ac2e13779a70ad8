import OptionBindings.Proofs.CommandLine.Words
import OptionBindings.Proofs.Except

/-!
# The reader keeps to the grammar

The argument lists that are accepted are those of the grammar, and what their reading comes to is what
their items do one after the other.
-/

namespace OptionBindings.CommandLine

variable {interface : Interface}

/-! ## What items do -/

def Request.take (request : Request) : Item → Except Interruption Request
  | .flag flag => request.setFlag flag
  | .value flag text => request.setValue flag text
  | .file name => .ok (request.setFile name)

namespace Request

theorem leave_nil (request : Request) : request.leave [] = request := by
  unfold leave
  rw [List.append_nil]

theorem unrecognized_take {request next : Request} {item : Item}
    (h : request.take item = .ok next) : next.unrecognized = request.unrecognized := by
  cases item with
  | flag flag => cases flag <;> cases h <;> rfl
  | value flag text =>
      cases flag with
      | logLevel =>
          cases hlevel : Level.ofName? text <;>
            simp only [take, setValue, hlevel] at h <;> cases h
          rfl
      | _ =>
          cases h
          rfl
  | file name =>
      cases h
      rfl

theorem unrecognized_foldlM_take {items : List Item} {request result : Request}
    (h : items.foldlM take request = .ok result) :
    result.unrecognized = request.unrecognized := by
  induction items generalizing request with
  | nil =>
      cases h
      rfl
  | cons item items ih =>
      rw [List.foldlM_cons] at h
      obtain ⟨next, hitem, hitems⟩ := exists_of_bind_eq_ok h
      rw [ih hitems, unrecognized_take hitem]

theorem foldlM_take_flags (flags : List Flag) (request : Request) :
    (flags.map Item.flag).foldlM take request = flags.foldlM setFlag request :=
  List.foldlM_map

theorem apply_of_closed {group : Group} (hopened : group.opened? = none) (request : Request) :
    request.apply group (group.valued.bind (·.2)) =
      group.items.foldlM take (request.leave group.unknown.toList) := by
  obtain ⟨flags, valued, unknown⟩ := group
  unfold apply Group.items
  rw [List.foldlM_append, foldlM_take_flags]
  match valued with
  | none => rfl
  | some (flag, some value) => simp [take]
  | some (flag, none) => cases hopened

theorem apply_of_opened {group : Group} {flag : Flag} (hopened : group.opened? = some flag)
    (value : String) (request : Request) :
    request.apply group (some value) =
      (group.items ++ [Item.value flag value]).foldlM take
        (request.leave group.unknown.toList) := by
  obtain ⟨flags, valued, unknown⟩ := group
  match valued with
  | none => cases hopened
  | some (flag, some value) => cases hopened
  | some (flag, none) =>
      cases hopened
      unfold apply Group.items
      rw [List.append_nil, List.foldlM_append, foldlM_take_flags]
      simp [take]

theorem unknown_eq_none_of_unrecognized {items : List Item} {group : Group}
    {request result : Request}
    (h : items.foldlM take (request.leave group.unknown.toList) = .ok result)
    (hall : result.unrecognized = []) : request.unrecognized = [] ∧ group.unknown = none := by
  rw [unrecognized_foldlM_take h] at hall
  simpa [leave] using hall

end Request

theorem readWords_of_groupOf? {sorted : Word} {group : Group}
    (hgroup : groupOf? interface sorted = some (.ok group)) (rest : List Word) (hasFile : Bool)
    (request : Request) :
    readWords interface (sorted :: rest) hasFile request =
      match group.opened?, rest with
      | some _, .plain value :: rest =>
        request.apply group (some value) >>= readWords interface rest hasFile
      | some last, _ => .error (.usage (.missingValue last))
      | none, rest =>
        request.apply group (group.valued.bind (·.2)) >>= readWords interface rest hasFile := by
  obtain ⟨flags, valued, unknown⟩ := group
  cases sorted with
  | plain | dashes | unknown => cases hgroup
  | short | long =>
      rcases valued with _ | ⟨flag, _ | value⟩
      · simp only [readWords, hgroup, Group.opened?]
        cases request.apply _ _ <;> rfl
      · simp only [readWords, hgroup, Group.opened?]
        cases rest with
        | nil => rfl
        | cons next rest =>
            cases next with
            | plain value =>
                dsimp only
                cases request.apply _ _ <;> rfl
            | _ => rfl
      · simp only [readWords, hgroup, Group.opened?]
        cases request.apply _ _ <;> rfl

/-! ## Lists of words -/

theorem ne_dashes_of_ofText {word : String} {sorted : Word}
    (h : Word.ofText interface word = .ok sorted) : word ≠ "--" := by
  rintro rfl
  cases interface <;> cases h

theorem sortWords_cons {word : String} {words : List String} {sorted : Word}
    {others : List Word} (hword : Word.ofText interface word = .ok sorted)
    (hwords : sortWords interface words = .ok others) :
    sortWords interface (word :: words) = .ok (sorted :: others) := by
  rw [sortWords, if_neg (ne_dashes_of_ofText hword), hword, hwords]
  rfl

theorem sortWords_cons_cases {words : List String} {sorted : Word} {others : List Word}
    (h : sortWords interface words = .ok (sorted :: others)) :
    (∃ texts, words = "--" :: texts ∧ sorted = .dashes ∧ others = texts.map .plain) ∨
    ∃ word texts, words = word :: texts ∧ Word.SortedAs interface word sorted ∧
      sortWords interface texts = .ok others := by
  cases words with
  | nil => cases h
  | cons word texts =>
      rw [sortWords] at h
      split at h
      · next hdashes =>
          cases h
          exact .inl ⟨texts, by rw [hdashes], rfl, rfl⟩
      · obtain ⟨first, hword, h⟩ := exists_of_bind_eq_ok h
        obtain ⟨rest, htexts, h⟩ := exists_of_bind_eq_ok h
        cases h
        exact .inr ⟨word, texts, rfl, Word.sortedAs_of_ofText hword, htexts⟩

theorem eq_nil_of_sortWords {words : List String} (h : sortWords interface words = .ok []) :
    words = [] := by
  cases words with
  | nil => rfl
  | cons word words =>
      rw [sortWords] at h
      split at h
      · cases h
      · obtain ⟨first, -, h⟩ := exists_of_bind_eq_ok h
        obtain ⟨rest, -, h⟩ := exists_of_bind_eq_ok h
        cases h

theorem sortWords_dashes_cases {words : List String} {others : List Word}
    (h : sortWords interface words = .ok (.dashes :: others)) :
    ∃ texts, words = "--" :: texts ∧ others = texts.map .plain := by
  rcases sortWords_cons_cases h with ⟨texts, rfl, -, rfl⟩ | ⟨word, texts, -, hsorted, -⟩
  · exact ⟨texts, rfl, rfl⟩
  · cases hsorted with
    | flags hgroup _ => cases hgroup

theorem sortWords_plain_cases {words : List String} {name : String} {others : List Word}
    (h : sortWords interface words = .ok (.plain name :: others)) :
    ∃ texts, words = name :: texts ∧ IsPlain interface name.toList ∧
      sortWords interface texts = .ok others := by
  rcases sortWords_cons_cases h with ⟨_, -, hsorted, -⟩ | ⟨word, texts, rfl, hsorted, htexts⟩
  · cases hsorted
  · cases hsorted with
    | plain hplain => exact ⟨texts, rfl, hplain, htexts⟩
    | flags hgroup _ => cases hgroup

theorem sortWords_group_cases {words : List String} {sorted : Word} {others : List Word}
    {group : Group} (h : sortWords interface words = .ok (sorted :: others))
    (hgroup : groupOf? interface sorted = some (.ok group)) :
    ∃ word texts, words = word :: texts ∧ sortWords interface texts = .ok others ∧
      (group.unknown = none → Spells interface word.toList group.items group.opened?) := by
  rcases sortWords_cons_cases h with ⟨_, -, rfl, -⟩ | ⟨word, texts, rfl, hsorted, htexts⟩
  · cases hgroup
  · refine ⟨word, texts, rfl, htexts, fun hunknown => ?_⟩
    cases hsorted with
    | plain hplain => cases hgroup
    | unknown => cases hgroup
    | flags hread hspells =>
        rw [hread, Option.some.injEq] at hgroup
        exact hspells _ _ (behind_of_readGroup hgroup hunknown)

theorem exists_group_of_spells {word : String} {items : List Item} {opened : Option Flag}
    (h : Spells interface word.toList items opened) :
    ∃ sorted group, Word.ofText interface word = .ok sorted ∧
      groupOf? interface sorted = some (.ok group) ∧ group.unknown = none ∧
      group.items = items ∧ group.opened? = opened := by
  obtain ⟨sorted, flag, behind, hword, hgroup, hbehind⟩ := Word.ofText_of_spells h
  obtain ⟨group, hread, hgroup'⟩ := exists_readGroup_of_behind hbehind
  exact ⟨sorted, group, hword, by rw [hgroup, hread], hgroup'⟩

theorem not_gives_dashes {words : List String} {items : List Item} :
    ¬ Gives interface true ("--" :: words) items := by
  intro h
  cases h with
  | flags hspells _ =>
      obtain ⟨_, _, hword, -⟩ := exists_group_of_spells hspells
      exact ne_dashes_of_ofText hword rfl
  | valued hspells _ _ =>
      obtain ⟨_, _, hword, -⟩ := exists_group_of_spells hspells
      exact ne_dashes_of_ofText hword rfl

/-! ## Both directions -/

/-- A list in order is read, and its items act one after the other. -/
theorem readWords_of_gives {hasFile : Bool} {words : List String} {items : List Item}
    (h : Gives interface hasFile words items) :
    ∃ sorted, sortWords interface words = .ok sorted ∧
      ∀ request, readWords interface sorted hasFile request =
        items.foldlM Request.take request := by
  induction h with
  | nil => exact ⟨[], rfl, fun request => rfl⟩
  | flags hspells _ ih =>
      obtain ⟨sorted, group, hword, hgroup, hunknown, rfl, hopened⟩ :=
        exists_group_of_spells hspells
      obtain ⟨others, hothers, hread⟩ := ih
      refine ⟨sorted :: others, sortWords_cons hword hothers, fun request => ?_⟩
      rw [readWords_of_groupOf? hgroup, hopened, List.foldlM_append, ← funext hread]
      dsimp only
      rw [Request.apply_of_closed hopened, hunknown, Option.toList_none, Request.leave_nil]
  | @valued hasFile word value words here flag items hspells hplain _ ih =>
      obtain ⟨sorted, group, hword, hgroup, hunknown, rfl, hopened⟩ :=
        exists_group_of_spells hspells
      obtain ⟨others, hothers, hread⟩ := ih
      refine ⟨sorted :: .plain value :: others,
        sortWords_cons hword (sortWords_cons (Word.ofText_of_isPlain hplain) hothers),
        fun request => ?_⟩
      rw [readWords_of_groupOf? hgroup, hopened, List.append_cons, List.foldlM_append,
        ← funext hread]
      dsimp only
      rw [Request.apply_of_opened hopened, hunknown, Option.toList_none, Request.leave_nil]
  | @file name words items hplain hgives ih =>
      obtain ⟨others, hothers, hread⟩ := ih
      refine ⟨.plain name :: others, sortWords_cons (Word.ofText_of_isPlain hplain) hothers,
        fun request => ?_⟩
      rw [readWords, hread]
      · rfl
      · rintro rest rfl
        obtain ⟨texts, rfl, -⟩ := sortWords_dashes_cases hothers
        exact not_gives_dashes hgives
  | dashes => exact ⟨[.dashes], rfl, fun request => rfl⟩
  | @fileBeforeDashes name hplain =>
      exact ⟨[.plain name, .dashes], sortWords_cons (Word.ofText_of_isPlain hplain) rfl,
        fun request => rfl⟩
  | @fileBehindDashes name => exact ⟨[.dashes, .plain name], rfl, fun request => rfl⟩

theorem readWords_of_plain (texts : List String) (request : Request) :
    readWords interface (texts.map .plain) true request = .ok (request.leave texts) := by
  induction texts generalizing request with
  | nil =>
      rw [Request.leave_nil]
      rfl
  | cons text texts ih =>
      rw [List.map_cons, readWords, ih]
      unfold Request.leave
      rw [List.append_assoc, List.singleton_append]

/-- Where no word is left without a meaning, none was before, and the words are in order. -/
theorem exists_gives_of_readWords {words : List String} {sorted : List Word} {hasFile : Bool}
    {request result : Request} (hsorted : sortWords interface words = .ok sorted)
    (hread : readWords interface sorted hasFile request = .ok result)
    (hall : result.unrecognized = []) :
    request.unrecognized = [] ∧ ∃ items, Gives interface hasFile words items := by
  -- The induction is on the reader's steps. Behind the pair of dashes all words are plain, and
  -- `readWords_of_plain` says in one go what is left of them.
  fun_induction readWords interface sorted hasFile request generalizing words with
  | case1 hasFile request =>
      cases hread
      rw [eq_nil_of_sortWords hsorted]
      exact ⟨hall, [], .nil⟩
  | case2 name rest request ih =>
      obtain ⟨texts, rfl, hplain, htexts⟩ := sortWords_plain_cases hsorted
      obtain ⟨texts, rfl, rfl⟩ := sortWords_dashes_cases htexts
      rw [readWords_of_plain] at hread
      cases hread
      obtain ⟨hrequest, rfl⟩ := List.append_eq_nil_iff.1 hall
      exact ⟨hrequest, _, .fileBeforeDashes hplain⟩
  | case3 name rest request hrest ih =>
      obtain ⟨texts, rfl, hplain, htexts⟩ := sortWords_plain_cases hsorted
      obtain ⟨hrequest, items, hgives⟩ := ih htexts hread
      exact ⟨hrequest, _, .file hplain hgives⟩
  | case4 name rest request ih =>
      obtain ⟨texts, rfl, htexts⟩ := sortWords_dashes_cases hsorted
      cases texts with
      | nil => cases htexts
      | cons text texts =>
          cases htexts
          rw [readWords_of_plain] at hread
          cases hread
          obtain ⟨hrequest, rfl⟩ := List.append_eq_nil_iff.1 hall
          exact ⟨hrequest, _, .fileBehindDashes⟩
  | case5 rest request hrest ih =>
      obtain ⟨texts, rfl, rfl⟩ := sortWords_dashes_cases hsorted
      cases texts with
      | nil =>
          cases hread
          exact ⟨hall, _, .dashes⟩
      | cons text texts => exact (hrest _ _ rfl).elim
  | case6 word rest request ih =>
      obtain ⟨texts, rfl, -, htexts⟩ := sortWords_plain_cases hsorted
      obtain ⟨hrequest, -⟩ := ih htexts hread
      simp [Request.leave] at hrequest
  | case7 rest request ih =>
      obtain ⟨texts, rfl, rfl⟩ := sortWords_dashes_cases hsorted
      rw [readWords_of_plain] at hread
      cases hread
      simp [Request.leave] at hall
  | case8 word rest hasFile request ih =>
      rcases sortWords_cons_cases hsorted with ⟨_, -, h, -⟩ | ⟨_, texts, rfl, -, htexts⟩
      · cases h
      · obtain ⟨hrequest, -⟩ := ih htexts hread
        simp [Request.leave] at hrequest
  | case9 word _ hasFile _ _ hname _ hdashes hname' hdashes' hunknown hgroup =>
      cases word with
      | plain name =>
          cases hasFile with
          | false => exact (hname name rfl rfl).elim
          | true => exact (hname' name rfl rfl).elim
      | dashes =>
          cases hasFile with
          | false => exact (hdashes rfl rfl).elim
          | true => exact (hdashes' rfl rfl).elim
      | unknown text => exact (hunknown text rfl).elim
      | short flag behind => cases hgroup
      | long flag value => cases value <;> cases hgroup
  | case11 sorted hasFile request _ _ _ _ _ group hgroup last hvalued value rest next happly _ _ ih =>
      have hopened : group.opened? = some last := by
        unfold Group.opened?
        rw [hvalued]
      rw [Request.apply_of_opened hopened] at happly
      obtain ⟨word, _, rfl, htexts, hspells⟩ := sortWords_group_cases hsorted hgroup
      obtain ⟨texts, rfl, hplain, htexts⟩ := sortWords_plain_cases htexts
      obtain ⟨hnext, items, hgives⟩ := ih htexts hread
      obtain ⟨hrequest, hunknown⟩ := Request.unknown_eq_none_of_unrecognized happly hnext
      exact ⟨hrequest, _, .valued (hopened ▸ hspells hunknown) hplain hgives⟩
  | case14 sorted rest hasFile request _ _ _ _ _ _ _ group hgroup next hvalued happly ih =>
      have hopened : group.opened? = none := by
        unfold Group.opened?
        split
        · next flag h => exact (hvalued flag h).elim
        · rfl
      rw [Request.apply_of_closed hopened] at happly
      obtain ⟨word, texts, rfl, htexts, hspells⟩ := sortWords_group_cases hsorted hgroup
      obtain ⟨hnext, items, hgives⟩ := ih htexts hread
      obtain ⟨hrequest, hunknown⟩ := Request.unknown_eq_none_of_unrecognized happly hnext
      exact ⟨hrequest, _, .flags (hopened ▸ hspells hunknown) hgives⟩
  | _ => cases hread

theorem exists_gives_of_readArguments {words : List String} {request : Request}
    (h : readArguments interface words = .ok request) :
    ∃ items, Gives interface false words items := by
  unfold readArguments at h
  cases hsorted : sortWords interface words with
  | error error =>
      rw [hsorted] at h
      cases h
  | ok sorted =>
      cases hread : readWords interface sorted false {} with
      | error interruption =>
          rw [hsorted] at h
          simp only [hread] at h
          cases h
      | ok result =>
          rw [hsorted] at h
          simp only [hread] at h
          split at h
          · next hall =>
              exact (exists_gives_of_readWords hsorted hread (List.isEmpty_iff.1 hall)).2
          · cases h

theorem readArguments_of_gives {words : List String} {items : List Item}
    (h : Gives interface false words items) :
    readArguments interface words = items.foldlM Request.take {} := by
  obtain ⟨sorted, hsorted, hread⟩ := readWords_of_gives h
  unfold readArguments
  rw [hsorted]
  simp only [hread]
  cases hitems : items.foldlM Request.take {} with
  | error interruption => rfl
  | ok request =>
      have hall : request.unrecognized = [] := Request.unrecognized_foldlM_take hitems
      simp [hall]

theorem foldlM_take_of_readArguments {words : List String} {items : List Item}
    {request : Request} (hrequest : readArguments interface words = .ok request)
    (hitems : Gives interface false words items) :
    items.foldlM Request.take {} = .ok request := by
  rw [← readArguments_of_gives hitems, hrequest]

end OptionBindings.CommandLine
