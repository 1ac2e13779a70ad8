/-!
# Steps that may fail

Where a sequence of steps succeeds, each of them does. Where it fails, one step fails after others
that have succeeded.
-/

namespace OptionBindings

theorem exists_of_bind_eq_ok {ε α β : Type} {first : Except ε α} {next : α → Except ε β} {result : β}
    (h : (first >>= next) = .ok result) : ∃ a, first = .ok a ∧ next a = .ok result := by
  cases first with
  | error e => cases h
  | ok a => exact ⟨a, rfl, h⟩

theorem eq_ok_of_toOption_eq_some {ε α : Type} {result : Except ε α} {a : α}
    (h : result.toOption = some a) : result = .ok a := by
  cases result with
  | error e => cases h
  | ok b => rw [Option.some.inj h]

theorem foldlM_eq_error_iff {ε α β : Type} {step : β → α → Except ε β} {start : β} {items : List α}
    {error : ε} :
    items.foldlM step start = .error error ↔
      ∃ before item after state, items = before ++ item :: after ∧
        before.foldlM step start = .ok state ∧ step state item = .error error := by
  constructor
  · intro h
    induction items generalizing start with
    | nil => cases h
    | cons first items ih =>
        rw [List.foldlM_cons] at h
        cases hfirst : step start first with
        | error other =>
            rw [hfirst] at h
            cases h
            exact ⟨[], first, items, start, rfl, rfl, hfirst⟩
        | ok next =>
            rw [hfirst] at h
            obtain ⟨before, item, after, state, rfl, hbefore, hitem⟩ := ih h
            refine ⟨first :: before, item, after, state, rfl, ?_, hitem⟩
            rw [List.foldlM_cons, hfirst]
            exact hbefore
  · rintro ⟨before, item, after, state, rfl, hbefore, hitem⟩
    calc (before ++ item :: after).foldlM step start
        = before.foldlM step start >>= fun next => (item :: after).foldlM step next :=
          List.foldlM_append
      _ = (item :: after).foldlM step state := by rw [hbefore]; rfl
      _ = step state item >>= fun next => after.foldlM step next := List.foldlM_cons
      _ = .error error := by rw [hitem]; rfl

end OptionBindings
