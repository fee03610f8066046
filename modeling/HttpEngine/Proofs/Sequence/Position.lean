import Mathlib.Data.List.Basic

/-!
# An element at a position

A schedule names threads by their positions.  The thread at a position stands
between others, and replacing it leaves these as they are.
-/

namespace HttpEngine.Sequence

variable {α : Type} {index : Nat}

theorem exists_around_getElem? {items : List α} {item : α}
    (hfound : items[index]? = some item) :
    ∃ before after, items = before ++ item :: after ∧
      ∀ (other : α) (more : List α),
        (items ++ more).set index other =
          before ++ other :: (after ++ more) := by
  obtain ⟨hinside, hhere⟩ := List.getElem?_eq_some_iff.1 hfound
  refine ⟨items.take index, items.drop (index + 1), ?_, fun other more => ?_⟩
  · rw [← hhere, List.getElem_cons_drop, List.take_append_drop]
  · rw [List.set_append_left _ _ hinside, List.set_eq_take_append_cons_drop,
      if_pos hinside, List.append_assoc, List.cons_append]

/-- Nothing comes next in a list that is empty or missing. -/
theorem bind_head?_eq_none {lists : List (List α)}
    (hsilent : ∀ first rest, lists[index]? = some (first :: rest) → False) :
    (lists[index]?).bind List.head? = none := by
  rcases hfound : lists[index]? with _ | _ | ⟨first, rest⟩
  · rfl
  · rfl
  · exact absurd hfound (hsilent first rest)

end HttpEngine.Sequence
