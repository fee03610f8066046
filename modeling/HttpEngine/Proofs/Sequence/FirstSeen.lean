import HttpEngine.Params
import Mathlib.Data.List.Induction
import Mathlib.Data.List.Pairwise

/-!
# The order of first occurrences

A list puts its elements into an order: that of where each occurs for the first
time.  `distinct` lists them in this order.  Two lists of the same elements may
put them into different orders, which shows in two elements that change places.
-/

namespace HttpEngine

variable {α : Type} {items : List α} {first second : α}

/-- In the list, `first` occurs where `second` has not occurred yet. -/
def Precedes (items : List α) (first second : α) : Prop :=
  ∃ before after, items = before ++ first :: after ∧ second ∉ first :: before

theorem Precedes.mem (h : Precedes items first second) : first ∈ items := by
  obtain ⟨before, after, rfl, -⟩ := h
  simp

theorem Precedes.ne (h : Precedes items first second) : first ≠ second := by
  rintro rfl
  obtain ⟨before, after, -, hnew⟩ := h
  exact hnew List.mem_cons_self

theorem Precedes.append (h : Precedes items first second) (more : List α) :
    Precedes (items ++ more) first second := by
  obtain ⟨before, after, rfl, hnew⟩ := h
  exact ⟨before, after ++ more, by simp, hnew⟩

theorem Precedes.cons (h : Precedes items first second) {head : α}
    (hne : second ≠ head) :
    Precedes (head :: items) first second := by
  obtain ⟨before, after, rfl, hnew⟩ := h
  refine ⟨head :: before, after, rfl, ?_⟩
  simp_all

theorem precedes_of_not_mem (hfirst : first ∈ items)
    (hsecond : second ∉ items) :
    Precedes items first second := by
  obtain ⟨before, after, rfl⟩ := List.append_of_mem hfirst
  refine ⟨before, after, rfl, ?_⟩
  simp_all

/-- An element of two lists in a row stands in one of them. -/
theorem append_eq_append_cons {left right before after : List α} {item : α}
    (h : left ++ right = before ++ item :: after) :
    (∃ rest, left = before ++ item :: rest) ∨
      ∃ skipped, before = left ++ skipped ∧
        right = skipped ++ item :: after := by
  rcases List.append_eq_append_iff.1 h with
    ⟨skipped, hbefore, hright⟩ | ⟨rest, hleft, hrest⟩
  · exact .inr ⟨skipped, hbefore, hright⟩
  · cases rest with
    | nil => exact .inr ⟨[], by simpa using hleft.symm, hrest.symm⟩
    | cons head rest =>
        obtain ⟨rfl, -⟩ := List.cons.inj hrest
        exact .inl ⟨rest, hleft⟩

/-- Of two elements at two places, the one that is new where it stands comes
later. -/
theorem exists_between {before after earlier later : List α}
    (h : before ++ first :: after = earlier ++ second :: later)
    (hnew : second ∉ first :: before) :
    ∃ between, earlier = before ++ first :: between := by
  rw [List.mem_cons, not_or] at hnew
  rcases List.append_eq_append_iff.1 h with
    ⟨middle, rfl, hrest⟩ | ⟨middle, rfl, hrest⟩
  · cases middle with
    | nil => exact absurd (List.cons.inj hrest).1.symm hnew.1
    | cons head middle =>
        obtain ⟨rfl, -⟩ := List.cons.inj hrest
        exact ⟨middle, rfl⟩
  · cases middle with
    | nil => exact absurd (List.cons.inj hrest).1 hnew.1
    | cons head middle =>
        obtain ⟨rfl, -⟩ := List.cons.inj hrest
        simp at hnew

theorem Precedes.asymm (h : Precedes items first second) :
    ¬ Precedes items second first := by
  rintro ⟨earlier, later, hitems, hfirst⟩
  obtain ⟨before, after, rfl, hnew⟩ := h
  obtain ⟨between, rfl⟩ := exists_between hitems hnew
  simp at hfirst

theorem precedes_or_precedes (hfirst : first ∈ items) (hsecond : second ∈ items)
    (hne : first ≠ second) :
    Precedes items first second ∨ Precedes items second first := by
  induction items with
  | nil => simp at hfirst
  | cons head tail ih =>
      by_cases hhead : head = first
      · exact .inl ⟨[], tail, by rw [hhead]; rfl, by simpa using hne.symm⟩
      by_cases hother : head = second
      · exact .inr ⟨[], tail, by rw [hother]; rfl, by simpa using hne⟩
      have hboth := ih (by simpa [Ne.symm hhead] using hfirst)
        (by simpa [Ne.symm hother] using hsecond)
      exact hboth.imp (·.cons (Ne.symm hother)) (·.cons (Ne.symm hhead))

/-! ## Lists without repetitions -/

section

variable [BEq α]

theorem distinct_snoc (items : List α) (last : α) :
    distinct (items ++ [last]) =
      if (distinct items).contains last then distinct items
      else distinct items ++ [last] := by
  rw [distinct, List.foldl_append]
  rfl

variable [LawfulBEq α]

theorem mem_distinct {item : α} : item ∈ distinct items ↔ item ∈ items := by
  induction items using List.reverseRecOn with
  | nil => rfl
  | append_singleton items last ih =>
      rw [distinct_snoc, List.mem_append, List.mem_singleton, ← ih]
      split
      · next hseen =>
          rw [List.contains_iff_mem] at hseen
          refine ⟨.inl, ?_⟩
          rintro (hitem | rfl)
          · exact hitem
          · exact hseen
      · rw [List.mem_append, List.mem_singleton]

theorem pairwise_distinct (items : List α) :
    (distinct items).Pairwise (Precedes items) := by
  induction items using List.reverseRecOn with
  | nil => exact .nil
  | append_singleton items last ih =>
      have hbefore :=
        ih.imp fun {_ _} hprecedes => Precedes.append hprecedes [last]
      rw [distinct_snoc]
      split
      · exact hbefore
      · next hnew =>
          rw [List.contains_iff_mem, mem_distinct] at hnew
          refine List.pairwise_append.2 ⟨hbefore,
            List.pairwise_singleton _ _, ?_⟩
          intro item hitem other hother
          rw [List.mem_singleton.1 hother]
          exact (precedes_of_not_mem (mem_distinct.1 hitem) hnew).append [last]

end

/-- A list in the order of `others` is in that of `items` as well unless two
elements change places. -/
theorem pairwise_precedes_iff {others listed : List α}
    (hordered : listed.Pairwise (Precedes others))
    (hitems : ∀ item, item ∈ listed ↔ item ∈ items)
    (hothers : ∀ item, item ∈ listed ↔ item ∈ others) :
    listed.Pairwise (Precedes items) ↔
      ∀ first second, Precedes items first second →
        ¬ Precedes others second first := by
  constructor
  · intro hlisted first second hprecedes hswapped
    let Agree := fun first second :
      α => Precedes items first second ∧ Precedes others first second
    have hagree : listed.Pairwise fun first second => Agree first second ∨
        Agree second first :=
      (hlisted.and hordered).imp .inl
    have hsymm : Std.Symm fun first second => Agree first second ∨
        Agree second first :=
      ⟨fun _ _ => Or.symm⟩
    have hfirst := (hitems first).2 hprecedes.mem
    have hsecond := (hothers second).2 hswapped.mem
    rcases hagree.forall hfirst hsecond hprecedes.ne with h | h
    · exact hswapped.asymm h.2
    · exact hprecedes.asymm h.1
  · intro hkept
    refine hordered.imp_of_mem fun {first second} hfirst hsecond hprecedes => ?_
    rcases precedes_or_precedes ((hitems first).1 hfirst)
      ((hitems second).1 hsecond) hprecedes.ne with h | h
    · exact h
    · exact absurd hprecedes (hkept second first h)

end HttpEngine
