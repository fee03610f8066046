import HttpEngine.Proofs.Sequence.Cut
import HttpEngine.Route.Router
import Mathlib.Data.List.Sort
import Mathlib.Data.String.Basic

/-!
# Lists of names

Names that are sorted and freed of repetitions depend only on which names there
are.  Names without a comma come apart again after they were joined.
-/

namespace HttpEngine

/-! ## Sorted names -/

private theorem eraseRepsBy_loop {first : String} {names : List String}
    (done : List String) (h : (first :: names).Pairwise (· ≤ ·)) :
    ∃ kept, List.eraseRepsBy.loop (· == ·) first names done =
      done.reverse ++ kept ∧
      kept.Pairwise (· < ·) ∧ ∀ name, name ∈ kept ↔ name ∈ first :: names := by
  induction names generalizing first done with
  | nil => exact ⟨[first], by simp [List.eraseRepsBy.loop], by simp, by simp⟩
  | cons second names ih =>
      obtain ⟨hfirst, hsecond⟩ := List.pairwise_cons.1 h
      by_cases heq : first = second
      · subst heq
        obtain ⟨kept, hkept, hsorted, hmem⟩ := ih done hsecond
        exact ⟨kept, by simpa [List.eraseRepsBy.loop] using hkept, hsorted, by
          simp [hmem]⟩
      · obtain ⟨kept, hkept, hsorted, hmem⟩ := ih (first :: done) hsecond
        have hless : ∀ name ∈ kept, first < name := by
          intro name hname
          have hfirstSecond : first < second :=
            lt_of_le_of_ne (hfirst second (by simp)) heq
          rcases List.mem_cons.1 ((hmem name).1 hname) with rfl | hrest
          · exact hfirstSecond
          · exact lt_of_lt_of_le hfirstSecond
              ((List.pairwise_cons.1 hsecond).1 name hrest)
        refine ⟨first :: kept, ?_, List.pairwise_cons.2 ⟨hless, hsorted⟩,
          by simp [hmem]⟩
        simpa [List.eraseRepsBy.loop, beq_false_of_ne heq] using hkept

theorem sortDistinct_spec (names : List String) :
    (sortDistinct names).Pairwise (· < ·) ∧
      ∀ name, name ∈ sortDistinct names ↔ name ∈ names := by
  have hsorted :
      (names.mergeSort fun first second => decide (first ≤ second)).Pairwise
      (· ≤ ·) := List.pairwise_mergeSort' (· ≤ ·) names
  have hmem : ∀ name,
      name ∈ names.mergeSort (fun first second => decide (first ≤ second)) ↔
      name ∈ names := fun name => List.mem_mergeSort
  unfold sortDistinct
  cases hnames :
    names.mergeSort fun first second => decide (first ≤ second) with
  | nil =>
      rw [hnames] at hmem
      exact ⟨List.Pairwise.nil, hmem⟩
  | cons first rest =>
      rw [hnames] at hsorted hmem
      obtain ⟨kept, hkept, hless, hkeptMem⟩ := eraseRepsBy_loop [] hsorted
      rw [List.eraseReps, List.eraseRepsBy, hkept]
      exact ⟨hless, fun name => (hkeptMem name).trans (hmem name)⟩

theorem sortDistinct_pairwise (names : List String) :
    (sortDistinct names).Pairwise (· < ·) :=
  (sortDistinct_spec names).1

@[simp] theorem mem_sortDistinct {name : String} {names : List String} :
    name ∈ sortDistinct names ↔ name ∈ names :=
  (sortDistinct_spec names).2 name

theorem eq_of_pairwise_lt {first second : List String}
    (hfirst : first.Pairwise (· < ·)) (hsecond : second.Pairwise (· < ·))
    (h : ∀ name, name ∈ first ↔ name ∈ second) :
    first = second := by
  have hperm : first.Perm second :=
    (List.perm_ext_iff_of_nodup (hfirst.imp ne_of_lt) (hsecond.imp ne_of_lt)).2
      h
  exact List.Perm.eq_of_pairwise' (hfirst.imp le_of_lt)
    (hsecond.imp le_of_lt) hperm

theorem sortDistinct_congr {first second : List String}
    (h : ∀ name, name ∈ first ↔ name ∈ second) :
    sortDistinct first = sortDistinct second := by
  apply eq_of_pairwise_lt (sortDistinct_pairwise first)
    (sortDistinct_pairwise second)
  simpa using h

/-! ## Joined names -/

theorem splitNames_joinNames {names : List String} (hnames : names ≠ [])
    (h : ∀ name ∈ names, ',' ∉ name.toList) :
    splitNames (joinNames names) = names := by
  have hpieces : ∀ piece ∈ names.map String.toList, ',' ∉ piece := by
    simpa using h
  have hsplit :
      Sequence.splitRuns ", ".toList
        (", ".toList.intercalate (names.map String.toList)) =
      names.map String.toList :=
    Sequence.splitRuns_intercalate hpieces (by simpa using hnames)
  rw [splitNames, joinNames, String.toList_intercalate, hsplit]
  simp

end HttpEngine
