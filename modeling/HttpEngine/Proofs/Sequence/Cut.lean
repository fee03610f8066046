import HttpEngine.Bytes

/-!
# First occurrences

`cut?` finds the first occurrence of a run.  More input behind a list never
moves an occurrence that was found, and where none was found the end of the
list, one element shorter than the run, is all that can still belong to one.
-/

namespace HttpEngine.Sequence

/-! ## Setting the front aside -/

section

variable {α : Type}

theorem splitLast_append (count : Nat) (items : List α) :
    (splitLast count items).1 ++ (splitLast count items).2 = items := by
  simp [splitLast]

/-- Either all of a list is kept or exactly as much as was asked for. -/
theorem splitLast_length (count : Nat) (items : List α) :
    (splitLast count items).1 = [] ∨
      (splitLast count items).2.length = count := by
  by_cases h : items.length ≤ count
  · exact .inl (by simp [splitLast, Nat.sub_eq_zero_of_le h])
  · exact .inr (by simp [splitLast]; omega)

theorem length_splitLast_le (count : Nat) (items : List α) :
    (splitLast count items).2.length ≤ count := by
  simp [splitLast]
  omega

end

variable {α : Type} [BEq α] [LawfulBEq α]

theorem dropPrefix?_eq_none_iff {first items : List α} :
    dropPrefix? first items = none ↔ ¬ first <+: items := by
  rw [Option.eq_none_iff_forall_ne_some]
  constructor
  · rintro h ⟨after, rfl⟩
    exact h after (dropPrefix?_eq_some_iff.2 rfl)
  · intro h after hdrop
    exact h ⟨after, (dropPrefix?_eq_some_iff.1 hdrop).symm⟩

@[simp] theorem dropPrefix?_append (first after : List α) :
    dropPrefix? first (first ++ after) = some after :=
  dropPrefix?_eq_some_iff.2 rfl

/-! ## Where the first occurrence is -/

theorem cut?_self_append (needle after : List α) :
    cut? needle (needle ++ after) = some ([], after) := by
  cases hitems : needle ++ after with
  | nil =>
      obtain ⟨rfl, rfl⟩ := List.append_eq_nil_iff.1 hitems
      rfl
  | cons head tail =>
      have hdrop : dropPrefix? needle (head :: tail) = some after :=
        dropPrefix?_eq_some_iff.2 hitems.symm
      simp [cut?, hdrop]

theorem cut?_cons_of_not_isPrefix {needle tail : List α} {head : α}
    (h : ¬ needle <+: head :: tail) :
    cut? needle (head :: tail) =
      (cut? needle tail).map fun (before, after) =>
        (head :: before, after) := by
  simp [cut?, dropPrefix?_eq_none_iff.2 h]

theorem cut?_eq_none_iff {needle items : List α} :
    cut? needle items = none ↔ ¬ needle <:+: items := by
  induction items with
  | nil => cases needle <;> simp [cut?]
  | cons head tail ih =>
      rw [List.infix_cons_iff]
      by_cases hbegins : needle <+: head :: tail
      · obtain ⟨after, hafter⟩ := hbegins
        rw [← hafter, cut?_self_append]
        simp
      · simp [cut?_cons_of_not_isPrefix hbegins, hbegins, ih]

private theorem length_le_of_cut?
    {needle items before after earlier later : List α}
    (hcut : cut? needle items = some (before, after))
    (hitems : items = earlier ++ needle ++ later) :
    before.length ≤ earlier.length := by
  induction items generalizing before earlier with
  | nil =>
      have hbefore := eq_of_cut? hcut
      simp only [List.append_assoc, List.nil_eq, List.append_eq_nil_iff]
        at hbefore
      simp [hbefore.1]
  | cons head tail ih =>
      by_cases hbegins : needle <+: head :: tail
      · obtain ⟨rest, hrest⟩ := hbegins
        rw [← hrest, cut?_self_append] at hcut
        obtain ⟨rfl, -⟩ := Prod.mk.inj (Option.some.inj hcut)
        simp
      · rw [cut?_cons_of_not_isPrefix hbegins] at hcut
        obtain ⟨⟨shorter, rest⟩, htail, hpair⟩ := Option.map_eq_some_iff.1 hcut
        obtain ⟨rfl, rfl⟩ := Prod.mk.inj hpair
        cases earlier with
        | nil => exact absurd ⟨later, by simpa using hitems.symm⟩ hbegins
        | cons first earlier =>
            simp only [List.cons_append, List.cons.injEq] at hitems
            simpa using ih htail hitems.2

/-- `cut?` cuts at the first occurrence. -/
theorem cut?_eq_some_iff {needle items before after : List α} :
    cut? needle items = some (before, after) ↔
      items = before ++ needle ++ after ∧
        ∀ earlier later, items = earlier ++ needle ++ later →
          before.length ≤ earlier.length := by
  constructor
  · intro hcut
    exact ⟨eq_of_cut? hcut, fun _ _ => length_le_of_cut? hcut⟩
  · rintro ⟨hitems, hfirst⟩
    cases hcut : cut? needle items with
    | none =>
        exact absurd ⟨before, after, hitems.symm⟩ (cut?_eq_none_iff.1 hcut)
    | some pair =>
        obtain ⟨found, rest⟩ := pair
        have hfound := eq_of_cut? hcut
        have hlength : found.length = before.length :=
          Nat.le_antisymm (length_le_of_cut? hcut hitems)
            (hfirst found rest hfound)
        have hsplit := hfound.symm.trans hitems
        rw [List.append_assoc, List.append_assoc] at hsplit
        obtain ⟨rfl, htail⟩ := List.append_inj hsplit hlength
        rw [List.append_cancel_left htail]

/-! ## More input -/

/-- More input does not move an occurrence. -/
theorem cut?_append_of_eq_some {needle items before after : List α}
    (h : cut? needle items = some (before, after)) (more : List α) :
    cut? needle (items ++ more) = some (before, after ++ more) := by
  induction items generalizing before with
  | nil =>
      cases needle with
      | nil =>
          obtain ⟨rfl, rfl⟩ : before = [] ∧ after = [] := by
            simpa [cut?, eq_comm] using h
          exact cut?_self_append [] more
      | cons first rest => simp [cut?] at h
  | cons head tail ih =>
      by_cases hbegins : needle <+: head :: tail
      · obtain ⟨rest, hrest⟩ := hbegins
        rw [← hrest, cut?_self_append] at h
        obtain ⟨rfl, rfl⟩ := Prod.mk.inj (Option.some.inj h)
        rw [← hrest, List.append_assoc, cut?_self_append]
      · rw [cut?_cons_of_not_isPrefix hbegins] at h
        obtain ⟨⟨shorter, rest⟩, htail, hpair⟩ := Option.map_eq_some_iff.1 h
        obtain ⟨rfl, rfl⟩ := Prod.mk.inj hpair
        have hlength : needle.length ≤ (head :: tail).length := by
          simp [eq_of_cut? htail]
          omega
        have hlonger : ¬ needle <+: head :: (tail ++ more) := fun hlong =>
          hbegins (List.prefix_of_prefix_length_le hlong
            (List.prefix_append (head :: tail) more) hlength)
        rw [List.cons_append, cut?_cons_of_not_isPrefix hlonger, ih htail]
        rfl

/-- An occurrence that ends within the first part of a list is one of
that part. -/
theorem cut?_eq_some_of_append {needle items more before after : List α}
    (h : cut? needle (items ++ more) = some (before, after))
    (hlength : more.length ≤ after.length) :
    ∃ rest, cut? needle items = some (before, rest) ∧ after = rest ++ more := by
  obtain ⟨hitems, hfirst⟩ := cut?_eq_some_iff.1 h
  obtain ⟨rest, rfl⟩ : more <:+ after :=
    List.suffix_of_suffix_length_le (List.suffix_append items more)
      (hitems ▸ List.suffix_append (before ++ needle) after) hlength
  have hcut : items = before ++ needle ++ rest := by
    rw [← List.append_assoc] at hitems
    exact List.append_cancel_right hitems
  refine ⟨rest, cut?_eq_some_iff.2 ⟨hcut, fun earlier later hearlier => ?_⟩,
    rfl⟩
  exact hfirst earlier (later ++ more) (by simp [hearlier])

/-- Where nothing was found, all but the last elements, one fewer than the run
has, can be set aside: no occurrence begins there, whatever follows. -/
theorem cut?_append_of_eq_none {needle ready kept : List α}
    (h : cut? needle (ready ++ kept) = none)
    (hkept : ready = [] ∨ needle.length ≤ kept.length + 1) (more : List α) :
    cut? needle (ready ++ (kept ++ more)) =
      (cut? needle (kept ++ more)).map fun (before, after) =>
        (ready ++ before, after) := by
  induction ready with
  | nil => simp
  | cons head tail ih =>
      have hnone := cut?_eq_none_iff.1 h
      rw [List.cons_append, List.infix_cons_iff, not_or] at hnone
      have hlength : needle.length ≤ kept.length + 1 := by simpa using hkept
      have hbegins : ¬ needle <+: head :: (tail ++ (kept ++ more)) := by
        intro hlong
        refine hnone.1
          (List.prefix_of_prefix_length_le hlong ⟨more, by simp⟩ ?_)
        simp
        omega
      rw [List.cons_append, cut?_cons_of_not_isPrefix hbegins,
        ih (cut?_eq_none_iff.2 hnone.2) (.inr hlength)]
      cases cut? needle (kept ++ more) <;> rfl

/-- What `splitLast` keeps is enough to find an occurrence that more input
completes. -/
theorem cut?_append_splitLast {needle items : List α}
    (h : cut? needle items = none) (more : List α) :
    cut? needle (items ++ more) =
      (cut? needle ((splitLast (needle.length - 1) items).2 ++ more)).map
        fun (before, after) =>
          ((splitLast (needle.length - 1) items).1 ++ before, after) := by
  have hitems := splitLast_append (needle.length - 1) items
  have hkept := splitLast_length (needle.length - 1) items
  generalize (splitLast (needle.length - 1) items).1 = ready at *
  generalize (splitLast (needle.length - 1) items).2 = kept at *
  subst hitems
  rw [List.append_assoc]
  refine cut?_append_of_eq_none h (hkept.imp_right fun hlength => ?_) more
  omega

theorem cut?_splitLast_eq_none {needle items : List α} (count : Nat)
    (h : cut? needle items = none) :
    cut? needle (splitLast count items).2 = none := by
  rw [cut?_eq_none_iff] at h ⊢
  intro hinfix
  apply h
  rw [← splitLast_append count items]
  exact hinfix.trans (List.suffix_append _ _).isInfix

/-! ## Runs that cannot begin in a part -/

/-- A part without the first element of the run is passed over. -/
theorem cut?_append_of_not_mem {first : α} {rest before : List α}
    (h : first ∉ before) (items : List α) :
    cut? (first :: rest) (before ++ items) =
      (cut? (first :: rest) items).map fun (found, after) =>
        (before ++ found, after) := by
  induction before with
  | nil => simp
  | cons head tail ih =>
      rw [List.mem_cons, not_or] at h
      obtain ⟨hhead, htail⟩ := h
      have hbegins : ¬ first :: rest <+: head :: (tail ++ items) := by
        rw [List.cons_prefix_cons]
        exact fun hboth => hhead hboth.1
      rw [List.cons_append, cut?_cons_of_not_isPrefix hbegins, ih htail]
      cases cut? (first :: rest) items <;> rfl

/-! ## Cuts at one element -/

theorem cutAt?_append_cons {separator : α} {before : List α}
    (h : separator ∉ before) (after : List α) :
    cutAt? separator (before ++ separator :: after) = some (before, after) := by
  induction before with
  | nil => simp [cutAt?]
  | cons head tail ih =>
      rw [List.mem_cons, not_or] at h
      obtain ⟨hhead, htail⟩ := h
      simp [cutAt?, Ne.symm hhead, ih htail]

theorem eq_of_cutAt? {separator : α} {items before after : List α}
    (h : cutAt? separator items = some (before, after)) :
    items = before ++ separator :: after := by
  induction items generalizing before with
  | nil => simp [cutAt?] at h
  | cons head tail ih =>
      by_cases hhead : head = separator
      · simp [cutAt?, hhead] at h
        simp [hhead, h]
      · simp only [cutAt?, beq_iff_eq, hhead, if_false] at h
        obtain ⟨⟨shorter, rest⟩, htail, hpair⟩ := Option.map_eq_some_iff.1 h
        obtain ⟨rfl, rfl⟩ := Prod.mk.inj hpair
        rw [ih htail, List.cons_append]

theorem not_mem_of_mem_splitOn {separator : α} {items piece : List α}
    (h : piece ∈ items.splitOn separator) : separator ∉ piece := by
  induction items generalizing piece with
  | nil => simp_all
  | cons head tail ih =>
      rw [List.splitOn_cons_eq_if_modifyHead] at h
      split at h
      · rcases List.mem_cons.1 h with rfl | hpiece
        · simp
        · exact ih hpiece
      · next hhead =>
          obtain ⟨first, more, hsplit⟩ :=
            List.exists_cons_of_ne_nil (List.splitOn_ne_nil separator tail)
          rw [hsplit] at h ih
          rcases List.mem_cons.1 h with rfl | hpiece
          · rw [List.mem_cons, not_or]
            exact ⟨fun heq => hhead (beq_iff_eq.2 heq.symm),
              ih List.mem_cons_self⟩
          · exact ih (List.mem_cons_of_mem _ hpiece)

omit [LawfulBEq α] in
theorem subset_of_mem_splitOn {separator : α} {items piece : List α}
    (h : piece ∈ items.splitOn separator) : piece ⊆ items := by
  induction items generalizing piece with
  | nil => simp_all
  | cons head tail ih =>
      rw [List.splitOn_cons_eq_if_modifyHead] at h
      split at h
      · rcases List.mem_cons.1 h with rfl | hpiece
        · exact List.nil_subset _
        · exact List.subset_cons_of_subset head (ih hpiece)
      · obtain ⟨first, more, hsplit⟩ :=
          List.exists_cons_of_ne_nil (List.splitOn_ne_nil separator tail)
        rw [hsplit] at h ih
        rcases List.mem_cons.1 h with rfl | hpiece
        · exact List.cons_subset_cons head (ih List.mem_cons_self)
        · exact List.subset_cons_of_subset head
            (ih (List.mem_cons_of_mem _ hpiece))

/-! ## Splitting at a run -/

private theorem splitRunsAux_intercalate {first : α} {rest : List α}
    {pieces : List (List α)} (h : ∀ piece ∈ pieces, first ∉ piece)
    (hpieces : pieces ≠ []) {fuel : Nat} (hfuel : pieces.length ≤ fuel + 1) :
    splitRunsAux (first :: rest) fuel ((first :: rest).intercalate pieces) =
      pieces := by
  induction pieces generalizing fuel with
  | nil => exact absurd rfl hpieces
  | cons piece more ih =>
      have hpiece := h piece List.mem_cons_self
      cases more with
      | nil =>
          have hnone : cut? (first :: rest) piece = none := by
            rw [cut?_eq_none_iff]
            intro hinside
            exact hpiece (hinside.subset List.mem_cons_self)
          cases fuel with
          | zero => simp [splitRunsAux]
          | succ fuel => simp [splitRunsAux, hnone]
      | cons second more =>
          cases fuel with
          | zero => simp at hfuel
          | succ fuel =>
              rw [List.intercalate_cons_cons, List.append_assoc, splitRunsAux,
                cut?_append_of_not_mem hpiece, cut?_self_append]
              simp only [Option.map_some, List.append_nil]
              rw [ih (fun other hother =>
                h other (List.mem_cons_of_mem _ hother)) (by simp)]
              simpa using hfuel

/-- Pieces without the first element of the run come apart again. -/
theorem splitRuns_intercalate {first : α} {rest : List α}
    {pieces : List (List α)} (h : ∀ piece ∈ pieces, first ∉ piece)
    (hpieces : pieces ≠ []) :
    splitRuns (first :: rest) ((first :: rest).intercalate pieces) =
      pieces := by
  refine splitRunsAux_intercalate h hpieces ?_
  have hlength : ∀ pieces : List (List α),
      pieces.length ≤ ((first :: rest).intercalate pieces).length + 1 := by
    intro pieces
    induction pieces with
    | nil => simp
    | cons piece more ih =>
        cases more with
        | nil => simp
        | cons second more =>
            rw [List.intercalate_cons_cons]
            simp only [List.length_cons, List.length_append] at ih ⊢
            omega
  exact hlength pieces

end HttpEngine.Sequence
