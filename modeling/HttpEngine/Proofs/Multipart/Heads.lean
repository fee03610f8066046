import HttpEngine.Proofs.Multipart.Outline
import HttpEngine.Proofs.Sequence.Cut

/-!
# The header blocks of a body

Where the header blocks of a body begin and where they end, in the body as a
whole: more input moves neither, and the blocks are those whose sizes an outline
gives.
-/

namespace HttpEngine.Multipart

/-! ## Header blocks -/

theorem cutHead?_eq_splitHead? (bytes : Bytes) :
    Decoder.cutHead? bytes = Outline.splitHead? bytes := by
  unfold Decoder.cutHead? Outline.splitHead?
  split
  · next rest hdrop =>
      have hbytes := Sequence.dropPrefix?_eq_some_iff.1 hdrop
      rw [if_pos (by simp [hbytes]), hbytes]
      rfl
  · next hdrop =>
      rw [if_neg (by simpa using Sequence.dropPrefix?_eq_none_iff.1 hdrop)]

theorem splitHead?_append_of_eq_some {bytes block after : Bytes}
    (h : Outline.splitHead? bytes = some (block, after)) (more : Bytes) :
    Outline.splitHead? (bytes ++ more) = some (block, after ++ more) := by
  rw [← cutHead?_eq_splitHead?] at h ⊢
  unfold Decoder.cutHead? at h ⊢
  cases hdrop : Sequence.dropPrefix? crlf bytes with
  | some rest =>
      simp only [hdrop, Option.some.injEq, Prod.mk.injEq] at h
      obtain ⟨rfl, rfl⟩ := h
      rw [Sequence.dropPrefix?_eq_some_iff.1 hdrop, List.append_assoc,
        Sequence.dropPrefix?_append]
  | none =>
      simp only [hdrop] at h
      have hbegins : ¬ crlf <+: bytes ++ more := by
        intro hlonger
        refine Sequence.dropPrefix?_eq_none_iff.1 hdrop
          (List.prefix_of_prefix_length_le hlonger
            (List.prefix_append bytes more) ?_)
        simp [Sequence.eq_of_cut? h, crlf]
        omega
      rw [Sequence.dropPrefix?_eq_none_iff.2 hbegins]
      exact Sequence.cut?_append_of_eq_some h more

/-- A header block that does not end in the bytes at hand is larger
than these. -/
theorem length_lt_of_splitHead?_eq_none {bytes more block after : Bytes}
    (hnone : Outline.splitHead? bytes = none)
    (h : Outline.splitHead? (bytes ++ more) = some (block, after)) :
    bytes.length < (bytes ++ more).length - after.length := by
  refine Nat.lt_of_not_le fun hlength => ?_
  unfold Outline.splitHead? at hnone h
  split at hnone
  · simp at hnone
  next hbegins =>
  split at h
  · next hlonger =>
      have hprefix : crlf <+: bytes ++ more := by simpa using hlonger
      have htwo : 2 ≤ (bytes ++ more).length := hprefix.length_le
      obtain ⟨-, rfl⟩ := Prod.mk.inj (Option.some.inj h)
      rw [List.length_drop] at hlength
      have hcrlf : crlf.length ≤ bytes.length := by
        change 2 ≤ bytes.length
        omega
      apply hbegins
      simpa using List.prefix_of_prefix_length_le hprefix
        (List.prefix_append bytes more) hcrlf
  · have hafter : more.length ≤ after.length := by
      have hsize := congrArg List.length (Sequence.eq_of_cut? h)
      simp only [List.length_append] at hlength hsize
      omega
    obtain ⟨rest, hcut, -⟩ := Sequence.cut?_eq_some_of_append h hafter
    simp [hcut] at hnone

namespace Outline

/-- The size of the header block at the front with the line breaks that end it;
more than there is where nothing ends it. -/
def headEnd (bytes : Bytes) : Nat :=
  match splitHead? bytes with
  | some (_, after) => bytes.length - after.length
  | none => bytes.length + 1

theorem headEnd_of_eq_some {bytes block after : Bytes}
    (h : splitHead? bytes = some (block, after)) :
    headEnd bytes = bytes.length - after.length := by
  simp only [headEnd, h]

theorem headEnd_of_eq_none {bytes : Bytes} (h : splitHead? bytes = none) :
    headEnd bytes = bytes.length + 1 := by
  simp only [headEnd, h]

/-- The end of a block has not come as long as fewer bytes have. -/
theorem splitHead?_eq_none_iff (bytes more : Bytes) :
    splitHead? bytes = none ↔ bytes.length < headEnd (bytes ++ more) := by
  constructor
  · intro hnone
    cases hlonger : splitHead? (bytes ++ more) with
    | none =>
        rw [headEnd_of_eq_none hlonger, List.length_append]
        omega
    | some pair =>
        rw [headEnd_of_eq_some hlonger]
        exact length_lt_of_splitHead?_eq_none hnone hlonger
  · intro hlength
    cases hhead : splitHead? bytes with
    | none => rfl
    | some pair =>
        rw [headEnd_of_eq_some (splitHead?_append_of_eq_some hhead more)]
          at hlength
        simp only [List.length_append] at hlength
        omega

/-! ## The blocks of a body -/

/-- The header blocks that begin behind a delimiter, each with all
that follows. -/
def headsOfRest (marker : Bytes) : Bytes → List Bytes
  | first :: second :: rest =>
      if [first, second] = crlf then
        rest ::
          match _hhead : splitHead? rest with
          | none => []
          | some (_, after) =>
              match _hcontent : Sequence.cut? marker after with
              | none => []
              | some (_, next) => headsOfRest marker next
      else []
  | _ => []
termination_by bytes => bytes.length
decreasing_by
  have hafter := length_of_splitHead? _hhead
  have hnext := Decoder.length_of_cut? _hcontent
  simp only [List.length_cons]
  omega

/-- The header blocks in bytes in which the next delimiter is still to come. -/
def headsBehind (marker bytes : Bytes) : List Bytes :=
  match Sequence.cut? marker bytes with
  | none => []
  | some (_, rest) => headsOfRest marker rest

/-- The header blocks that begin in a body, each with all that follows. -/
def headsOfBody (boundary body : Bytes) : List Bytes :=
  headsBehind (crlf ++ dashes ++ boundary) (crlf ++ body)

theorem headsOfRest_crlf (marker rest : Bytes) :
    headsOfRest marker (crlf ++ rest) =
      rest ::
        match splitHead? rest with
        | none => []
        | some (_, after) => headsBehind marker after := by
  simp only [crlf, List.cons_append, List.nil_append]
  rw [headsOfRest, if_pos (show [13, 10] = crlf from rfl)]
  congr 1
  split
  · next hhead => rw [hhead]
  · next hhead =>
      rw [hhead]
      simp only [headsBehind]
      split
      · next hcontent => rw [hcontent]
      · next hcontent => rw [hcontent]

theorem headsOfRest_other {marker rest : Bytes} (h : ¬ crlf <+: rest) :
    headsOfRest marker rest = [] := by
  match rest with
  | [] => simp [headsOfRest]
  | [_] => simp [headsOfRest]
  | first :: second :: rest =>
      rw [headsOfRest, if_neg]
      intro hcrlf
      exact h ⟨rest, by rw [← hcrlf]; rfl⟩

/-- Induction along the delimiters of a body. -/
@[elab_as_elim] theorem rest_induction (marker : Bytes) {motive : Bytes → Prop}
    (bytes : Bytes) (other : ∀ rest, ¬ crlf <+: rest → motive rest)
    (part : ∀ rest,
      (∀ block after content next, splitHead? rest = some (block, after) →
      Sequence.cut? marker after = some (content, next) → motive next) →
      motive (crlf ++ rest)) :
    motive bytes := by
  induction hsize : bytes.length using Nat.strongRecOn generalizing bytes with
  | ind size ih =>
      by_cases hcrlf : crlf <+: bytes
      · obtain ⟨rest, rfl⟩ := hcrlf
        refine part rest fun block after content next hhead hcontent =>
          ih next.length ?_ next rfl
        have hafter := length_of_splitHead? hhead
        have hnext := Decoder.length_of_cut? hcontent
        rw [← hsize, List.length_append]
        exact Nat.lt_of_le_of_lt (Nat.le_trans hnext hafter)
          (Nat.lt_add_of_pos_left (by decide))
      · exact other bytes hcrlf

theorem length_le_of_mem_headsOfRest {marker bytes tail : Bytes}
    (hmem : tail ∈ headsOfRest marker bytes) :
    tail.length + 2 ≤ bytes.length := by
  induction bytes using rest_induction marker with
  | other rest hcrlf => simp [headsOfRest_other hcrlf] at hmem
  | part rest ih =>
      rw [headsOfRest_crlf, List.mem_cons] at hmem
      have htwo : (crlf ++ rest).length = rest.length + 2 := rfl
      rw [htwo]
      rcases hmem with rfl | hmem
      · exact Nat.le_refl _
      · cases hhead : splitHead? rest with
        | none => simp [hhead] at hmem
        | some pair =>
            simp only [hhead, headsBehind] at hmem
            cases hcontent : Sequence.cut? marker pair.2 with
            | none => simp [hcontent] at hmem
            | some found =>
                simp only [hcontent] at hmem
                have hafter := length_of_splitHead? hhead
                have hnext := Decoder.length_of_cut? hcontent
                have hshorter :=
                  ih pair.1 pair.2 found.1 found.2 hhead hcontent hmem
                omega

theorem headsBehind_append_of_eq_some {marker bytes before after : Bytes}
    (h : Sequence.cut? marker bytes = some (before, after)) (more : Bytes) :
    headsBehind marker (bytes ++ more) =
      headsOfRest marker (after ++ more) := by
  simp only [headsBehind, Sequence.cut?_append_of_eq_some h more]

/-- What is set aside in front of a delimiter has no part in what follows. -/
theorem headsBehind_splitLast {marker bytes : Bytes}
    (h : Sequence.cut? marker bytes = none) (more : Bytes) :
    headsBehind marker ((Sequence.splitLast (marker.length - 1) bytes).2 ++
      more) = headsBehind marker (bytes ++ more) := by
  simp only [headsBehind, Sequence.cut?_append_splitLast h more]
  cases Sequence.cut? marker
    ((Sequence.splitLast (marker.length - 1) bytes).2 ++ more) <;> rfl

/-- Where no delimiter is at hand, the next block begins in what is still to
come. -/
theorem length_le_of_mem_headsBehind_append {marker bytes more tail : Bytes}
    (h : Sequence.cut? marker bytes = none)
    (hmem : tail ∈ headsBehind marker (bytes ++ more)) :
    tail.length ≤ more.length := by
  rw [headsBehind] at hmem
  split at hmem
  · simp at hmem
  · next hcut =>
      have hshorter := length_le_of_mem_headsOfRest hmem
      refine Nat.le_of_not_lt fun hlength => ?_
      obtain ⟨rest, hfound, -⟩ :=
        Sequence.cut?_eq_some_of_append hcut (by omega)
      simp [h] at hfound

theorem length_le_of_mem_headsBehind {marker bytes tail : Bytes}
    (hmem : tail ∈ headsBehind marker bytes) : tail.length ≤ bytes.length := by
  rw [headsBehind] at hmem
  split at hmem
  · simp at hmem
  · next hcut =>
      have hrest := Decoder.length_of_cut? hcut
      have hshorter := length_le_of_mem_headsOfRest hmem
      omega

/-- The sizes in an outline are those of the blocks, or what there is of a block
that does not end. -/
theorem headSizes_ofRest (marker bytes : Bytes) :
    (ofRest marker bytes).headSizes =
      (headsOfRest marker bytes).map fun tail =>
        min (headEnd tail) tail.length := by
  induction bytes using rest_induction marker with
  | other rest hcrlf =>
      rw [headsOfRest_other hcrlf]
      match rest with
      | [] | [_] => rw [ofRest_short (by simp)]; rfl
      | first :: second :: rest =>
          have hother : [first, second] ≠ crlf :=
            fun hopen => hcrlf ⟨rest, by rw [← hopen]; rfl⟩
          by_cases hdashes : [first, second] = dashes
          · rw [ofRest, if_pos hdashes]
            rfl
          · rw [ofRest_other hdashes hother]
            rfl
  | part rest ih =>
      rw [ofRest_crlf, headsOfRest_crlf]
      cases hhead : splitHead? rest with
      | none => simp [headEnd_of_eq_none hhead]
      | some pair =>
          have hsize :
              min (headEnd rest) rest.length = rest.length - pair.2.length := by
            rw [headEnd_of_eq_some hhead]
            exact Nat.min_eq_left (Nat.sub_le _ _)
          simp only [ofContent, addHeadSize, List.map_cons, hsize, headsBehind]
          cases hcontent : Sequence.cut? marker pair.2 with
          | none => rfl
          | some found =>
              exact congrArg _ (ih pair.1 pair.2 found.1 found.2 hhead hcontent)

theorem headSizes_ofBody (boundary body : Bytes) :
    (ofBody boundary body).headSizes =
      (headsOfBody boundary body).map fun tail =>
        min (headEnd tail) tail.length := by
  rw [ofBody, ofPreamble, headsOfBody, headsBehind]
  cases Sequence.cut? (crlf ++ dashes ++ boundary) (crlf ++ body) with
  | none => rfl
  | some found => exact headSizes_ofRest _ found.2

end Outline

end HttpEngine.Multipart
