import HttpEngine.Proofs.Multipart.Heads
import Mathlib.Data.List.Infix

/-!
# The bound on header blocks

A decoder compares the size of a header block with the bound only where a chunk
ends and the end of the block has not come.  Which blocks are refused therefore
depends on where the chunks end, and is read off the body and its cuts here.
-/

namespace HttpEngine.Multipart

/-! ## Blocks that are refused -/

/-- With so many bytes still to come, more of the block is there than may be,
and not its end. -/
def IsOverlong (left : Nat) (tail : Bytes) : Prop :=
  maxHeaderSize < tail.length - left ∧ tail.length - left < Outline.headEnd tail

/-- A chunk ends within the block, and more than the bound behind where the
block begins. -/
def Overruns (chunks : List Bytes) (tail : Bytes) : Prop :=
  ∃ after, after <:+ chunks ∧ IsOverlong after.flatten.length tail

theorem not_isOverlong_of_le {left : Nat} {tail : Bytes}
    (h : tail.length ≤ left + maxHeaderSize) :
    ¬ IsOverlong left tail := by
  rintro ⟨hover, -⟩
  omega

theorem Outline.HeadsFit.not_overruns {boundary body tail : Bytes}
    (hfits : (Outline.ofBody boundary body).HeadsFit)
    (hmem : tail ∈ Outline.headsOfBody boundary body) (chunks : List Bytes) :
    ¬ Overruns chunks tail := by
  rintro ⟨after, -, hover, hwithin⟩
  have hsize : min (Outline.headEnd tail) tail.length ≤ maxHeaderSize := by
    apply hfits
    rw [Outline.headSizes_ofBody]
    exact List.mem_map_of_mem hmem
  omega

namespace Decoder

variable {decoder : Decoder} {rest : Bytes} {chunks : List Bytes}

/-- The header blocks that are still to be read, when `rest` follows what the
buffer holds. -/
def headsAhead (decoder : Decoder) (rest : Bytes) : List Bytes :=
  match decoder.phase with
  | .preamble | .content _ =>
      Outline.headsBehind decoder.marker (decoder.buffer ++ rest)
  | .delimiter => Outline.headsOfRest decoder.marker (decoder.buffer ++ rest)
  | .headers =>
      Outline.headsOfRest decoder.marker (crlf ++ (decoder.buffer ++ rest))
  | .done => []

/-- A block was refused or will be when the chunks follow. -/
def Refuses (decoder : Decoder) (chunks : List Bytes) : Prop :=
  decoder.fault = some .headersTooLarge ∨
    decoder.fault = none ∧ ∃ tail ∈ decoder.headsAhead chunks.flatten,
      Overruns chunks tail

theorem refuses_congr {next : Decoder} (hfault : next.fault = decoder.fault)
    (hahead : next.headsAhead chunks.flatten =
      decoder.headsAhead chunks.flatten) :
    next.Refuses chunks ↔ decoder.Refuses chunks := by
  rw [Refuses, Refuses, hfault, hahead]

/-! ### Steps -/

theorem complete_fault (decoder : Decoder) (part : OpenPart) :
    (decoder.complete part).fault = decoder.fault := by
  unfold complete
  split <;> rfl

theorem complete_marker (decoder : Decoder) (part : OpenPart) :
    (decoder.complete part).marker = decoder.marker := by
  unfold complete
  split <;> rfl

theorem refuses_skipPreamble (hphase : decoder.phase = .preamble) :
    decoder.skipPreamble.1.Refuses chunks ↔ decoder.Refuses chunks := by
  unfold skipPreamble
  split
  · next hcut =>
      refine refuses_congr rfl ?_
      simp only [headsAhead, hphase, Outline.headsBehind_append_of_eq_some hcut]
  · next hcut =>
      refine refuses_congr rfl ?_
      simp only [headsAhead, hphase]
      exact Outline.headsBehind_splitLast hcut _

theorem refuses_readContent {part : OpenPart}
    (hphase : decoder.phase = .content part) :
    (decoder.readContent part).1.Refuses chunks ↔ decoder.Refuses chunks := by
  unfold readContent
  split
  · next hcut =>
      refine refuses_congr (complete_fault decoder _) ?_
      simp only [headsAhead, hphase, complete_marker,
        Outline.headsBehind_append_of_eq_some hcut]
  · next hcut =>
      refine refuses_congr rfl ?_
      simp only [headsAhead, hphase]
      exact Outline.headsBehind_splitLast hcut _

theorem not_refuses_of_headsAhead_eq_nil (hfault : decoder.fault = none)
    (hnone : decoder.headsAhead chunks.flatten = []) :
    ¬ decoder.Refuses chunks := by
  simp [Refuses, hfault, hnone]

theorem refuses_passDelimiter (hfault : decoder.fault = none)
    (hphase : decoder.phase = .delimiter) :
    decoder.passDelimiter.1.Refuses chunks ↔ decoder.Refuses chunks := by
  unfold passDelimiter
  split
  · next first second after hbuffer =>
      have hahead : decoder.headsAhead chunks.flatten =
          Outline.headsOfRest decoder.marker ([first, second] ++
            (after ++ chunks.flatten)) := by
        simp only [headsAhead, hphase, hbuffer]
        rfl
      split
      · next hdashes =>
          refine refuses_congr rfl ?_
          rw [hahead, hdashes, Outline.headsOfRest_other]
          · rfl
          · simp [dashes, crlf]
      · split
        · next hcrlf =>
            refine refuses_congr rfl ?_
            rw [hahead, hcrlf]
            rfl
        · next hcrlf =>
            -- The fault is another one, and no block begins.
            have hnone : decoder.headsAhead chunks.flatten = [] := by
              rw [hahead, Outline.headsOfRest_other]
              rintro ⟨rest, hrest⟩
              exact hcrlf (List.append_inj_left hrest rfl).symm
            have hother :
                ¬ (decoder.fail .malformedDelimiter).Refuses chunks := by
              simp [Refuses, fail]
            exact iff_of_false hother
              (not_refuses_of_headsAhead_eq_nil hfault hnone)
  · rfl

theorem refuses_readHeaders (hfault : decoder.fault = none)
    (hphase : decoder.phase = .headers) :
    decoder.readHeaders.1.Refuses chunks ↔ decoder.Refuses chunks := by
  have hahead : decoder.headsAhead chunks.flatten =
      Outline.headsOfRest decoder.marker (crlf ++
        (decoder.buffer ++ chunks.flatten)) := by
    simp only [headsAhead, hphase]
  have hend := Outline.splitHead?_eq_none_iff decoder.buffer chunks.flatten
  rw [Outline.headsOfRest_crlf] at hahead
  unfold readHeaders
  split
  · next block after hhead =>
      -- What has come holds the end of the block, and so does whatever has come
      -- later.
      rw [cutHead?_eq_splitHead?] at hhead
      have hpassed : ¬ Overruns chunks (decoder.buffer ++ chunks.flatten) := by
        rintro ⟨later, hsuffix, -, hwithin⟩
        have hleft := hsuffix.flatten.length_le
        have hover := mt hend.2 (by simp [hhead])
        rw [List.length_append] at hwithin
        omega
      rw [splitHead?_append_of_eq_some hhead] at hahead
      rw [Refuses, Refuses, hahead]
      simp [hfault, hpassed, headsAhead]
  · next hhead =>
      rw [cutHead?_eq_splitHead?] at hhead
      split
      · next hover =>
          refine iff_of_true (.inl rfl) (.inr ⟨hfault, _,
            hahead ▸ List.mem_cons_self, ?_⟩)
          refine ⟨chunks, List.suffix_refl chunks, ?_⟩
          rw [IsOverlong, List.length_append, Nat.add_sub_cancel]
          exact ⟨hover, hend.1 hhead⟩
      · rfl

theorem refuses_step (hfault : decoder.fault = none) :
    decoder.step.1.Refuses chunks ↔ decoder.Refuses chunks := by
  unfold step
  split
  · next hphase => exact refuses_skipPreamble hphase
  · next hphase => exact refuses_passDelimiter hfault hphase
  · next hphase => exact refuses_readHeaders hfault hphase
  · next part hphase => exact refuses_readContent hphase
  · next hphase => exact refuses_congr rfl (by simp [headsAhead, hphase])

theorem step_fault (h : decoder.step.2 = true) :
    decoder.step.1.fault = decoder.fault := by
  unfold step at h ⊢
  split at h
  · unfold skipPreamble
    split <;> rfl
  · unfold passDelimiter at h ⊢
    split at h
    · split at h
      · simp at h
      · split at h
        · next hdashes hcrlf => rw [if_neg hdashes, if_pos hcrlf]
        · simp at h
    · rfl
  · unfold readHeaders at h ⊢
    split at h
    · rfl
    · split at h <;> simp at h
  · unfold readContent
    split
    · exact complete_fault decoder _
    · rfl
  · rfl

/-! ### Where a chunk ends -/

/-- What a decoder is left with when a step does not go on. -/
inductive AtRest (decoder : Decoder) : Prop
  | failed (hfault : decoder.fault ≠ none)
  | ended (hphase : decoder.phase = .done)
  | seeking
      (hphase : decoder.phase = .preamble ∨
        ∃ part, decoder.phase = .content part)
      (hcut : Sequence.cut? decoder.marker decoder.buffer = none)
  | undecided (hphase : decoder.phase = .delimiter)
      (hshort : decoder.buffer.length < 2)
  | reading (hphase : decoder.phase = .headers)
      (hhead : Outline.splitHead? decoder.buffer = none)
      (hsize : decoder.buffer.length ≤ maxHeaderSize)

theorem atRest_step (h : decoder.step.2 = false) : decoder.step.1.AtRest := by
  cases hphase : decoder.phase with
  | preamble =>
      simp only [step, hphase] at h ⊢
      cases hcut : Sequence.cut? decoder.marker decoder.buffer with
      | some pair => simp [skipPreamble, hcut] at h
      | none =>
          simp only [skipPreamble, hcut]
          exact .seeking (.inl hphase) (Sequence.cut?_splitLast_eq_none _ hcut)
  | delimiter =>
      simp only [step, hphase, passDelimiter] at h ⊢
      rcases hbuffer : decoder.buffer with _ | ⟨first, _ | ⟨second, after⟩⟩
      · exact .undecided hphase (by simp [hbuffer])
      · exact .undecided hphase (by simp [hbuffer])
      · simp only [hbuffer] at h ⊢
        by_cases hdashes : [first, second] = dashes
        · rw [if_pos hdashes]
          exact .ended rfl
        by_cases hcrlf : [first, second] = crlf
        · simp [if_neg hdashes, if_pos hcrlf] at h
        · rw [if_neg hdashes, if_neg hcrlf]
          exact .failed (by simp [fail])
  | headers =>
      simp only [step, hphase, readHeaders, cutHead?_eq_splitHead?] at h ⊢
      cases hhead : Outline.splitHead? decoder.buffer with
      | some pair => simp [hhead] at h
      | none =>
          by_cases hsize : maxHeaderSize < decoder.buffer.length
          · simp only [if_pos hsize]
            exact .failed (by simp [fail])
          · simp only [if_neg hsize]
            exact .reading hphase hhead (Nat.le_of_not_lt hsize)
  | content part =>
      simp only [step, hphase] at h ⊢
      cases hcut : Sequence.cut? decoder.marker decoder.buffer with
      | some pair => simp [readContent, hcut] at h
      | none =>
          simp only [readContent, hcut]
          exact .seeking (.inr ⟨_, rfl⟩)
            (Sequence.cut?_splitLast_eq_none _ hcut)
  | done =>
      simp only [step, hphase]
      exact .ended rfl

theorem atRest_run (decoder : Decoder) : (run decoder).AtRest := by
  induction decoder using run.induct with
  | case1 decoder hgoes ih =>
      rw [run, dif_pos hgoes]
      exact ih
  | case2 decoder hstops =>
      rw [run, dif_neg hstops]
      exact atRest_step (by simpa using hstops)

theorem AtRest.decode (h : decoder.AtRest) (chunk : Bytes) :
    (decoder.decode chunk).AtRest := by
  rw [Decoder.decode]
  split
  · exact h
  · exact atRest_run _

/-- Of a block that is still to be read no more has come than the bound. -/
theorem AtRest.length_le_of_mem_headsAhead (h : decoder.AtRest)
    (hfault : decoder.fault = none) {rest tail : Bytes}
    (hmem : tail ∈ decoder.headsAhead rest) :
    tail.length ≤ rest.length + maxHeaderSize := by
  cases h with
  | failed hfailed => exact absurd hfault hfailed
  | ended hphase => simp [headsAhead, hphase] at hmem
  | seeking hphase hcut =>
      have hbehind :
          tail ∈
            Outline.headsBehind decoder.marker (decoder.buffer ++ rest) := by
        rcases hphase with
          hphase | ⟨part, hphase⟩ <;> simpa only [headsAhead, hphase] using hmem
      exact Nat.le_add_right_of_le
        (Outline.length_le_of_mem_headsBehind_append hcut hbehind)
  | undecided hphase hshort =>
      simp only [headsAhead, hphase] at hmem
      have hlength := Outline.length_le_of_mem_headsOfRest hmem
      rw [List.length_append] at hlength
      omega
  | reading hphase hhead hsize =>
      simp only [headsAhead, hphase, Outline.headsOfRest_crlf, List.mem_cons]
        at hmem
      rcases hmem with rfl | hmem
      · rw [List.length_append]
        omega
      · -- The next block begins behind the end of this one, which has not come.
        cases hsplit : Outline.splitHead? (decoder.buffer ++ rest) with
        | none => simp [hsplit] at hmem
        | some pair =>
            simp only [hsplit] at hmem
            have hend := length_lt_of_splitHead?_eq_none hhead hsplit
            have hlength := Outline.length_le_of_mem_headsBehind hmem
            rw [List.length_append] at hend
            omega

/-! ### Whole runs -/

theorem refuses_run (hfault : decoder.fault = none) :
    (run decoder).Refuses chunks ↔ decoder.Refuses chunks := by
  induction decoder using run.induct with
  | case1 decoder hgoes ih =>
      rw [run, dif_pos hgoes]
      exact (ih ((step_fault hgoes).trans hfault)).trans (refuses_step hfault)
  | case2 decoder hstops =>
      rw [run, dif_neg hstops]
      exact refuses_step hfault

theorem AtRest.overruns_cons_iff (h : decoder.AtRest)
    (hfault : decoder.fault = none) {chunk tail : Bytes}
    (hmem : tail ∈ decoder.headsAhead (chunk :: chunks).flatten) :
    Overruns (chunk :: chunks) tail ↔ Overruns chunks tail := by
  constructor
  · rintro ⟨after, hsuffix, hlong⟩
    rcases List.suffix_cons_iff.1 hsuffix with rfl | hsuffix
    · exact absurd hlong
        (not_isOverlong_of_le (h.length_le_of_mem_headsAhead hfault hmem))
    · exact ⟨after, hsuffix, hlong⟩
  · rintro ⟨after, hsuffix, hlong⟩
    exact ⟨after, hsuffix.trans (List.suffix_cons chunk chunks), hlong⟩

theorem AtRest.refuses_decode (h : decoder.AtRest) (chunk : Bytes) :
    (decoder.decode chunk).Refuses chunks ↔
      decoder.Refuses (chunk :: chunks) := by
  rw [Decoder.decode]
  split
  · next hover =>
      by_cases hfault : decoder.fault = none
      · have hphase : decoder.phase = .done := by simpa [hfault] using hover
        simp [Refuses, hfault, headsAhead, hphase]
      · simp [Refuses, hfault]
  · next hopen =>
      simp only [Bool.or_eq_true, not_or, Option.not_isSome_iff_eq_none]
        at hopen
      have hahead :
          ({ decoder with
            buffer := decoder.buffer ++ chunk } : Decoder).headsAhead
          chunks.flatten = decoder.headsAhead (chunk :: chunks).flatten := by
        simp [headsAhead]
      refine (@refuses_run { decoder with
        buffer := decoder.buffer ++ chunk } _ hopen.1).trans ?_
      rw [Refuses, Refuses, hahead]
      refine or_congr_right (and_congr_right fun hfault =>
        exists_congr fun tail => ?_)
      exact and_congr_right fun hmem => (h.overruns_cons_iff hfault hmem).symm

theorem AtRest.fault_foldl_decode_iff (h : decoder.AtRest) :
    (chunks.foldl Decoder.decode decoder).fault = some .headersTooLarge ↔
      decoder.Refuses chunks := by
  induction chunks generalizing decoder with
  | nil =>
      rw [List.foldl_nil, Refuses, iff_self_or]
      rintro ⟨hfault, tail, hmem, after, hsuffix, hlong⟩
      rw [List.suffix_nil.1 hsuffix] at hlong
      exact absurd hlong
        (not_isOverlong_of_le (h.length_le_of_mem_headsAhead hfault hmem))
  | cons chunk chunks ih =>
      exact (ih (h.decode chunk)).trans (h.refuses_decode chunk)

theorem atRest_new {boundary : Bytes} (hboundary : boundary ≠ []) :
    (new (some boundary)).AtRest := by
  obtain ⟨first, more, rfl⟩ := List.exists_cons_of_ne_nil hboundary
  refine .seeking (.inl rfl) ?_
  rw [Sequence.cut?_eq_none_iff]
  intro hinfix
  have hlength := hinfix.length_le
  simp [new, crlf, dashes] at hlength

/-- A decoder refuses a header block exactly if a chunk ends within it and
beyond the bound. -/
theorem fault_foldl_decode_eq_iff {boundary : Bytes} (hboundary : boundary ≠ [])
    (chunks : List Bytes) :
    (chunks.foldl decode (new (some boundary))).fault = some .headersTooLarge ↔
      ∃ tail ∈ Outline.headsOfBody boundary chunks.flatten,
        Overruns chunks tail := by
  rw [(atRest_new hboundary).fault_foldl_decode_iff]
  obtain ⟨first, more, rfl⟩ := List.exists_cons_of_ne_nil hboundary
  simp [Refuses, new, headsAhead, Outline.headsOfBody]

end Decoder

end HttpEngine.Multipart
