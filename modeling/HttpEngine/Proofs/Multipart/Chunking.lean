import HttpEngine.Proofs.Multipart.HeadBound

/-!
# Multipart bodies in chunks

A decoder that has read a part of a body stands for an outline of what is still
to come.  A step of the decoder keeps what this outline and the parts found so
far add up to, and so the decoder gives the outline of the whole body, however
the body is cut into chunks.
-/

namespace HttpEngine.Multipart

namespace Decoder

/-! ## What a decoder stands for -/

/-- The outline of what is still to come, when `rest` follows what the buffer
holds. -/
def ahead (decoder : Decoder) (rest : Bytes) : Outline :=
  match decoder.phase with
  | .preamble => .ofPreamble decoder.marker (decoder.buffer ++ rest)
  | .delimiter => .ofRest decoder.marker (decoder.buffer ++ rest)
  | .headers => .ofRest decoder.marker (crlf ++ (decoder.buffer ++ rest))
  | .content part =>
      .ofContent decoder.marker part.head part.content.toList
        (decoder.buffer ++ rest)
  | .done => ⟨[], [], .closed⟩

/-- What the decoder comes to when `rest` follows. -/
def verdict (decoder : Decoder) (rest : Bytes) : Except Fault Form :=
  match decoder.fault with
  | some fault => .error fault
  | none => (decoder.ahead rest).formAfter decoder.fields decoder.files

/-- The decoder comes to `goal` when `rest` follows, unless a header block is
refused. -/
structure Tracks (decoder : Decoder) (rest : Bytes) (goal : Except Fault Form) :
    Prop where
  verdict_eq : decoder.verdict rest = goal
  /-- The size of an open part is that of its content. -/
  sized : ∀ part, decoder.phase = .content part → part.size = part.content.size

theorem verdict_of_fault_eq_none {decoder : Decoder} (h : decoder.fault = none)
    (rest : Bytes) :
    decoder.verdict rest =
      (decoder.ahead rest).formAfter decoder.fields decoder.files := by
  simp [verdict, h]

/-! ## Steps -/

variable {decoder : Decoder} {rest : Bytes} {goal : Except Fault Form}

/-- A change that leaves the parts found so far and what is ahead as
they are. -/
theorem Tracks.of_ahead_eq (h : decoder.Tracks rest goal)
    (hfault : decoder.fault = none) {next : Decoder} {more : Bytes}
    (hnext : next.fault = none) (hfields : next.fields = decoder.fields)
    (hfiles : next.files = decoder.files)
    (hahead : next.ahead more = decoder.ahead rest)
    (hsized : ∀ part, next.phase = .content part →
      part.size = part.content.size) :
    next.Tracks more goal where
  verdict_eq := by
    rw [← h.verdict_eq, verdict_of_fault_eq_none hnext,
      verdict_of_fault_eq_none hfault, hfields, hfiles, hahead]
  sized := hsized

theorem tracks_skipPreamble (h : decoder.Tracks rest goal)
    (hfault : decoder.fault = none) (hphase : decoder.phase = .preamble) :
    decoder.skipPreamble.1.Tracks rest goal := by
  unfold skipPreamble
  split
  · next before after hcut =>
      refine h.of_ahead_eq hfault hfault rfl rfl ?_ (by simp)
      simp only [ahead, hphase, Outline.ofPreamble,
        Sequence.cut?_append_of_eq_some hcut rest]
  · next hcut =>
      refine h.of_ahead_eq hfault hfault rfl rfl ?_ (by simp [hphase])
      simp only [ahead, hphase, Outline.ofPreamble, keep]
      rw [Sequence.cut?_append_splitLast hcut rest]
      cases Sequence.cut? decoder.marker
        ((Sequence.splitLast (decoder.marker.length - 1) decoder.buffer).2 ++
          rest) <;> rfl

theorem tracks_passDelimiter (h : decoder.Tracks rest goal)
    (hfault : decoder.fault = none) (hphase : decoder.phase = .delimiter) :
    decoder.passDelimiter.1.Tracks rest goal := by
  have hverdict := h.verdict_eq
  rw [verdict_of_fault_eq_none hfault] at hverdict
  unfold passDelimiter
  split
  · next first second after hbuffer =>
      split
      · next hdashes =>
          refine h.of_ahead_eq hfault hfault rfl rfl ?_ (by simp)
          simp only [ahead, hphase, hbuffer]
          have hrest := Outline.ofRest_dashes decoder.marker (after ++ rest)
          rw [← hdashes] at hrest
          exact hrest.symm
      · next hdashes =>
          split
          · next hcrlf =>
              refine h.of_ahead_eq hfault hfault rfl rfl ?_ (by simp)
              simp only [ahead, hphase, hbuffer, ← hcrlf]
              rfl
          · next hcrlf =>
              -- The fault is settled whatever follows.
              have hahead : decoder.ahead rest = ⟨[], [], .malformed⟩ := by
                simp only [ahead, hphase, hbuffer]
                exact Outline.ofRest_other hdashes hcrlf
              rw [hahead] at hverdict
              exact ⟨hverdict, by simp [fail]⟩
  · exact h

theorem tracks_readHeaders (h : decoder.Tracks rest goal)
    (hfault : decoder.fault = none) (hphase : decoder.phase = .headers)
    (hkept : decoder.readHeaders.1.fault ≠ some .headersTooLarge) :
    decoder.readHeaders.1.Tracks rest goal := by
  have hverdict := h.verdict_eq
  rw [verdict_of_fault_eq_none hfault] at hverdict
  have hahead := Outline.ofRest_crlf decoder.marker (decoder.buffer ++ rest)
  rw [show Outline.ofRest decoder.marker (crlf ++ (decoder.buffer ++ rest)) =
    decoder.ahead rest by simp only [ahead, hphase]] at hahead
  unfold readHeaders at hkept ⊢
  split at hkept
  · next block after hhead =>
      rw [cutHead?_eq_splitHead?] at hhead
      rw [splitHead?_append_of_eq_some hhead] at hahead
      rw [hahead] at hverdict
      simp only [Outline.formAfter_addHeadSize] at hverdict
      refine ⟨?_, ?_⟩
      · rw [verdict_of_fault_eq_none]
        · exact hverdict
        · exact hfault
      · rintro part hpart
        obtain rfl := Phase.content.inj hpart
        rfl
  · split at hkept
    · exact absurd rfl hkept
    · next hsize =>
        rw [if_neg hsize]
        exact h

/-- Completing a part moves it from what is ahead to what was found. -/
theorem formAfter_complete (decoder : Decoder) (part : OpenPart)
    (hsized : part.size = part.content.size) (outline : Outline) :
    outline.formAfter (decoder.complete part).fields
      (decoder.complete part).files =
      Outline.formAfter
        { outline with
          parts := ⟨part.head, part.content.toList⟩ :: outline.parts }
        decoder.fields decoder.files := by
  unfold complete Outline.formAfter
  cases hfilename : part.head.filename <;>
    cases outline.ending <;>
      simp [Outline.fields, Outline.uploads, Part.field?, Part.upload?,
        hfilename, hsized]

theorem write_toList (part : OpenPart) (bytes : Bytes) :
    (part.write bytes).content.toList = part.content.toList ++ bytes := by
  simp [OpenPart.write]

theorem write_sized {part : OpenPart} (h : part.size = part.content.size)
    (bytes : Bytes) :
    (part.write bytes).size = (part.write bytes).content.size := by
  rw [← Array.length_toList, write_toList]
  simp [OpenPart.write, h]

theorem tracks_readContent (h : decoder.Tracks rest goal)
    (hfault : decoder.fault = none) {part : OpenPart}
    (hphase : decoder.phase = .content part) :
    (decoder.readContent part).1.Tracks rest goal := by
  have hsized := h.sized part hphase
  unfold readContent
  split
  · next before after hcut =>
      have hahead : decoder.ahead rest =
          { Outline.ofRest decoder.marker (after ++ rest) with
            parts := ⟨part.head, (part.write before).content.toList⟩ ::
              (Outline.ofRest decoder.marker (after ++ rest)).parts } := by
        simp only [ahead, hphase, Outline.ofContent,
          Sequence.cut?_append_of_eq_some hcut rest, write_toList]
      have hverdict := h.verdict_eq
      rw [verdict_of_fault_eq_none hfault, hahead] at hverdict
      refine ⟨?_, by simp⟩
      rw [verdict_of_fault_eq_none (by simpa [complete_fault] using hfault)]
      simp only [ahead, complete_marker]
      rw [formAfter_complete decoder _ (write_sized hsized before)]
      exact hverdict
  · next hcut =>
      refine h.of_ahead_eq hfault hfault rfl rfl ?_ ?_
      · simp only [ahead, hphase, Outline.ofContent, keep, write_toList]
        rw [Sequence.cut?_append_splitLast hcut rest]
        cases Sequence.cut? decoder.marker
          ((Sequence.splitLast (decoder.marker.length - 1) decoder.buffer).2 ++
            rest) <;>
          simp [OpenPart.write]
      · rintro _ hpart
        obtain rfl := Phase.content.inj hpart
        exact write_sized hsized _

theorem tracks_step (h : decoder.Tracks rest goal)
    (hfault : decoder.fault = none)
    (hkept : decoder.step.1.fault ≠ some .headersTooLarge) :
    decoder.step.1.Tracks rest goal := by
  unfold step at hkept ⊢
  split
  · next hphase => exact tracks_skipPreamble h hfault hphase
  · next hphase => exact tracks_passDelimiter h hfault hphase
  · next hphase =>
      simp only [hphase] at hkept
      exact tracks_readHeaders h hfault hphase hkept
  · next part hphase => exact tracks_readContent h hfault hphase
  · next hphase =>
      exact h.of_ahead_eq hfault hfault rfl rfl (by simp [ahead, hphase])
        (by simp [hphase])

/-- Without more input the body would be cut short, unless it is over. -/
theorem AtRest.ending_ahead (h : decoder.AtRest) (hfault : decoder.fault = none)
    (hopen : decoder.phase ≠ .done) :
    (decoder.ahead []).ending = .truncated := by
  cases h with
  | failed hfailed => exact absurd hfault hfailed
  | ended hphase => exact absurd hphase hopen
  | seeking hphase hcut =>
      rcases hphase with hphase | ⟨part, hphase⟩ <;>
        simp [ahead, hphase, Outline.ofPreamble, Outline.ofContent, hcut,
          Outline.truncated]
  | undecided hphase hshort =>
      simp only [ahead, hphase, List.append_nil]
      rw [Outline.ofRest_short hshort]
      rfl
  | reading hphase hhead hsize =>
      have hahead := Outline.ofRest_crlf decoder.marker decoder.buffer
      rw [hhead] at hahead
      simp [ahead, hphase, hahead]

/-! ## Whole runs -/

theorem tracks_run (h : decoder.Tracks rest goal)
    (hfault : decoder.fault = none)
    (hkept : (run decoder).fault ≠ some .headersTooLarge) :
    (run decoder).Tracks rest goal := by
  induction decoder using run.induct with
  | case1 decoder hgoes ih =>
      have hnext := (step_fault hgoes).trans hfault
      rw [run, dif_pos hgoes] at hkept ⊢
      exact ih (tracks_step h hfault (by simp [hnext])) hnext hkept
  | case2 decoder hstops =>
      rw [run, dif_neg hstops] at hkept ⊢
      exact tracks_step h hfault hkept

/-- Feeding a chunk takes it from what is still to come. -/
theorem tracks_decode {chunk : Bytes} (h : decoder.Tracks (chunk ++ rest) goal)
    (hkept : (decoder.decode chunk).fault ≠ some .headersTooLarge) :
    (decoder.decode chunk).Tracks rest goal := by
  unfold decode at hkept ⊢
  split
  · next hover =>
      by_cases hfault : decoder.fault = none
      · have hphase : decoder.phase = .done := by simpa [hfault] using hover
        exact h.of_ahead_eq hfault hfault rfl rfl
          (by simp [ahead, hphase]) h.sized
      · obtain ⟨fault, hsome⟩ := Option.ne_none_iff_exists'.1 hfault
        have hverdict := h.verdict_eq
        simp only [verdict, hsome] at hverdict
        exact ⟨by simpa only [verdict, hsome] using hverdict, h.sized⟩
  · next hopen =>
      rw [if_neg hopen] at hkept
      simp only [Bool.or_eq_true, not_or, Option.not_isSome_iff_eq_none]
        at hopen
      have hfed :
          ({ decoder with buffer := decoder.buffer ++ chunk } : Decoder).Tracks
            rest goal :=
        h.of_ahead_eq hopen.1 hopen.1 rfl rfl (by simp [ahead]) h.sized
      exact tracks_run hfed hopen.1 hkept

/-- A decoder that has failed stays so. -/
theorem fault_foldl_decode {fault : Fault} (h : decoder.fault = some fault)
    (chunks : List Bytes) :
    (chunks.foldl decode decoder).fault = some fault := by
  induction chunks with
  | nil => exact h
  | cons chunk chunks ih =>
      have hignored : decoder.decode chunk = decoder := by simp [decode, h]
      rw [List.foldl_cons, hignored]
      exact ih

theorem tracks_foldl_decode {chunks : List Bytes}
    (h : decoder.Tracks chunks.flatten goal) (hrest : decoder.AtRest)
    (hkept : (chunks.foldl decode decoder).fault ≠ some .headersTooLarge) :
    (chunks.foldl decode decoder).Tracks [] goal ∧
      (chunks.foldl decode decoder).AtRest := by
  induction chunks generalizing decoder with
  | nil => exact ⟨h, hrest⟩
  | cons chunk chunks ih =>
      rw [List.flatten_cons] at h
      have hnext := tracks_decode h fun hrefused =>
        hkept (fault_foldl_decode hrefused chunks)
      exact ih hnext (hrest.decode chunk) hkept

theorem finish_of_tracks (h : decoder.Tracks [] goal) (hrest : decoder.AtRest) :
    decoder.finish.1 = goal := by
  rw [← h.verdict_eq]
  cases hfault : decoder.fault with
  | some fault => simp [finish, verdict, hfault]
  | none =>
      by_cases hphase : decoder.phase = .done
      · simp [finish, verdict, hfault, hphase, ahead, Outline.formAfter,
          Outline.fields, Outline.uploads]
      · simp [finish, verdict, hfault, hphase, Outline.formAfter,
          hrest.ending_ahead hfault hphase]

/-! ## The decoder and the outline -/

theorem tracks_new {boundary : Bytes} (hboundary : boundary ≠ [])
    (body : Bytes) :
    (new (some boundary)).Tracks body
      ((Outline.ofBody boundary body).formAfter [] []) := by
  obtain ⟨first, more, rfl⟩ := List.exists_cons_of_ne_nil hboundary
  exact ⟨rfl, by simp [new]⟩

/-- Where no chunk ends within a header block and beyond the bound, the decoder
gives what the outline of the whole body says. -/
theorem finish_foldl_decode_of_not_overruns {boundary : Bytes}
    (hboundary : boundary ≠ []) {chunks : List Bytes}
    (hkept : ∀ tail ∈ Outline.headsOfBody boundary chunks.flatten,
      ¬ Overruns chunks tail) :
    (chunks.foldl decode (new (some boundary))).finish.1 =
      (Outline.ofBody boundary chunks.flatten).formAfter [] [] := by
  have hnever : (chunks.foldl decode (new (some boundary))).fault ≠
      some .headersTooLarge := by
    rw [Ne, fault_foldl_decode_eq_iff hboundary]
    rintro ⟨tail, hmem, hoverruns⟩
    exact hkept tail hmem hoverruns
  obtain ⟨htracks, hrest⟩ :=
    tracks_foldl_decode (tracks_new hboundary chunks.flatten)
      (atRest_new hboundary) hnever
  exact finish_of_tracks htracks hrest

theorem finish_foldl_decode {boundary : Bytes} (hboundary : boundary ≠ [])
    (chunks : List Bytes)
    (hfits : (Outline.ofBody boundary chunks.flatten).HeadsFit) :
    (chunks.foldl decode (new (some boundary))).finish.1 =
      (Outline.ofBody boundary chunks.flatten).formAfter [] [] :=
  finish_foldl_decode_of_not_overruns hboundary fun _ hmem =>
    hfits.not_overruns hmem chunks

end Decoder

theorem foldl_decode_multipart (decoder : Decoder) (chunks : List Bytes) :
    chunks.foldl BodyDecoder.decode (.multipart decoder) =
      .multipart (chunks.foldl Decoder.decode decoder) := by
  induction chunks generalizing decoder with
  | nil => rfl
  | cons chunk chunks ih => exact ih (decoder.decode chunk)

/-- However a body is cut into chunks, it decodes to what one pass over the
whole body finds. -/
theorem finish_decode_eq_outline_body (boundary : Bytes)
    (hboundary : boundary ≠ []) (body : Bytes)
    (hfits : (Outline.ofBody boundary body).HeadsFit) (chunks : List Bytes)
    (hchunks : chunks.flatten = body) :
    (chunks.foldl BodyDecoder.decode
      (.multipart (.new (some boundary)))).finish.1 =
      (Outline.ofBody boundary body).body := by
  subst hchunks
  rw [foldl_decode_multipart, ← Outline.bodyOfForm_formAfter_nil]
  exact congrArg BodyDecoder.bodyOfForm
    (Decoder.finish_foldl_decode hboundary chunks hfits)

/-- A body cut inside its delimiters and inside the end of a header block. -/
def cutBody : List Bytes :=
  [Utf8.ofString
      "--b\r\nContent-Disposition: form-data; name=\"a\"\r\n\r\nHi\r", [],
    Utf8.ofString "\n-",
    Utf8.ofString
      "-b\r\ncontent-disposition: x; name=\"f\"; filename=\"n\"\r\n\r",
    Utf8.ofString "\n\r\n--c\r\n--b--!"]

theorem finish_decode_cutBody :
    Utf8.ofString "b" ≠ [] ∧
      (Outline.ofBody (Utf8.ofString "b") cutBody.flatten).HeadsFit ∧
      (cutBody.foldl BodyDecoder.decode
          (.multipart (.new (some (Utf8.ofString "b"))))).finish.1 =
        .form ⟨⟨.form, [("a", "Hi")]⟩,
          [⟨"f", some "n", none, 5, [13, 10, 45, 45, 99]⟩]⟩ := by
  have hboundary : Utf8.ofString "b" ≠ [] := by decide +kernel
  have hfits :
      (Outline.ofBody (Utf8.ofString "b") cutBody.flatten).HeadsFit := by
    decide +kernel
  refine ⟨hboundary, hfits, ?_⟩
  rw [finish_decode_eq_outline_body _ hboundary _ hfits cutBody rfl]
  decide +kernel

end HttpEngine.Multipart
