import HttpEngine.Body.Multipart

/-!
# Storage that fails

The files of a form are stored while they arrive, and storing may fail.  A step
that meets a failure of the storage ends the form with it; the steps that store
nothing go on as they would.
-/

namespace HttpEngine.Multipart

/-- What storing comes to in each step for a chunk: `none` where it succeeds. -/
abbrev Storage : Type := Nat → Option String

namespace Storage

def sound : Storage := fun _ => none

/-- What is left when a step was made. -/
def later (storage : Storage) : Storage := fun step => storage (step + 1)

end Storage

namespace Decoder

/-- The step opens a file, writes to it or ends it. -/
def stores (decoder : Decoder) : Bool :=
  match decoder.phase with
  | .headers =>
      match cutHead? decoder.buffer with
      | some (block, _) => (parseHead block).filename.isSome
      | none => false
  | .content part =>
      part.head.filename.isSome &&
        ((Sequence.cut? decoder.marker decoder.buffer).isSome ||
          decide (decoder.keep < decoder.buffer.length))
  | _ => false

def stepOn (failure? : Option String) (decoder : Decoder) : Decoder × Bool :=
  match failure? with
  | some cause =>
      if decoder.stores then (decoder.fail (.storage cause), false)
      else decoder.step
  | none => decoder.step

theorem measure_stepOn_lt {failure? : Option String} {decoder : Decoder}
    (h : (decoder.stepOn failure?).2 = true) :
    (decoder.stepOn failure?).1.measure < decoder.measure := by
  unfold stepOn at h ⊢
  split at h
  · split at h
    · contradiction
    · next hplain =>
        rw [if_neg hplain]
        exact measure_step_lt h
  · exact measure_step_lt h

/-- Steps until the buffer has to wait for more. -/
def runOn (storage : Storage) (decoder : Decoder) : Decoder :=
  if _h : (decoder.stepOn (storage 0)).2 = true then
    runOn storage.later (decoder.stepOn (storage 0)).1
  else (decoder.stepOn (storage 0)).1
termination_by decoder.measure
decreasing_by exact measure_stepOn_lt _h

/-- Feeds the next chunk; a decoder that is done or has failed ignores it. -/
def decodeOn (storage : Storage) (decoder : Decoder) (chunk : Bytes) :
    Decoder :=
  if decoder.fault.isSome || decoder.phase == .done then decoder
  else runOn storage { decoder with buffer := decoder.buffer ++ chunk }

theorem runOn_sound (decoder : Decoder) :
    runOn .sound decoder = run decoder := by
  induction decoder using run.induct with
  | case1 decoder hgoes ih =>
      rw [run, dif_pos hgoes, runOn]
      exact (dif_pos hgoes).trans ih
  | case2 decoder hstops =>
      rw [run, dif_neg hstops, runOn]
      exact dif_neg hstops

/-- On storage that does not fail, this is the decoder as it is. -/
theorem decodeOn_sound (decoder : Decoder) (chunk : Bytes) :
    decodeOn .sound decoder chunk = decoder.decode chunk := by
  simp only [decodeOn, decode, runOn_sound]

end Decoder

end HttpEngine.Multipart
