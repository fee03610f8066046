import HttpEngine.Body.Storage
import HttpEngine.Proofs.Multipart.HeadBound

/-!
# What a decoder buffers

A step that goes on takes at least two bytes from the buffer, and a step that
does not leaves no more in it than may be the beginning of what the phase waits
for.  Feeding a chunk therefore comes to an end, and between two calls the
buffer is small, whatever the body is and whether or not its files can be
stored.
-/

namespace HttpEngine.Multipart.Decoder

variable {decoder next : Decoder} {storage : Storage} {last : Nat}

/-! ## Steps -/

/-- Chunks are taken. -/
def IsOpen (decoder : Decoder) : Prop :=
  decoder.fault = none ∧ decoder.phase ≠ .done

structure Fits (decoder : Decoder) : Prop where
  seeking :
    decoder.phase = .preamble ∨ (∃ part, decoder.phase = .content part) →
    decoder.buffer.length < decoder.marker.length
  undecided : decoder.phase = .delimiter → decoder.buffer.length ≤ 1
  reading : decoder.phase = .headers → decoder.buffer.length ≤ maxHeaderSize
  closed : decoder.phase = .done ∨ decoder.fault ≠ none → decoder.buffer = []

theorem fits_of_done (hphase : decoder.phase = .done)
    (hbuffer : decoder.buffer = []) :
    decoder.Fits := by
  constructor <;> simp [hphase, hbuffer]

/-- What a step comes to for the buffer. -/
structure Move (decoder : Decoder) (result : Decoder × Bool) : Prop where
  marker_eq : result.1.marker = decoder.marker
  goesOn : result.2 = true →
    result.1.IsOpen ∧ result.1.buffer.length + 2 ≤ decoder.buffer.length
  stops : result.2 = false → result.1.Fits

theorem move_fail (decoder : Decoder) (fault : Fault) :
    Move decoder (decoder.fail fault, false) :=
  ⟨rfl, by simp, fun _ => fits_of_done rfl rfl⟩

theorem length_of_cut?_marker (hmarker : 2 ≤ decoder.marker.length)
    {before rest : Bytes}
    (h : Sequence.cut? decoder.marker decoder.buffer = some (before, rest)) :
    rest.length + 2 ≤ decoder.buffer.length := by
  rw [Sequence.eq_of_cut? h, List.length_append, List.length_append]
  omega

theorem length_splitLast_keep_lt (hmarker : 2 ≤ decoder.marker.length) :
    (Sequence.splitLast decoder.keep decoder.buffer).2.length <
      decoder.marker.length := by
  have hkept := Sequence.length_splitLast_le decoder.keep decoder.buffer
  rw [keep] at hkept ⊢
  omega

theorem move_skipPreamble (hmarker : 2 ≤ decoder.marker.length)
    (hopen : decoder.IsOpen) (hphase : decoder.phase = .preamble) :
    Move decoder decoder.skipPreamble := by
  unfold skipPreamble
  split
  · next hcut =>
      exact ⟨rfl, fun _ =>
        ⟨⟨hopen.1, by simp⟩, length_of_cut?_marker hmarker hcut⟩, by simp⟩
  · refine ⟨rfl, by simp, fun _ => ?_⟩
    constructor
    case seeking => exact fun _ => length_splitLast_keep_lt hmarker
    all_goals simp [hphase, hopen.1]

theorem move_passDelimiter (hopen : decoder.IsOpen)
    (hphase : decoder.phase = .delimiter) :
    Move decoder decoder.passDelimiter := by
  unfold passDelimiter
  split
  · next first second rest hbuffer =>
      split
      · exact ⟨rfl, by simp, fun _ => fits_of_done rfl rfl⟩
      · split
        · refine ⟨rfl, fun _ => ⟨⟨hopen.1, by simp⟩, ?_⟩, by simp⟩
          rw [hbuffer]
          rfl
        · exact move_fail decoder .malformedDelimiter
  · next hshort =>
      refine ⟨rfl, by simp, fun _ => ?_⟩
      constructor
      case undecided =>
        intro _
        rcases hbuffer : decoder.buffer with _ | ⟨first, _ | ⟨second, rest⟩⟩
        · simp
        · simp
        · exact absurd hbuffer (hshort first second rest)
      all_goals simp [hphase, hopen.1]

theorem move_readHeaders (hopen : decoder.IsOpen)
    (hphase : decoder.phase = .headers) :
    Move decoder decoder.readHeaders := by
  unfold readHeaders
  split
  · next hhead =>
      exact ⟨rfl, fun _ => ⟨⟨hopen.1, by simp⟩, length_of_cutHead? hhead⟩,
        by simp⟩
  · split
    · exact move_fail decoder .headersTooLarge
    · next hsize =>
        refine ⟨rfl, by simp, fun _ => ?_⟩
        constructor
        case reading => exact fun _ => Nat.le_of_not_lt hsize
        all_goals simp [hphase, hopen.1]

theorem move_readContent (hmarker : 2 ≤ decoder.marker.length)
    (hopen : decoder.IsOpen) (part : OpenPart) :
    Move decoder (decoder.readContent part) := by
  unfold readContent
  split
  · next before rest hcut =>
      have hfault := (complete_fault decoder (part.write before)).trans hopen.1
      refine ⟨complete_marker decoder _,
        fun _ => ⟨⟨hfault, by simp⟩, ?_⟩, by simp⟩
      exact length_of_cut?_marker hmarker hcut
  · refine ⟨rfl, by simp, fun _ => ?_⟩
    constructor
    case seeking => exact fun _ => length_splitLast_keep_lt hmarker
    all_goals simp [hopen.1]

theorem move_step (hmarker : 2 ≤ decoder.marker.length)
    (hopen : decoder.IsOpen) :
    Move decoder decoder.step := by
  unfold step
  split
  · next hphase => exact move_skipPreamble hmarker hopen hphase
  · next hphase => exact move_passDelimiter hopen hphase
  · next hphase => exact move_readHeaders hopen hphase
  · next part hphase => exact move_readContent hmarker hopen part
  · next hphase => exact absurd hphase hopen.2

theorem move_stepOn (failure? : Option String)
    (hmarker : 2 ≤ decoder.marker.length) (hopen : decoder.IsOpen) :
    Move decoder (decoder.stepOn failure?) := by
  unfold stepOn
  split
  · split
    · exact move_fail decoder _
    · exact move_step hmarker hopen
  · exact move_step hmarker hopen

/-! ## Feeding a chunk -/

/-- The decoder before the step of each number, as if no step were the last. -/
def atStep (storage : Storage) (decoder : Decoder) : Nat → Decoder
  | 0 => decoder
  | step + 1 => ((decoder.atStep storage step).stepOn (storage step)).1

theorem atStep_later (storage : Storage) (decoder : Decoder) (step : Nat) :
    (decoder.stepOn (storage 0)).1.atStep storage.later step =
      decoder.atStep storage (step + 1) := by
  induction step with
  | zero => rfl
  | succ step ih =>
      rw [atStep, ih, atStep.eq_2 storage decoder (step + 1), Storage.later]

/-- All steps before the given one ask to go on. -/
def GoesOnTo (storage : Storage) (decoder : Decoder) (last : Nat) : Prop :=
  ∀ step < last, ((decoder.atStep storage step).stepOn (storage step)).2 = true

/-- The loop over steps is left. -/
theorem exists_last_step (storage : Storage) (decoder : Decoder) :
    ∃ last, decoder.GoesOnTo storage last ∧
      ((decoder.atStep storage last).stepOn (storage last)).2 = false ∧
      runOn storage decoder = decoder.atStep storage (last + 1) := by
  induction storage, decoder using runOn.induct with
  | case1 storage decoder hgoes ih =>
      obtain ⟨last, hbefore, hstops, hend⟩ := ih
      refine ⟨last + 1, ?_, ?_, ?_⟩
      · intro step hstep
        cases step with
        | zero => exact hgoes
        | succ step =>
            rw [← atStep_later]
            exact hbefore step (Nat.lt_of_succ_lt_succ hstep)
      · rw [← atStep_later]
        exact hstops
      · rw [runOn, dif_pos hgoes, hend, atStep_later]
  | case2 storage decoder hstops =>
      refine ⟨0, by simp [GoesOnTo], by simpa [atStep] using hstops, ?_⟩
      rw [runOn, dif_neg hstops, atStep, atStep]

theorem GoesOnTo.isOpen (h : decoder.GoesOnTo storage last)
    (hmarker : 2 ≤ decoder.marker.length) (hopen : decoder.IsOpen) {step : Nat}
    (hstep : step ≤ last) :
    (decoder.atStep storage step).IsOpen ∧
      (decoder.atStep storage step).marker = decoder.marker := by
  induction step with
  | zero => exact ⟨hopen, rfl⟩
  | succ step ih =>
      obtain ⟨hisOpen, hsame⟩ := ih (Nat.le_of_succ_le hstep)
      have hmove := move_stepOn (storage step) (hsame ▸ hmarker) hisOpen
      exact ⟨(hmove.goesOn (h step hstep)).1, hmove.marker_eq.trans hsame⟩

theorem GoesOnTo.shorter (h : decoder.GoesOnTo storage last)
    (hmarker : 2 ≤ decoder.marker.length) (hopen : decoder.IsOpen) {step : Nat}
    (hstep : step < last) :
    (decoder.atStep storage (step + 1)).buffer.length + 2 ≤
      (decoder.atStep storage step).buffer.length := by
  obtain ⟨hisOpen, hsame⟩ := h.isOpen hmarker hopen (Nat.le_of_lt hstep)
  exact ((move_stepOn (storage step) (hsame ▸ hmarker) hisOpen).goesOn
    (h step hstep)).2

theorem GoesOnTo.two_mul_le (h : decoder.GoesOnTo storage last)
    (hmarker : 2 ≤ decoder.marker.length) (hopen : decoder.IsOpen) {step : Nat}
    (hstep : step ≤ last) :
    (decoder.atStep storage step).buffer.length + 2 * step ≤
      decoder.buffer.length := by
  induction step with
  | zero => simp [atStep]
  | succ step ih =>
      have hbefore := ih (Nat.le_of_succ_le hstep)
      have hshorter := h.shorter hmarker hopen hstep
      omega

/-- The steps for what the buffer holds: each asks to go on but the last, which
leaves `next`.  Those that go on take two bytes or more, and none is made
without a delimiter to look for. -/
structure EndsAt (storage : Storage) (decoder : Decoder) (last : Nat)
    (next : Decoder) : Prop where
  goesOn : decoder.GoesOnTo storage last
  stops : ((decoder.atStep storage last).stepOn (storage last)).2 = false
  next_eq : next = decoder.atStep storage (last + 1)
  shorter :
    ∀ step < last, (decoder.atStep storage (step + 1)).buffer.length + 2 ≤
      (decoder.atStep storage step).buffer.length
  few : 2 * last ≤ decoder.buffer.length
  marked : ∀ step ≤ last, (decoder.atStep storage step).marker ≠ []

theorem exists_endsAt (storage : Storage) (hmarker : 2 ≤ decoder.marker.length)
    (hopen : decoder.IsOpen) :
    (∃ last, EndsAt storage decoder last (runOn storage decoder)) ∧
      (runOn storage decoder).marker = decoder.marker ∧
      (runOn storage decoder).Fits := by
  obtain ⟨last, hbefore, hstops, hend⟩ := exists_last_step storage decoder
  obtain ⟨hisOpen, hsame⟩ := hbefore.isOpen hmarker hopen (Nat.le_refl last)
  have hmove := move_stepOn (storage last) (hsame ▸ hmarker) hisOpen
  refine ⟨⟨last, hbefore, hstops, hend, ?_, ?_, ?_⟩, ?_⟩
  · exact fun step hstep => hbefore.shorter hmarker hopen hstep
  · have hbytes := hbefore.two_mul_le hmarker hopen (Nat.le_refl last)
    omega
  · intro step hstep hempty
    rw [← (hbefore.isOpen hmarker hopen hstep).2, hempty] at hmarker
    contradiction
  · rw [hend]
    exact ⟨hmove.marker_eq.trans hsame, hmove.stops hstops⟩

/-- What a chunk comes to. -/
inductive Fed (storage : Storage) (decoder : Decoder) (chunk : Bytes) :
    Decoder → Prop where
  | ignored (hclosed : ¬ decoder.IsOpen) : Fed storage decoder chunk decoder
  | taken {last : Nat} {next : Decoder} (hisOpen : decoder.IsOpen)
      (hends : EndsAt storage { decoder with
        buffer := decoder.buffer ++ chunk } last next) :
      Fed storage decoder chunk next

theorem not_isOpen_iff :
    ¬ decoder.IsOpen ↔
      (decoder.fault.isSome || decoder.phase == .done) = true := by
  rw [IsOpen, not_and, not_not, Bool.or_eq_true, beq_iff_eq,
    Option.isSome_iff_ne_none]
  exact Decidable.imp_iff_not_or

theorem decodeOn_of_not_isOpen (h : ¬ decoder.IsOpen) (storage : Storage)
    (chunk : Bytes) :
    decodeOn storage decoder chunk = decoder := by
  rw [decodeOn, if_pos (not_isOpen_iff.1 h)]

theorem decodeOn_of_isOpen (h : decoder.IsOpen) (storage : Storage)
    (chunk : Bytes) :
    decodeOn storage decoder chunk =
      runOn storage { decoder with buffer := decoder.buffer ++ chunk } := by
  rw [decodeOn, if_neg fun hover => not_isOpen_iff.2 hover h]

/-! ## Calls -/

inductive Call where
  | decode (storage : Storage) (chunk : Bytes)
  | release
  | finish

def perform (decoder : Decoder) : Call → Decoder
  | .decode storage chunk => decodeOn storage decoder chunk
  | .release => decoder.release
  | .finish => decoder.finish.2

def performAll (decoder : Decoder) (calls : List Call) : Decoder :=
  calls.foldl perform decoder

theorem finish_leaves (decoder : Decoder) :
    decoder.finish.2.marker = decoder.marker ∧ decoder.finish.2.phase = .done ∧
      (decoder.finish.2.buffer = [] ∨
        decoder.phase = .done ∧ decoder.finish.2.buffer = decoder.buffer) := by
  rw [finish]
  split
  · exact ⟨rfl, rfl, .inl rfl⟩
  · split
    · next hdone =>
        have hphase : decoder.phase = .done := by simpa using hdone
        exact ⟨rfl, hphase, .inr ⟨hphase, rfl⟩⟩
    · exact ⟨rfl, rfl, .inl rfl⟩

/-- A decoder with something to look for between two calls. -/
structure Keeps (boundary : Bytes) (decoder : Decoder) : Prop where
  marker_eq : decoder.marker = crlf ++ dashes ++ boundary
  fits : decoder.Fits

theorem Keeps.two_le_length {boundary : Bytes} (h : decoder.Keeps boundary) :
    2 ≤ decoder.marker.length := by
  rw [h.marker_eq]
  simp [crlf, dashes]

theorem Keeps.perform {boundary : Bytes} (h : decoder.Keeps boundary)
    (call : Call) :
    (decoder.perform call).Keeps boundary := by
  cases call with
  | decode storage chunk =>
      rw [Decoder.perform]
      by_cases hopen : decoder.IsOpen
      · rw [decodeOn_of_isOpen hopen]
        obtain ⟨-, hsame, hfits⟩ :=
          @exists_endsAt { decoder with
            buffer := decoder.buffer ++ chunk } storage h.two_le_length hopen
        exact ⟨hsame.trans h.marker_eq, hfits⟩
      · rw [decodeOn_of_not_isOpen hopen]
        exact h
  | release => exact ⟨h.marker_eq, fits_of_done rfl rfl⟩
  | finish =>
      obtain ⟨hmarker, hdone, hbuffer⟩ := decoder.finish_leaves
      refine ⟨hmarker.trans h.marker_eq, fits_of_done hdone ?_⟩
      rcases hbuffer with hempty | ⟨hphase, hsame⟩
      · exact hempty
      · exact hsame.trans (h.fits.closed (.inl hphase))

/-- A decoder with nothing to look for. -/
structure Idles (decoder : Decoder) : Prop where
  closed : ¬ decoder.IsOpen
  buffer_eq : decoder.buffer = crlf ∨ decoder.buffer = []

theorem Idles.perform (h : decoder.Idles) (call : Call) :
    (decoder.perform call).Idles := by
  cases call with
  | decode storage chunk =>
      rw [Decoder.perform, decodeOn_of_not_isOpen h.closed]
      exact h
  | release => exact ⟨fun hopen => hopen.2 rfl, .inr rfl⟩
  | finish =>
      obtain ⟨-, hdone, hbuffer⟩ := decoder.finish_leaves
      refine ⟨fun hopen => hopen.2 hdone, ?_⟩
      rcases hbuffer with hempty | ⟨-, hsame⟩
      · exact .inr hempty
      · exact hsame ▸ h.buffer_eq

variable {boundary : Option Bytes} (calls : List Call)

theorem keeps_performAll {name : Bytes} (hname : name ≠ []) :
    (performAll (new (some name)) calls).Keeps name := by
  apply List.foldlRecOn
  · obtain ⟨first, rest, rfl⟩ := List.exists_cons_of_ne_nil hname
    refine ⟨rfl, ?_⟩
    constructor <;> simp [new, crlf, dashes]
  · exact fun decoder hkeeps call _ => hkeeps.perform call

theorem idles_performAll
    (hboundary : ∀ name, boundary = some name → name = []) :
    (performAll (new boundary) calls).Idles := by
  apply List.foldlRecOn
  · have hnew :
        new boundary =
          ⟨[], crlf, .preamble, [], [], some .missingBoundary⟩ := by
      unfold new
      split
      · next first rest =>
          exact absurd (hboundary _ rfl) (List.cons_ne_nil first rest)
      · rfl
    rw [hnew]
    exact ⟨fun hopen => absurd hopen.1 (by simp), .inl rfl⟩
  · exact fun decoder hidles call _ => hidles.perform call

/-- After any calls, feeding a chunk ends, and each of its steps has a delimiter
to look for.  A decoder without a boundary takes no chunk, and any other keeps
the buffer small. -/
theorem bounded_performAll (boundary : Option Bytes) (calls : List Call) :
    let decoder := performAll (new boundary) calls
    (∀ storage chunk,
      Fed storage decoder chunk (decodeOn storage decoder chunk)) ∧
      ((∀ name, boundary = some name → name = []) →
        (decoder.buffer = crlf ∨ decoder.buffer = []) ∧
          ∀ storage chunk, decodeOn storage decoder chunk = decoder) ∧
      (∀ name, boundary = some name → name ≠ [] →
        decoder.marker = crlf ++ dashes ++ name ∧ decoder.Fits) := by
  intro decoder
  have hidles := @idles_performAll boundary calls
  have hkeeps : ∀ name, boundary = some name → name ≠ [] →
      decoder.Keeps name := by
    rintro name rfl hname
    exact keeps_performAll calls hname
  refine ⟨fun storage chunk => ?_, fun hboundary => ?_,
    fun name hsome hname => ?_⟩
  · by_cases hopen : decoder.IsOpen
    · have hsome : ∃ name, boundary = some name ∧ name ≠ [] := by
        by_contra hnone
        simp only [not_exists, not_and, not_not] at hnone
        exact (hidles hnone).closed hopen
      obtain ⟨name, hboundary, hname⟩ := hsome
      have hmarker := (hkeeps name hboundary hname).two_le_length
      obtain ⟨⟨last, hends⟩, -⟩ :=
        @exists_endsAt { decoder with
          buffer := decoder.buffer ++ chunk } storage hmarker hopen
      rw [decodeOn_of_isOpen hopen]
      exact .taken hopen hends
    · rw [decodeOn_of_not_isOpen hopen]
      exact .ignored hopen
  · have hclosed := (hidles hboundary).closed
    exact ⟨(hidles hboundary).buffer_eq, fun storage chunk =>
      decodeOn_of_not_isOpen hclosed storage chunk⟩
  · exact ⟨(hkeeps name hsome hname).marker_eq, (hkeeps name hsome hname).fits⟩

end HttpEngine.Multipart.Decoder
