import HttpEngine.Body.Form
import HttpEngine.Text.Blank

/-!
# Multipart bodies, read piece by piece

The parts of a multipart body stand between delimiters: a line break, two
hyphens and the boundary.  The decoder is fed the body in chunks of any size.
It skips to the first delimiter, reads the header block of each part and passes
the content on as it arrives, keeping back only as many bytes as could still
begin a delimiter.  Every step that asks to go on takes bytes from the buffer or
settles a phase that was waiting for a delimiter, so feeding a chunk comes to an
end.
-/

namespace HttpEngine.Multipart

/-! ## Faults -/

inductive Fault where
  | missingBoundary
  | malformedDelimiter
  | headersTooLarge
  | unexpectedEnd
  | storage (cause : String)
  deriving DecidableEq, Repr

def Fault.message : Fault → String
  | .missingBoundary => "missing multipart boundary"
  | .malformedDelimiter => "malformed multipart delimiter"
  | .headersTooLarge => "multipart part headers too large"
  | .unexpectedEnd => "unexpected end of multipart body"
  | .storage cause => "failed to store multipart part: " ++ cause

/-- A header block that grows beyond this size is refused. -/
def maxHeaderSize : Nat := 8192

/-! ## Header blocks -/

/-- What the header block of a part says about it. -/
structure PartHead where
  name : String
  filename : Option String
  contentType : Option String
  deriving DecidableEq, Repr

/-- Drops a pair of quotation marks around a value. -/
def unquote (value : List Char) : List Char :=
  match value with
  | '"' :: rest =>
      match rest.reverse with
      | '"' :: inner => inner.reverse
      | _ => value
  | _ => value

/-- One parameter of a disposition; the last name and the last
filename count. -/
def readDispositionParameter (head : PartHead) (parameter : List Char) :
    PartHead :=
  match Sequence.cutAt? '=' parameter with
  | none => head
  | some (key, value) =>
      let key := Text.lower (Text.trim key)
      let value := String.ofList (unquote (Text.trim value))
      if key = "name".toList then { head with name := value }
      else if key = "filename".toList then { head with filename := some value }
      else head

def readHeaderLine (head : PartHead) (line : List Char) : PartHead :=
  match Sequence.cutAt? ':' line with
  | none => head
  | some (key, value) =>
      let key := Text.trim key
      if Text.sameLetters key "content-disposition".toList then
        ((value.splitOn ';').drop 1).foldl readDispositionParameter head
      else if Text.sameLetters key "content-type".toList then
        { head with contentType := some (String.ofList (Text.trim value)) }
      else head

def parseHead (block : Bytes) : PartHead :=
  (Sequence.splitRuns ['\r', '\n'] (Utf8.decodeLossy block)).foldl
    readHeaderLine ⟨"", none, none⟩

/-! ## Parts -/

/-- A part whose content is still arriving. -/
structure OpenPart where
  head : PartHead
  content : Array UInt8
  size : Nat
  deriving DecidableEq, Repr

def OpenPart.start (head : PartHead) : OpenPart := ⟨head, #[], 0⟩

def OpenPart.write (part : OpenPart) (bytes : Bytes) : OpenPart :=
  { part with
    content := part.content ++ bytes, size := part.size + bytes.length }

/-! ## The decoder -/

inductive Phase where
  /-- Skipping what stands before the first delimiter. -/
  | preamble
  /-- After a delimiter: a line break opens a part, two hyphens end the form. -/
  | delimiter
  | headers
  | content (part : OpenPart)
  | done
  deriving DecidableEq, Repr

/-- Phases that wait for a delimiter come before the one after it. -/
def Phase.rank : Phase → Nat
  | .preamble => 1
  | .content _ => 1
  | _ => 0

structure Decoder where
  marker : Bytes
  buffer : Bytes
  phase : Phase
  fields : List (String × String)
  files : List FileUpload
  fault : Option Fault
  deriving DecidableEq, Repr

namespace Decoder

/-- A decoder for the given boundary.  The buffer starts with a line break
because the first delimiter has none before it. -/
def new (boundary : Option Bytes) : Decoder :=
  match boundary with
  | some (first :: rest) =>
      ⟨crlf ++ dashes ++ first :: rest, crlf, .preamble, [], [], none⟩
  | _ => ⟨[], crlf, .preamble, [], [], some .missingBoundary⟩

def fail (decoder : Decoder) (fault : Fault) : Decoder :=
  { decoder with fault := some fault, buffer := [], phase := .done }

/-- Adds a part to the form: a file if it has a filename, else a field. -/
def complete (decoder : Decoder) (part : OpenPart) : Decoder :=
  let content := part.content.toList
  match part.head.filename with
  | none =>
      { decoder with
        fields :=
          decoder.fields ++ [(part.head.name, Utf8.toStringLossy content)] }
  | some filename =>
      { decoder with
        files := decoder.files ++
          [⟨part.head.name, some filename, part.head.contentType, part.size,
            content⟩] }

/-- The header block at the front of the buffer and what follows it. -/
def cutHead? (buffer : Bytes) : Option (Bytes × Bytes) :=
  match Sequence.dropPrefix? crlf buffer with
  | some rest => some ([], rest)
  | none => Sequence.cut? (crlf ++ crlf) buffer

/-- The bytes that could still begin a delimiter are kept back. -/
def keep (decoder : Decoder) : Nat := decoder.marker.length - 1

/-! ## Steps

Each step works on what the buffer holds and says whether to go on. -/

def skipPreamble (decoder : Decoder) : Decoder × Bool :=
  match Sequence.cut? decoder.marker decoder.buffer with
  | some (_, rest) =>
      ({ decoder with buffer := rest, phase := .delimiter }, true)
  | none =>
      ({ decoder with
        buffer := (Sequence.splitLast decoder.keep decoder.buffer).2 }, false)

def passDelimiter (decoder : Decoder) : Decoder × Bool :=
  match decoder.buffer with
  | first :: second :: rest =>
      if [first, second] = dashes then
        ({ decoder with buffer := [], phase := .done }, false)
      else if [first, second] = crlf then
        ({ decoder with buffer := rest, phase := .headers }, true)
      else (decoder.fail .malformedDelimiter, false)
  | _ => (decoder, false)

def readHeaders (decoder : Decoder) : Decoder × Bool :=
  match cutHead? decoder.buffer with
  | some (block, rest) =>
      ({ decoder with
        buffer := rest, phase := .content (.start (parseHead block)) }, true)
  | none =>
      if maxHeaderSize < decoder.buffer.length then
        (decoder.fail .headersTooLarge, false)
      else (decoder, false)

def readContent (decoder : Decoder) (part : OpenPart) : Decoder × Bool :=
  match Sequence.cut? decoder.marker decoder.buffer with
  | some (before, rest) =>
      ({ decoder.complete (part.write before) with
        buffer := rest, phase := .delimiter }, true)
  | none =>
      let (ready, kept) := Sequence.splitLast decoder.keep decoder.buffer
      ({ decoder with buffer := kept, phase := .content (part.write ready) },
        false)

def step (decoder : Decoder) : Decoder × Bool :=
  match decoder.phase with
  | .preamble => decoder.skipPreamble
  | .delimiter => decoder.passDelimiter
  | .headers => decoder.readHeaders
  | .content part => decoder.readContent part
  | .done => ({ decoder with buffer := [] }, false)

/-- What a step that goes on makes smaller. -/
def measure (decoder : Decoder) : Nat :=
  2 * decoder.buffer.length + decoder.phase.rank

theorem length_of_cutHead? {buffer block rest : Bytes}
    (h : cutHead? buffer = some (block, rest)) :
    rest.length + 2 ≤ buffer.length := by
  unfold cutHead? at h
  split at h
  · next hprefix =>
      obtain ⟨-, rfl⟩ := Prod.mk.inj (Option.some.inj h)
      simp [Sequence.dropPrefix?_eq_some_iff.1 hprefix, crlf]
  · simp [Sequence.eq_of_cut? h, crlf]
    omega

theorem length_of_cut? {needle items before after : Bytes}
    (h : Sequence.cut? needle items = some (before, after)) :
    after.length ≤ items.length := by
  simp [Sequence.eq_of_cut? h]
  omega

theorem measure_step_lt {decoder : Decoder} (h : decoder.step.2 = true) :
    decoder.step.1.measure < decoder.measure := by
  unfold step at h ⊢
  split at h
  · next hphase =>
      unfold skipPreamble at h ⊢
      split at h
      · next hcut =>
          have := length_of_cut? hcut
          simp only [measure, hphase, Phase.rank]
          omega
      · simp at h
  · next hphase =>
      unfold passDelimiter at h ⊢
      split at h
      · next hbuffer =>
          split at h
          · simp at h
          · next hclose =>
              split at h
              · next hopen =>
                  simp only [measure, hphase, hbuffer, if_neg hclose,
                    if_pos hopen, Phase.rank, List.length_cons]
                  omega
              · simp at h
      · simp at h
  · next hphase =>
      unfold readHeaders at h ⊢
      split at h
      · next hcut =>
          have := length_of_cutHead? hcut
          simp only [measure, hphase, Phase.rank]
          omega
      · split at h <;> simp at h
  · next hphase =>
      unfold readContent at h ⊢
      split at h
      · next hcut =>
          have := length_of_cut? hcut
          simp only [measure, hphase, Phase.rank]
          omega
      · simp at h
  · simp at h

/-- Steps until the buffer has to wait for more. -/
def run (decoder : Decoder) : Decoder :=
  if _h : decoder.step.2 = true then run decoder.step.1 else decoder.step.1
termination_by decoder.measure
decreasing_by exact measure_step_lt _h

/-- Feeds the next chunk; a decoder that is done or has failed ignores it. -/
def decode (decoder : Decoder) (chunk : Bytes) : Decoder :=
  if decoder.fault.isSome || decoder.phase == .done then decoder
  else run { decoder with buffer := decoder.buffer ++ chunk }

/-- Drops everything kept so far, except for a fault that was found. -/
def release (decoder : Decoder) : Decoder :=
  { decoder with buffer := [], phase := .done, fields := [], files := [] }

/-- The form, or the fault that keeps the body from being one; nothing
is kept. -/
def finish (decoder : Decoder) : Except Fault Form × Decoder :=
  match decoder.fault with
  | some fault => (.error fault, { decoder.release with fault := none })
  | none =>
      if decoder.phase == .done then
        (.ok (.ofEntries decoder.fields decoder.files),
          { decoder with fields := [], files := [] })
      else (.error .unexpectedEnd, decoder.release)

end Decoder

end HttpEngine.Multipart
