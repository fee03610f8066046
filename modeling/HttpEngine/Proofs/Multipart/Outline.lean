import HttpEngine.Body.Parser

/-!
# The outline of a multipart body

One pass over a whole body finds its parts, the sizes of their header blocks and
how the body ends.  What the body decodes to is read off this outline; the
decoder, which sees the body in chunks, is measured against it.
-/

namespace HttpEngine.Multipart

/-- A part whose content stands in full. -/
structure Part where
  head : PartHead
  content : Bytes
  deriving DecidableEq, Repr

namespace Part

/-- A part without a filename is a field. -/
def field? (part : Part) : Option (String × String) :=
  match part.head.filename with
  | none => some (part.head.name, Utf8.toStringLossy part.content)
  | some _ => none

/-- A part with a filename is a file. -/
def upload? (part : Part) : Option FileUpload :=
  part.head.filename.map fun filename =>
    ⟨part.head.name, some filename, part.head.contentType, part.content.length,
      part.content⟩

end Part

/-- What stands behind the last delimiter that was read. -/
inductive Ending where
  /-- Two hyphens. -/
  | closed
  /-- Neither hyphens nor a line break. -/
  | malformed
  /-- Too little to tell, or a part that does not end. -/
  | truncated
  deriving DecidableEq, Repr

structure Outline where
  parts : List Part
  /-- The size of every header block that begins: with the line breaks that end
  it, or up to the end of the body when nothing ends it. -/
  headSizes : List Nat
  ending : Ending
  deriving DecidableEq, Repr

namespace Outline

def truncated : Outline := ⟨[], [], .truncated⟩

/-! ## Reading a body -/

/-- The header block at the front and what follows it.  A line break right at
the front ends an empty block, else two line breaks in a row end it. -/
def splitHead? (bytes : Bytes) : Option (Bytes × Bytes) :=
  if crlf.isPrefixOf bytes then some ([], bytes.drop 2)
  else Sequence.cut? (crlf ++ crlf) bytes

theorem length_of_splitHead? {bytes block after : Bytes}
    (h : splitHead? bytes = some (block, after)) :
    after.length ≤ bytes.length := by
  unfold splitHead? at h
  split at h
  · obtain ⟨-, rfl⟩ := Prod.mk.inj (Option.some.inj h)
    simp
  · simp [Sequence.eq_of_cut? h]
    omega

/-- The outline of what stands behind a delimiter. -/
def ofRest (marker : Bytes) : Bytes → Outline
  | first :: second :: rest =>
      if [first, second] = dashes then ⟨[], [], .closed⟩
      else if [first, second] = crlf then
        match _hhead : splitHead? rest with
        | none => ⟨[], [rest.length], .truncated⟩
        | some (block, after) =>
            let headSize := rest.length - after.length
            match _hcontent : Sequence.cut? marker after with
            | none => ⟨[], [headSize], .truncated⟩
            | some (content, next) =>
                let outline := ofRest marker next
                ⟨⟨parseHead block, content⟩ :: outline.parts,
                  headSize :: outline.headSizes, outline.ending⟩
      else ⟨[], [], .malformed⟩
  | _ => truncated
termination_by bytes => bytes.length
decreasing_by
  have hafter := length_of_splitHead? _hhead
  have hnext := Decoder.length_of_cut? _hcontent
  simp only [List.length_cons]
  omega

/-- The outline of bytes in which the first delimiter is still to come. -/
def ofPreamble (marker bytes : Bytes) : Outline :=
  match Sequence.cut? marker bytes with
  | none => truncated
  | some (_, rest) => ofRest marker rest

/-- The outline of a body.  The first delimiter is found as if a line break
stood before the body. -/
def ofBody (boundary body : Bytes) : Outline :=
  ofPreamble (crlf ++ dashes ++ boundary) (crlf ++ body)

/-! ## What an outline stands for -/

def fields (outline : Outline) : List (String × String) :=
  outline.parts.filterMap Part.field?

def uploads (outline : Outline) : List FileUpload :=
  outline.parts.filterMap Part.upload?

def body (outline : Outline) : Body :=
  match outline.ending with
  | .closed => .form (.ofEntries outline.fields outline.uploads)
  | .malformed => .malformed "malformed multipart delimiter"
  | .truncated => .malformed "unexpected end of multipart body"

/-- No header block is larger than a decoder accepts. -/
def HeadsFit (outline : Outline) : Prop :=
  ∀ size ∈ outline.headSizes, size ≤ maxHeaderSize

instance (outline : Outline) : Decidable outline.HeadsFit :=
  inferInstanceAs (Decidable (∀ size ∈ outline.headSizes, size ≤ maxHeaderSize))

/-! ## The outline step by step -/

/-- The outline behind a header block, when `written` is already known to begin
the content. -/
def ofContent (marker : Bytes) (head : PartHead) (written bytes : Bytes) :
    Outline :=
  match Sequence.cut? marker bytes with
  | none => truncated
  | some (content, rest) =>
      let outline := ofRest marker rest
      { outline with parts := ⟨head, written ++ content⟩ :: outline.parts }

def addHeadSize (outline : Outline) (size : Nat) : Outline :=
  { outline with headSizes := size :: outline.headSizes }

theorem ofRest_short {marker rest : Bytes} (h : rest.length < 2) :
    ofRest marker rest = truncated := by
  match rest, h with
  | [], _ => simp [ofRest]
  | [_], _ => simp [ofRest]

theorem ofRest_dashes (marker rest : Bytes) :
    ofRest marker (dashes ++ rest) = ⟨[], [], .closed⟩ := by
  simp [dashes, ofRest]

theorem ofRest_other {marker rest : Bytes} {first second : UInt8}
    (hdashes : [first, second] ≠ dashes) (hcrlf : [first, second] ≠ crlf) :
    ofRest marker (first :: second :: rest) = ⟨[], [], .malformed⟩ := by
  rw [ofRest, if_neg hdashes, if_neg hcrlf]

theorem ofRest_crlf (marker rest : Bytes) :
    ofRest marker (crlf ++ rest) =
      match splitHead? rest with
      | none => ⟨[], [rest.length], .truncated⟩
      | some (block, after) =>
          (ofContent marker (parseHead block) [] after).addHeadSize
            (rest.length - after.length) := by
  simp only [crlf, List.cons_append, List.nil_append]
  rw [ofRest, if_neg (by decide), if_pos (show [13, 10] = crlf from rfl)]
  split
  · next hhead => rw [hhead]
  · next hhead =>
      rw [hhead]
      simp only [ofContent]
      split
      · next hcontent => rw [hcontent]; rfl
      · next hcontent => rw [hcontent]; rfl

/-! ## What an outline adds to parts that were found before -/

/-- The form, or the fault, when the outline comes after the given fields and
files. -/
def formAfter (outline : Outline) (fields : List (String × String))
    (files : List FileUpload) :
    Except Fault Form :=
  match outline.ending with
  | .closed =>
      .ok (.ofEntries (fields ++ outline.fields) (files ++ outline.uploads))
  | .malformed => .error .malformedDelimiter
  | .truncated => .error .unexpectedEnd

theorem bodyOfForm_formAfter_nil (outline : Outline) :
    BodyDecoder.bodyOfForm (outline.formAfter [] []) = outline.body := by
  simp only [formAfter, body]
  cases outline.ending <;> rfl

@[simp] theorem formAfter_addHeadSize (outline : Outline) (size : Nat)
    (fields : List (String × String)) (files : List FileUpload) :
    (outline.addHeadSize size).formAfter fields files =
      outline.formAfter fields files := rfl

end Outline

end HttpEngine.Multipart
