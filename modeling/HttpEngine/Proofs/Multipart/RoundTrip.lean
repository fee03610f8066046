import HttpEngine.Proofs.Multipart.Chunking
import HttpEngine.Proofs.Multipart.PartHead
import Mathlib.Data.List.Basic

/-!
# Forms, written and read

A form that was written part by part decodes to a form again, whatever chunks it
comes in.  The contents come back as they were sent.  The names do so exactly
when no semicolon is in them.
-/

namespace HttpEngine.Multipart

/-! ## Writing a form -/

/-- The text can stand on one line. -/
def IsLine (text : String) : Prop := '\r' ∉ text.toList ∧ '\n' ∉ text.toList

/-- The text can stand between quotation marks. -/
def IsQuotable (text : String) : Prop := '"' ∉ text.toList ∧ IsLine text

/-- What ends a content. -/
def markerOf (boundary : Bytes) : Bytes := crlf ++ dashes ++ boundary

namespace FormPart

/-- The header block with the line breaks that end it. -/
def headBytes (part : FormPart) : Bytes := part.block ++ crlf ++ crlf

def write (boundary : Bytes) (part : FormPart) : Bytes :=
  dashes ++ boundary ++ crlf ++ part.headBytes ++ part.content ++ crlf

/-- What a sender takes care of. -/
structure IsSendable (boundary : Bytes) (part : FormPart) : Prop where
  name_isQuotable : IsQuotable part.name
  filename_isQuotable : ∀ filename, part.filename = some filename →
    IsQuotable filename
  type_isLine : ∀ type, part.contentType = some type → IsLine type
  type_trimmed : ∀ type, part.contentType = some type →
    Text.trim type.toList = type.toList
  head_fits : part.headBytes.length ≤ maxHeaderSize
  /-- The content ends at the first marker behind it. -/
  content_apart :
    Sequence.cut? (markerOf boundary) (part.content ++ markerOf boundary) =
      some (part.content, [])
  field_isText : part.filename = none →
    ∃ text, part.content = Utf8.ofString text

/-- The field that the part is when it has no filename. -/
def field? (part : FormPart) : Option (String × Bytes) :=
  match part.filename with
  | none => some (part.name, part.content)
  | some _ => none

/-- The upload that the part is when it has one. -/
def upload? (part : FormPart) : Option FileUpload :=
  part.filename.map fun filename =>
    ⟨part.name, some filename, part.contentType, part.content.length,
      part.content⟩

end FormPart

def writeForm (boundary : Bytes) (parts : List FormPart) : Bytes :=
  parts.flatMap (FormPart.write boundary) ++ dashes ++ boundary ++ dashes

/-- The form has the fields and the uploads that were sent, each in
their order. -/
def Restores (form : Form) (parts : List FormPart) : Prop :=
  form.fields.entries.map (fun (name, value) => (name, Utf8.ofString value)) =
      parts.filterMap FormPart.field? ∧
    form.files = parts.filterMap FormPart.upload?

/-! ## Finding the header block -/

section

variable {pieces : List Bytes}

private theorem intercalate_eq_cons
    (h : ∀ piece ∈ pieces, piece ≠ [] ∧ 13 ∉ piece) (hpieces : pieces ≠ []) :
    ∃ first rest, crlf.intercalate pieces = first :: rest ∧ first ≠ 13 := by
  cases pieces with
  | nil => exact absurd rfl hpieces
  | cons piece more =>
      obtain ⟨hpiece, hreturn⟩ := h piece List.mem_cons_self
      obtain ⟨first, tail, rfl⟩ := List.exists_cons_of_ne_nil hpiece
      have hfirst : first ≠ 13 := fun heq => hreturn (by simp [heq])
      cases more with
      | nil => exact ⟨first, tail, by simp, hfirst⟩
      | cons second more =>
          exact ⟨first, tail ++ crlf ++ crlf.intercalate (second :: more),
            by simp [List.intercalate_cons_cons], hfirst⟩

theorem cut?_blankLine (h : ∀ piece ∈ pieces, piece ≠ [] ∧ 13 ∉ piece)
    (hpieces : pieces ≠ []) (after : Bytes) :
    Sequence.cut? (crlf ++ crlf)
      (crlf.intercalate pieces ++ (crlf ++ crlf ++ after)) =
      some (crlf.intercalate pieces, after) := by
  induction pieces with
  | nil => exact absurd rfl hpieces
  | cons piece more ih =>
      have hreturn := (h piece List.mem_cons_self).2
      have hneedle : crlf ++ crlf = 13 :: [10, 13, 10] := rfl
      cases more with
      | nil =>
          rw [List.intercalate_singleton, hneedle,
            Sequence.cut?_append_of_not_mem hreturn, Sequence.cut?_self_append]
          simp
      | cons second more =>
          have hmore : ∀ piece ∈ second :: more, piece ≠ [] ∧ 13 ∉ piece :=
            fun other hother => h other (List.mem_cons_of_mem _ hother)
          have hrest := ih hmore (by simp)
          obtain ⟨first, tail, hbegins, hfirst⟩ :=
            intercalate_eq_cons hmore (by simp)
          rw [List.intercalate_cons_cons, List.append_assoc, List.append_assoc]
          generalize crlf.intercalate (second :: more) = block
            at hrest hbegins ⊢
          subst hbegins
          rw [hneedle] at hrest ⊢
          rw [Sequence.cut?_append_of_not_mem hreturn]
          -- Neither byte of the line break begins a blank line.
          have hskip : Sequence.cut? (13 :: [10, 13, 10])
              (crlf ++ (first :: tail ++ (13 :: [10, 13, 10] ++ after))) =
                some (crlf ++ first :: tail, after) := by
            have hline : ¬ 13 :: [10, 13, 10] <+:
                (13 : UInt8) :: 10 ::
                  (first :: tail ++ (13 :: [10, 13, 10] ++ after)) := by
              simp [Ne.symm hfirst]
            have hfeed : ¬ 13 :: [10, 13, 10] <+:
                (10 : UInt8) ::
                  (first :: tail ++ (13 :: [10, 13, 10] ++ after)) := by
              simp
            simp only [crlf, List.cons_append, List.nil_append]
              at hline hfeed hrest ⊢
            rw [Sequence.cut?_cons_of_not_isPrefix hline,
              Sequence.cut?_cons_of_not_isPrefix hfeed, hrest]
            rfl
          rw [hskip]
          simp

theorem splitHead?_intercalate (h : ∀ piece ∈ pieces, piece ≠ [] ∧ 13 ∉ piece)
    (hpieces : pieces ≠ []) (after : Bytes) :
    Outline.splitHead? (crlf.intercalate pieces ++ (crlf ++ crlf ++ after)) =
      some (crlf.intercalate pieces, after) := by
  obtain ⟨first, rest, hbegins, hfirst⟩ := intercalate_eq_cons h hpieces
  rw [Outline.splitHead?, if_neg, cut?_blankLine h hpieces]
  rw [hbegins]
  simp [crlf, Ne.symm hfirst]

end

section

variable {boundary : Bytes} {part : FormPart}

theorem isLine_append {first second : String} (hfirst : IsLine first)
    (hsecond : IsLine second) :
    IsLine (first ++ second) := by
  unfold IsLine at *
  rw [String.toList_append, List.mem_append, List.mem_append]
  exact ⟨not_or.2 ⟨hfirst.1, hsecond.1⟩, not_or.2 ⟨hfirst.2, hsecond.2⟩⟩

theorem FormPart.IsSendable.lines_isLine (h : part.IsSendable boundary) :
    ∀ line ∈ part.lines, IsLine line := by
  have hquote : IsLine "\"" := ⟨by decide, by decide⟩
  intro line hline
  rcases List.mem_cons.1 hline with rfl | htype
  · have hfilename : IsLine part.filenameText := by
      unfold FormPart.filenameText
      split
      · exact ⟨by decide, by decide⟩
      · next filename hsome =>
          have hopening : IsLine "; filename=\"" := ⟨by decide, by decide⟩
          exact isLine_append
            (isLine_append hopening (h.filename_isQuotable filename hsome).2)
              hquote
    have hopening : IsLine "Content-Disposition: form-data; name=\"" :=
      ⟨by decide +kernel, by decide +kernel⟩
    exact isLine_append
      (isLine_append (isLine_append hopening h.name_isQuotable.2) hquote)
      hfilename
  · obtain ⟨type, hsome, rfl⟩ :=
      Option.map_eq_some_iff.1 (Option.mem_toList.1 htype)
    have hopening : IsLine "Content-Type: " := ⟨by decide, by decide⟩
    exact isLine_append hopening (h.type_isLine type hsome)

theorem FormPart.toList_ne_nil_of_mem_lines {line : String}
    (h : line ∈ part.lines) :
    line.toList ≠ [] := by
  rcases List.mem_cons.1 h with rfl | htype
  · rw [disposition_toList]
    exact List.append_ne_nil_of_right_ne_nil _ (List.cons_ne_nil _ _)
  · obtain ⟨type, -, rfl⟩ :=
      Option.map_eq_some_iff.1 (Option.mem_toList.1 htype)
    rw [String.toList_append]
    exact List.append_ne_nil_of_left_ne_nil (by decide) _

theorem FormPart.IsSendable.splitHead? (h : part.IsSendable boundary)
    (after : Bytes) :
    Outline.splitHead? (part.headBytes ++ after) =
      some (part.block, after) := by
  have hpieces : ∀ piece ∈ part.lines.map Utf8.ofString, piece ≠ [] ∧
      13 ∉ piece := by
    intro piece hpiece
    obtain ⟨line, hline, rfl⟩ := List.mem_map.1 hpiece
    constructor
    · intro hnil
      exact FormPart.toList_ne_nil_of_mem_lines hline
        (Utf8.encode_eq_nil_iff.1 hnil)
    · intro hreturn
      exact (h.lines_isLine line hline).1
        (Utf8.mem_of_mem_encode hreturn (by decide))
  have hsplit := splitHead?_intercalate hpieces (by simp [FormPart.lines]) after
  simpa only [FormPart.headBytes, FormPart.block, List.append_assoc]
    using hsplit

end

/-! ## The outline of a written form -/

/-- What follows the first marker. -/
def afterMarker (boundary : Bytes) : List FormPart → Bytes
  | [] => dashes
  | part :: parts =>
      crlf ++ (part.headBytes ++
        (part.content ++ markerOf boundary ++ afterMarker boundary parts))

/-- A part as its reader finds it. -/
def FormPart.read (part : FormPart) : Part :=
  ⟨parseHead part.block, part.content⟩

theorem crlf_append_writeForm (boundary : Bytes) (parts : List FormPart) :
    crlf ++ writeForm boundary parts =
      markerOf boundary ++ afterMarker boundary parts := by
  induction parts with
  | nil => simp [writeForm, markerOf, afterMarker]
  | cons part parts ih =>
      have hparts : crlf ++ writeForm boundary (part :: parts) =
          crlf ++
            (dashes ++ boundary ++ crlf ++ part.headBytes ++ part.content) ++
            (crlf ++ writeForm boundary parts) := by
        simp [writeForm, FormPart.write]
      rw [hparts, ih]
      simp [afterMarker, markerOf]

theorem ofRest_afterMarker {boundary : Bytes} {parts : List FormPart}
    (h : ∀ part ∈ parts, part.IsSendable boundary) :
    Outline.ofRest (markerOf boundary) (afterMarker boundary parts) =
      ⟨parts.map FormPart.read, parts.map fun part => part.headBytes.length,
        .closed⟩ := by
  induction parts with
  | nil => exact Outline.ofRest_dashes (markerOf boundary) []
  | cons part parts ih =>
      have hpart := h part List.mem_cons_self
      have hrest :=
        ih fun other hother => h other (List.mem_cons_of_mem _ hother)
      have hcontent := Sequence.cut?_append_of_eq_some hpart.content_apart
        (afterMarker boundary parts)
      rw [afterMarker, Outline.ofRest_crlf, hpart.splitHead?]
      simp only [Outline.ofContent, hcontent, List.nil_append, hrest,
        Outline.addHeadSize]
      simp [FormPart.read]

theorem ofBody_writeForm {boundary : Bytes} {parts : List FormPart}
    (h : ∀ part ∈ parts, part.IsSendable boundary) :
    Outline.ofBody boundary (writeForm boundary parts) =
      ⟨parts.map FormPart.read, parts.map fun part => part.headBytes.length,
        .closed⟩ := by
  have hmarker : crlf ++ dashes ++ boundary = markerOf boundary := rfl
  rw [Outline.ofBody, hmarker, crlf_append_writeForm, Outline.ofPreamble,
    Sequence.cut?_self_append]
  exact ofRest_afterMarker h

/-! ## What comes back -/

theorem FormPart.IsSendable.read_eq {boundary : Bytes} {part : FormPart}
    (h : part.IsSendable boundary) (hplain : part.head.IsPlain) :
    part.read = ⟨part.head, part.content⟩ := by
  rw [FormPart.read,
    parseHead_block hplain (fun line hline => (h.lines_isLine line hline).1)
    h.type_trimmed]

theorem FormPart.IsSendable.field?_read {boundary : Bytes} {part : FormPart}
    (h : part.IsSendable boundary) (hplain : part.head.IsPlain) :
    part.read.field?.map (fun (name, value) => (name, Utf8.ofString value)) =
      part.field? := by
  rw [h.read_eq hplain, Part.field?, FormPart.field?]
  cases hfilename : part.filename with
  | none =>
      obtain ⟨text, htext⟩ := h.field_isText hfilename
      simp [FormPart.head, hfilename, htext]
  | some filename => simp [FormPart.head, hfilename]

theorem FormPart.IsSendable.upload?_read {boundary : Bytes} {part : FormPart}
    (h : part.IsSendable boundary) (hplain : part.head.IsPlain) :
    part.read.upload? = part.upload? := by
  rw [h.read_eq hplain]
  rfl

/-- The form that the parts are read as. -/
def readForm (parts : List FormPart) : Form :=
  .ofEntries ((parts.map FormPart.read).filterMap Part.field?)
    ((parts.map FormPart.read).filterMap Part.upload?)

theorem restores_of_isPlain {boundary : Bytes} {parts : List FormPart}
    (h : ∀ part ∈ parts, part.IsSendable boundary)
    (hplain : ∀ part ∈ parts, part.head.IsPlain) :
    Restores (readForm parts) parts := by
  constructor
  · simp only [readForm, Form.ofEntries, List.filterMap_map, List.map_filterMap]
    apply List.filterMap_congr
    intro part hpart
    exact (h part hpart).field?_read (hplain part hpart)
  · simp only [readForm, Form.ofEntries, List.filterMap_map]
    apply List.filterMap_congr
    intro part hpart
    exact (h part hpart).upload?_read (hplain part hpart)

theorem isPlain_of_mem_fields {parts : List FormPart} {name value : String}
    (h : (name, value) ∈ (readForm parts).fields.entries) :
    ';' ∉ name.toList := by
  obtain ⟨part, hpart, hfield⟩ := List.mem_filterMap.1 h
  obtain ⟨sent, -, rfl⟩ := List.mem_map.1 hpart
  unfold Part.field? at hfield
  split at hfield
  · obtain ⟨rfl, -⟩ := Prod.mk.inj (Option.some.inj hfield)
    exact (parseHead_isPlain sent.block).1
  · simp at hfield

theorem isPlain_of_mem_files {parts : List FormPart} {upload : FileUpload}
    (h : upload ∈ (readForm parts).files) :
    ';' ∉ upload.name.toList ∧
      ∀ filename, upload.filename = some filename → ';' ∉ filename.toList := by
  obtain ⟨part, hpart, hupload⟩ := List.mem_filterMap.1 h
  obtain ⟨sent, -, rfl⟩ := List.mem_map.1 hpart
  obtain ⟨found, hfound, rfl⟩ := Option.map_eq_some_iff.1 hupload
  refine ⟨(parseHead_isPlain sent.block).1, ?_⟩
  rintro filename hfilename
  obtain rfl := Option.some.inj hfilename
  exact (parseHead_isPlain sent.block).2 found hfound

theorem isPlain_of_restores {parts : List FormPart}
    (h : Restores (readForm parts) parts) {part : FormPart}
    (hpart : part ∈ parts) : part.head.IsPlain := by
  obtain ⟨hfields, hfiles⟩ := h
  cases hfilename : part.filename with
  | none =>
      have hfield :
          (part.name, part.content) ∈ parts.filterMap FormPart.field? :=
        List.mem_filterMap.2 ⟨part, hpart, by simp [FormPart.field?, hfilename]⟩
      rw [← hfields] at hfield
      obtain ⟨⟨name, value⟩, hentry, hpair⟩ := List.mem_map.1 hfield
      obtain ⟨rfl, -⟩ := Prod.mk.inj hpair
      refine ⟨isPlain_of_mem_fields hentry, ?_⟩
      simp [FormPart.head, hfilename]
  | some filename =>
      have hupload : part.upload? = some
          ⟨part.name, some filename, part.contentType, part.content.length,
            part.content⟩ := by
        rw [FormPart.upload?, hfilename, Option.map_some]
      have hfile := List.mem_filterMap.2 ⟨part, hpart, hupload⟩
      rw [← hfiles] at hfile
      obtain ⟨hname, hfile⟩ := isPlain_of_mem_files hfile
      refine ⟨hname, ?_⟩
      rintro other hother
      exact hfile other (hfilename.symm.trans hother)

/-! ## The round trip -/

/-- A written form decodes to a form in any chunks, and this form restores what
was sent exactly when no semicolon is in a name or a filename. -/
theorem decode_writeForm (boundary : Bytes) (hboundary : boundary ≠ [])
    (parts : List FormPart) (hparts : ∀ part ∈ parts, part.IsSendable boundary)
    (chunks : List Bytes)
    (hchunks : chunks.flatten = writeForm boundary parts) :
    ∃ form,
      (chunks.foldl BodyDecoder.decode
        (.multipart (.new (some boundary)))).finish.1 = .form form ∧
      (Restores form parts ↔ ∀ part ∈ parts, part.head.IsPlain) := by
  have houtline := ofBody_writeForm hparts
  rw [← hchunks] at houtline
  have hfits : (Outline.ofBody boundary chunks.flatten).HeadsFit := by
    rw [houtline]
    intro size hsize
    obtain ⟨part, hpart, rfl⟩ := List.mem_map.1 hsize
    exact (hparts part hpart).head_fits
  refine ⟨readForm parts, ?_, ?_⟩
  · rw [foldl_decode_multipart, BodyDecoder.finish,
      Decoder.finish_foldl_decode hboundary _ hfits, houtline]
    rfl
  · constructor
    · intro hrestores part hpart
      exact isPlain_of_restores hrestores hpart
    · exact restores_of_isPlain hparts

/-- A field. -/
def sentField : FormPart := ⟨"a", none, none, Utf8.ofString "Hi"⟩

/-- A file whose names and content look like the punctuation of the format. -/
def sentFile : FormPart :=
  ⟨"f=", some "n: 1.txt", some "text/plain; charset=utf-8", [13, 10, 45, 45]⟩

theorem sentField_isSendable : sentField.IsSendable (Utf8.ofString "b") where
  name_isQuotable := ⟨by decide, by decide, by decide⟩
  filename_isQuotable := by simp [sentField]
  type_isLine := by simp [sentField]
  type_trimmed := by simp [sentField]
  head_fits := by decide +kernel
  content_apart := by decide +kernel
  field_isText _ := ⟨"Hi", rfl⟩

theorem sentFile_isSendable : sentFile.IsSendable (Utf8.ofString "b") where
  name_isQuotable := ⟨by decide, by decide, by decide⟩
  filename_isQuotable := by
    intro filename hfilename
    obtain rfl := Option.some.inj hfilename
    exact ⟨by decide, by decide, by decide⟩
  type_isLine := by
    intro type htype
    obtain rfl := Option.some.inj htype
    exact ⟨by decide, by decide⟩
  type_trimmed := by
    intro type htype
    obtain rfl := Option.some.inj htype
    decide +kernel
  head_fits := by decide +kernel
  content_apart := by decide +kernel
  field_isText := by simp [sentFile]

theorem sentFile_isPlain : sentFile.head.IsPlain := by
  refine ⟨by decide, ?_⟩
  intro filename hfilename
  obtain rfl := Option.some.inj hfilename
  decide

theorem decode_writeForm_sent :
    Utf8.ofString "b" ≠ [] ∧
      (∀ part ∈ [sentField, sentFile], part.IsSendable (Utf8.ofString "b")) ∧
      ∃ form,
        ((Sequence.pieces 7
          (writeForm (Utf8.ofString "b") [sentField, sentFile])).foldl
          BodyDecoder.decode
            (.multipart (.new (some (Utf8.ofString "b"))))).finish.1 =
            .form form ∧
        Restores form [sentField, sentFile] := by
  have hboundary : Utf8.ofString "b" ≠ [] := by decide +kernel
  have hparts :
      ∀ part ∈ [sentField, sentFile], part.IsSendable (Utf8.ofString "b") :=
    List.forall_mem_cons.2
      ⟨sentField_isSendable, List.forall_mem_singleton.2 sentFile_isSendable⟩
  have hplain : ∀ part ∈ [sentField, sentFile], part.head.IsPlain :=
    List.forall_mem_cons.2
      ⟨⟨by decide, by simp [FormPart.head, sentField]⟩,
        List.forall_mem_singleton.2 sentFile_isPlain⟩
  have hchunks :
      (Sequence.pieces 7
        (writeForm (Utf8.ofString "b") [sentField, sentFile])).flatten =
      writeForm (Utf8.ofString "b") [sentField, sentFile] := by decide +kernel
  refine ⟨hboundary, hparts, ?_⟩
  obtain ⟨form, hform, hrestores⟩ :=
    decode_writeForm _ hboundary _ hparts _ hchunks
  exact ⟨form, hform, hrestores.2 hplain⟩

/-- A field whose name holds a semicolon. -/
def semicolonPart : FormPart := ⟨"a;b", none, none, Utf8.ofString "x"⟩

theorem semicolonPart_isSendable :
    semicolonPart.IsSendable (Utf8.ofString "b") where
  name_isQuotable := ⟨by decide, by decide, by decide⟩
  filename_isQuotable := by simp [semicolonPart]
  type_isLine := by simp [semicolonPart]
  type_trimmed := by simp [semicolonPart]
  head_fits := by decide +kernel
  content_apart := by decide +kernel
  field_isText _ := ⟨"x", rfl⟩

/-- Its name is cut at the semicolon and keeps the quotation mark before it. -/
theorem decode_semicolonPart :
    semicolonPart.IsSendable (Utf8.ofString "b") ∧
      ([writeForm (Utf8.ofString "b") [semicolonPart]].foldl BodyDecoder.decode
        (.multipart (.new (some (Utf8.ofString "b"))))).finish.1 =
          .form ⟨⟨.form, [("\"a", "x")]⟩, []⟩ ∧
      ¬ Restores ⟨⟨.form, [("\"a", "x")]⟩, []⟩ [semicolonPart] := by
  refine ⟨semicolonPart_isSendable, by decide +kernel, ?_⟩
  rintro ⟨hfields, -⟩
  revert hfields
  decide +kernel

end HttpEngine.Multipart
