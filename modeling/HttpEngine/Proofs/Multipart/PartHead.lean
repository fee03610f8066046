import HttpEngine.Body.Multipart
import HttpEngine.Proofs.Sequence.Cut
import HttpEngine.Proofs.Text.Blank
import HttpEngine.Proofs.Text.Utf8

/-!
# Header blocks of parts, written and read

A sender names a part in a disposition, with the name and the filename between
quotation marks.  Reading the block takes the disposition apart at every
semicolon, those between the quotation marks included, and so the names come
back exactly when none of them holds a semicolon.
-/

namespace HttpEngine

namespace Multipart

/-! ## Writing a header block -/

/-- A part of a form as a sender has it. -/
structure FormPart where
  name : String
  filename : Option String
  contentType : Option String
  content : Bytes
  deriving DecidableEq, Repr

namespace FormPart

def filenameText (part : FormPart) : String :=
  match part.filename with
  | none => ""
  | some filename => "; filename=\"" ++ filename ++ "\""

def disposition (part : FormPart) : String :=
  "Content-Disposition: form-data; name=\"" ++ part.name ++ "\"" ++
    part.filenameText

def lines (part : FormPart) : List String :=
  part.disposition :: (part.contentType.map ("Content-Type: " ++ ·)).toList

/-- The lines without the line breaks that end the block. -/
def block (part : FormPart) : Bytes :=
  crlf.intercalate (part.lines.map Utf8.ofString)

/-- What the part says about itself. -/
def head (part : FormPart) : PartHead :=
  ⟨part.name, part.filename, part.contentType⟩

end FormPart

/-! ## Reading a disposition -/

theorem unquote_quoted (value : List Char) :
    unquote ('"' :: (value ++ ['"'])) = value := by
  simp [unquote]

/-- A parameter with its value between quotation marks. -/
theorem readDispositionParameter_quoted {key : List Char} (h : '=' ∉ key)
    (head : PartHead) (value : List Char) :
    readDispositionParameter head (key ++ '=' :: '"' :: (value ++ ['"'])) =
      if Text.lower (Text.trim key) = "name".toList then
        { head with name := String.ofList value }
      else if Text.lower (Text.trim key) = "filename".toList then
        { head with filename := some (String.ofList value) }
      else head := by
  rw [readDispositionParameter, Sequence.cutAt?_append_cons h]
  simp only [Text.trim_between (show Text.isBlank '"' = false by decide)
    (show Text.isBlank '"' = false by decide), unquote_quoted]

theorem readDispositionParameter_name (head : PartHead) (name : String) :
    readDispositionParameter head (" name".toList ++ '=' :: '"' ::
      (name.toList ++ ['"'])) = { head with name := name } := by
  rw [readDispositionParameter_quoted (by decide), if_pos (by decide),
    String.ofList_toList]

theorem readDispositionParameter_filename (head : PartHead)
    (filename : String) :
    readDispositionParameter head
        (" filename".toList ++ '=' :: '"' :: (filename.toList ++ ['"'])) =
      { head with filename := some filename } := by
  rw [readDispositionParameter_quoted (by decide), if_neg (by decide),
    if_pos (by decide), String.ofList_toList]

/-- The parameters of a disposition, without the semicolon before each
of them. -/
def FormPart.parameters (part : FormPart) : List (List Char) :=
  (" name".toList ++ '=' :: '"' :: (part.name.toList ++ ['"'])) ::
    (part.filename.map fun filename =>
      " filename".toList ++ '=' :: '"' :: (filename.toList ++ ['"'])).toList

theorem foldl_parameters (part : FormPart) :
    part.parameters.foldl readDispositionParameter ⟨"", none, none⟩ =
      ⟨part.name, part.filename, none⟩ := by
  rw [FormPart.parameters, List.foldl_cons, readDispositionParameter_name]
  cases part.filename with
  | none => rfl
  | some filename => exact readDispositionParameter_filename _ filename

/-- Neither the name nor the filename holds a semicolon. -/
def PartHead.IsPlain (head : PartHead) : Prop :=
  ';' ∉ head.name.toList ∧ ∀ filename, head.filename = some filename →
  ';' ∉ filename.toList

theorem filenameText_toList (part : FormPart) :
    part.filenameText.toList =
      (part.filename.map fun filename =>
        ';' :: (" filename".toList ++ '=' :: '"' ::
          (filename.toList ++ ['"']))).getD [] := by
  have hopening :
      "; filename=\"".toList = ';' :: (" filename".toList ++ ['=', '"']) := by
    decide
  have hquote : "\"".toList = ['"'] := by decide
  rw [FormPart.filenameText]
  cases part.filename with
  | none => rfl
  | some filename =>
      dsimp only
      rw [String.toList_append, String.toList_append, hopening, hquote,
        Option.map_some, Option.getD_some]
      -- The keys are not to be computed.
      generalize " filename".toList = key
      simp

/-- The disposition as what its reading cuts: a key, and pieces between
semicolons. -/
theorem disposition_toList (part : FormPart) :
    part.disposition.toList =
      "Content-Disposition".toList ++ ':' ::
        [';'].intercalate (" form-data".toList :: part.parameters) := by
  have hopening : "Content-Disposition: form-data; name=\"".toList =
      "Content-Disposition".toList ++ ':' :: (" form-data".toList ++ ';' ::
        (" name".toList ++ ['=', '"'])) := by decide +kernel
  have hquote : "\"".toList = ['"'] := by decide
  unfold FormPart.parameters
  -- The texts are not to be computed.
  generalize "Content-Disposition".toList = field at *
  generalize " form-data".toList = kind at *
  generalize " name".toList = key at *
  unfold FormPart.disposition
  rewrite [String.toList_append, String.toList_append, String.toList_append,
    filenameText_toList, hopening, hquote]
  generalize " filename".toList = filenameKey
  cases part.filename with
  | none => simp
  | some filename => simp

theorem not_mem_of_mem_parameters {part : FormPart} (hplain : part.head.IsPlain)
    {parameter : List Char} (h : parameter ∈ part.parameters) :
    ';' ∉ parameter := by
  have hquoted : ∀ key text : List Char, ';' ∉ key → ';' ∉ text →
      ';' ∉ key ++ '=' :: '"' :: (text ++ ['"']) := by
    intro key text hkey htext
    simp [hkey, htext]
  rcases List.mem_cons.1 h with rfl | hfilename
  · exact hquoted _ _ (by decide) hplain.1
  · obtain ⟨filename, hsome, rfl⟩ :=
      Option.map_eq_some_iff.1 (Option.mem_toList.1 hfilename)
    exact hquoted _ _ (by decide) (hplain.2 filename hsome)

theorem readHeaderLine_disposition {part : FormPart}
    (hplain : part.head.IsPlain) :
    readHeaderLine ⟨"", none, none⟩ part.disposition.toList =
      ⟨part.name, part.filename, none⟩ := by
  have hpieces : ∀ piece ∈ " form-data".toList :: part.parameters,
      ';' ∉ piece := by
    intro piece hpiece
    rcases List.mem_cons.1 hpiece with rfl | hparameter
    · decide
    · exact not_mem_of_mem_parameters hplain hparameter
  rw [disposition_toList, readHeaderLine,
    Sequence.cutAt?_append_cons (by decide)]
  dsimp only
  rw [if_pos (by decide), List.splitOn_intercalate ';' hpieces (by simp),
    List.drop_one, List.tail_cons, foldl_parameters]

theorem readHeaderLine_contentType {type : String}
    (h : Text.trim type.toList = type.toList) (head : PartHead) :
    readHeaderLine head ("Content-Type: " ++ type).toList =
      { head with contentType := some type } := by
  have hline : ("Content-Type: " ++ type).toList =
      "Content-Type".toList ++ ':' :: ' ' :: type.toList := by
    rw [String.toList_append, show "Content-Type: ".toList =
      "Content-Type".toList ++ [':', ' '] by
      decide, List.append_assoc]
    rfl
  rw [hline, readHeaderLine, Sequence.cutAt?_append_cons (by decide)]
  dsimp only
  rw [if_neg (by decide), if_pos (by decide),
    Text.trim_cons_of_isBlank (by decide), h, String.ofList_toList]

/-! ## Reading a header block -/

theorem decodeLossy_block (part : FormPart) :
    Utf8.decodeLossy part.block =
      ['\r', '\n'].intercalate (part.lines.map String.toList) := by
  have hlines : part.lines.map Utf8.ofString =
      (part.lines.map String.toList).map Utf8.encode := by
    rw [List.map_map]
    rfl
  rw [FormPart.block, hlines, show crlf = Utf8.encode ['\r', '\n'] from rfl,
    ← Utf8.encode_intercalate, Utf8.decodeLossy_encode]

/-- A block reads back as what the part says about itself. -/
theorem parseHead_block {part : FormPart} (hplain : part.head.IsPlain)
    (hlines : ∀ line ∈ part.lines, '\r' ∉ line.toList)
    (htype : ∀ type, part.contentType = some type →
      Text.trim type.toList = type.toList) :
    parseHead part.block = part.head := by
  have hpieces : ∀ piece ∈ part.lines.map String.toList, '\r' ∉ piece := by
    intro piece hpiece
    obtain ⟨line, hline, rfl⟩ := List.mem_map.1 hpiece
    exact hlines line hline
  have hnonempty : part.lines.map String.toList ≠ [] := by simp [FormPart.lines]
  rw [parseHead, decodeLossy_block,
    Sequence.splitRuns_intercalate hpieces hnonempty,
    FormPart.lines, List.map_cons, List.foldl_cons,
    readHeaderLine_disposition hplain]
  cases hsome : part.contentType with
  | none => simp [FormPart.head, hsome]
  | some type =>
      have hread :=
        readHeaderLine_contentType (htype type hsome) ⟨part.name,
          part.filename, none⟩
      simp only [Option.map_some, Option.toList_some, List.map_cons,
        List.map_nil, List.foldl_cons,
        List.foldl_nil, hread, FormPart.head, hsome]

/-! ## Names that come out of a header block -/

theorem mem_of_mem_unquote {character : Char} {value : List Char}
    (h : character ∈ unquote value) : character ∈ value := by
  unfold unquote at h
  split at h
  · next rest =>
      split at h
      · next inner hreverse =>
          rw [List.mem_reverse] at h
          refine List.mem_cons_of_mem _ (List.mem_reverse.1 ?_)
          rw [hreverse]
          exact List.mem_cons_of_mem _ h
      · exact h
  · exact h

theorem readDispositionParameter_isPlain {head : PartHead} (h : head.IsPlain)
    {parameter : List Char} (hparameter : ';' ∉ parameter) :
    (readDispositionParameter head parameter).IsPlain := by
  unfold readDispositionParameter
  split
  · exact h
  · next key value hcut =>
      have hvalue :
          ';' ∉ (String.ofList (unquote (Text.trim value))).toList := by
        rw [String.toList_ofList]
        intro hmem
        apply hparameter
        rw [Sequence.eq_of_cutAt? hcut]
        exact List.mem_append_right _
          (List.mem_cons_of_mem _
            (Text.mem_of_mem_trim (mem_of_mem_unquote hmem)))
      dsimp only
      split
      · exact ⟨hvalue, h.2⟩
      · split
        · refine ⟨h.1, ?_⟩
          rintro filename hfilename
          obtain rfl := Option.some.inj hfilename
          exact hvalue
        · exact h

theorem readHeaderLine_isPlain {head : PartHead} (h : head.IsPlain)
    (line : List Char) :
    (readHeaderLine head line).IsPlain := by
  unfold readHeaderLine
  split
  · exact h
  · next key value _ =>
      dsimp only
      split
      · refine List.foldlRecOn _ _ h ?_
        intro read hread parameter hparameter
        exact readDispositionParameter_isPlain hread
          (Sequence.not_mem_of_mem_splitOn (List.mem_of_mem_drop hparameter))
      · split
        · exact h
        · exact h

/-- Whatever a header block says, no semicolon gets into a name. -/
theorem parseHead_isPlain (block : Bytes) : (parseHead block).IsPlain := by
  refine List.foldlRecOn _ _ ⟨by decide, by simp⟩ ?_
  intro head hhead line _
  exact readHeaderLine_isPlain hhead line

end Multipart

end HttpEngine
