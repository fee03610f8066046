import HttpEngine.Proofs.Multipart.Enforcement
import HttpEngine.Proofs.Sequence.FirstSeen

/-!
# The keys of a form

The parts of a body are told apart into fields and files as they are read, and
the keys of the form are put together from the two lists again: each name once,
those of the fields before those that only files have.  `keys_iff_inTurn` says
for which bodies this is the order of the body.
-/

namespace HttpEngine

theorem Form.keys_eq_distinct (form : Form) :
    form.keys =
      distinct (form.fields.entries.map (·.1) ++ form.files.map (·.name)) := by
  simp only [keys, Params.keys, distinct, List.foldl_append, List.foldl_map]

namespace Multipart

/-! ## Names of parts -/

namespace Part

def name (part : Part) : String := part.head.name

def IsFile (part : Part) : Prop := part.head.filename ≠ none

/-- The name as that of a field. -/
def fieldName? (part : Part) : Option String := part.field?.map (·.1)

/-- The name as that of a file. -/
def fileName? (part : Part) : Option String := part.upload?.map (·.name)

variable {part : Part} {name : String}

theorem fieldName?_eq_some_iff :
    part.fieldName? = some name ↔ ¬ part.IsFile ∧ part.name = name := by
  unfold fieldName? field? IsFile Part.name
  cases part.head.filename <;> simp

theorem fileName?_eq_some_iff :
    part.fileName? = some name ↔ part.IsFile ∧ part.name = name := by
  unfold fileName? upload? IsFile Part.name
  cases part.head.filename <;> simp

end Part

def fieldNames (parts : List Part) : List String :=
  parts.filterMap Part.fieldName?

def fileNames (parts : List Part) : List String :=
  parts.filterMap Part.fileName?

variable {parts before : List Part} {part : Part}

theorem mem_fieldNames (hmem : part ∈ parts) (hfield : ¬ part.IsFile) :
    part.name ∈ fieldNames parts :=
  List.mem_filterMap.2 ⟨part, hmem, Part.fieldName?_eq_some_iff.2 ⟨hfield, rfl⟩⟩

theorem mem_fileNames (hmem : part ∈ parts) (hfile : part.IsFile) :
    part.name ∈ fileNames parts :=
  List.mem_filterMap.2 ⟨part, hmem, Part.fileName?_eq_some_iff.2 ⟨hfile, rfl⟩⟩

theorem mem_names_iff {name : String} :
    name ∈ fieldNames parts ++ fileNames parts ↔
      name ∈ parts.map Part.name := by
  simp only [fieldNames, fileNames, List.mem_append, List.mem_filterMap,
    List.mem_map, Part.fieldName?_eq_some_iff, Part.fileName?_eq_some_iff]
  constructor
  · rintro (⟨part, hmem, -, hname⟩ | ⟨part, hmem, -, hname⟩)
    · exact ⟨part, hmem, hname⟩
    · exact ⟨part, hmem, hname⟩
  · rintro ⟨part, hmem, hname⟩
    by_cases hfile : part.IsFile
    · exact .inr ⟨part, hmem, hfile, hname⟩
    · exact .inl ⟨part, hmem, hfile, hname⟩

/-! ## Names that change places -/

/-- A field behind a file has a name that came up to there, or one field before
it has the name of the file. -/
def InTurn (parts : List Part) : Prop :=
  ∀ before file between field after,
    parts = before ++ file :: between ++ field :: after →
    file.IsFile → ¬ field.IsFile →
      field.name ∈ (before ++ [file]).map Part.name ∨
      file.name ∈ fieldNames (before ++ between)

/-- The part that a name among the selected ones stands for. -/
theorem exists_part_of_filterMap {select : Part → Option String}
    {earlier later : List String} {name : String}
    (h : parts.filterMap select = earlier ++ name :: later) :
    ∃ before part after, parts = before ++ part :: after ∧
      select part = some name ∧ before.filterMap select = earlier := by
  obtain ⟨front, back, rfl, hfront, hback⟩ := List.filterMap_eq_append_iff.1 h
  obtain ⟨skipped, part, after, rfl, hnone, hselect, -⟩ :=
    List.filterMap_eq_cons_iff.1 hback
  refine ⟨front ++ skipped, part, after, by simp, hselect, ?_⟩
  rw [List.filterMap_append, hfront, List.filterMap_eq_nil_iff.2 hnone,
    List.append_nil]

/-- A part whose name is new behind another part stands behind it. -/
theorem exists_between_parts {after earlier later : List Part} {other : Part}
    (h : before ++ part :: after = earlier ++ other :: later)
    (hnew : other.name ∉ part.name :: before.map Part.name) :
    ∃ between, earlier = before ++ part :: between := by
  apply exists_between h
  intro hmem
  apply hnew
  rcases List.mem_cons.1 hmem with rfl | hmem
  · exact List.mem_cons_self
  · exact List.mem_cons_of_mem _ (List.mem_map_of_mem hmem)

theorem not_inTurn_of_swapped {first second : String}
    (hbody : Precedes (parts.map Part.name) first second)
    (hkeys : Precedes (fieldNames parts ++ fileNames parts) second first) :
    ¬ InTurn parts := by
  intro hturn
  obtain ⟨earlier, later, hnames, hnew⟩ := hbody
  obtain ⟨before, rest, rfl, rfl, hrest⟩ := List.map_eq_append_iff.1 hnames
  obtain ⟨part, after, rfl, rfl, -⟩ := List.map_eq_cons_iff.1 hrest
  obtain ⟨ahead, behind, hlists, hlate⟩ := hkeys
  rw [List.mem_cons, not_or] at hlate
  have hpart : part ∈ before ++ part :: after := by simp
  -- The second name comes to the front as that of a field, or as that of a file
  -- while the first name is still to come.
  rcases append_eq_append_cons hlists with
    ⟨rest, hfields⟩ | ⟨files, rfl, hfiles⟩
  · obtain ⟨front, field, back, hsplit, hselect, hfront⟩ :=
      exists_part_of_filterMap hfields
    obtain ⟨hfield, rfl⟩ := Part.fieldName?_eq_some_iff.1 hselect
    obtain ⟨between, rfl⟩ := exists_between_parts hsplit hnew
    have hfile : part.IsFile := by
      by_contra hplain
      apply hlate.2
      rw [← hfront]
      exact mem_fieldNames (by simp) hplain
    rcases hturn before part between field back hsplit hfile hfield with
      hseen | hseen
    · apply hnew
      simpa [or_comm] using hseen
    · apply hlate.2
      rw [← hfront]
      exact (List.Sublist.filterMap _ (by simp)).subset hseen
  · have hfile : part.IsFile := by
      by_contra hplain
      exact hlate.2 (List.mem_append_left _ (mem_fieldNames hpart hplain))
    obtain ⟨front, other, back, hsplit, hselect, hfront⟩ :=
      exists_part_of_filterMap hfiles
    obtain ⟨-, rfl⟩ := Part.fileName?_eq_some_iff.1 hselect
    obtain ⟨between, rfl⟩ := exists_between_parts hsplit hnew
    apply hlate.2
    rw [← hfront]
    exact List.mem_append_right _ (mem_fileNames (by simp) hfile)

theorem exists_swapped_of_not_inTurn (h : ¬ InTurn parts) :
    ∃ first second, Precedes (parts.map Part.name) first second ∧
      Precedes (fieldNames parts ++ fileNames parts) second first := by
  simp only [InTurn, not_forall, not_or] at h
  obtain ⟨before, file, between, field, after, rfl, hfile, hfield, hnew,
    hlate⟩ := h
  refine ⟨file.name, field.name, ?_, ?_⟩
  · refine ⟨before.map Part.name, (between ++ field :: after).map Part.name,
      by simp, ?_⟩
    simpa [or_comm] using hnew
  · have hnames : fieldNames (before ++ file :: between ++ field :: after) =
        fieldNames (before ++ between) ++ field.name :: fieldNames after := by
      have hskipped : file.fieldName? = none := by
        rw [Option.eq_none_iff_forall_ne_some]
        exact fun name hname => (Part.fieldName?_eq_some_iff.1 hname).1 hfile
      have hselected : field.fieldName? = some field.name :=
        Part.fieldName?_eq_some_iff.2 ⟨hfield, rfl⟩
      simp [fieldNames, hskipped, hselected]
    rw [hnames, List.append_assoc]
    refine ⟨_, _, rfl, ?_⟩
    rw [List.mem_cons, not_or]
    refine ⟨fun hsame => hnew ?_, hlate⟩
    simp [hsame]

/-- Two names change places exactly if a field is not in turn. -/
theorem inTurn_iff :
    InTurn parts ↔ ∀ first second, Precedes (parts.map Part.name) first second →
      ¬ Precedes (fieldNames parts ++ fileNames parts) second first := by
  constructor
  · exact fun hturn _ _ hbody hkeys => not_inTurn_of_swapped hbody hkeys hturn
  · intro hkept
    by_contra hturn
    obtain ⟨first, second, hbody, hkeys⟩ := exists_swapped_of_not_inTurn hturn
    exact hkept first second hbody hkeys

/-! ## Keys -/

/-- The form that the parts make. -/
def formOf (parts : List Part) : Form :=
  .ofEntries (parts.filterMap Part.field?) (parts.filterMap Part.upload?)

theorem keys_formOf (parts : List Part) :
    (formOf parts).keys = distinct (fieldNames parts ++ fileNames parts) := by
  rw [Form.keys_eq_distinct, formOf, Form.ofEntries, List.map_filterMap,
    List.map_filterMap]
  rfl

theorem mem_keys_formOf {name : String} :
    name ∈ (formOf parts).keys ↔ name ∈ parts.map Part.name := by
  rw [keys_formOf, mem_distinct, mem_names_iff]

theorem nodup_keys_formOf (parts : List Part) : (formOf parts).keys.Nodup := by
  rw [keys_formOf]
  exact (pairwise_distinct _).imp Precedes.ne

theorem pairwise_keys_formOf_iff :
    (formOf parts).keys.Pairwise (Precedes (parts.map Part.name)) ↔
      InTurn parts := by
  rw [inTurn_iff, keys_formOf]
  refine pairwise_precedes_iff (pairwise_distinct _) (fun name => ?_) fun _ =>
    mem_distinct
  rw [mem_distinct, mem_names_iff]

/-! ## Bodies -/

open Decoder (outcome)

variable {boundary : Bytes} {chunks : List Bytes} {form : Form}

theorem ne_nil_of_outcome (h : outcome boundary chunks = .ok form) :
    boundary ≠ [] := by
  rintro rfl
  have hfault : (chunks.foldl Decoder.decode (.new (some []))).fault =
      some .missingBoundary :=
    Decoder.fault_foldl_decode rfl chunks
  simp [outcome, Decoder.finish, hfault] at h

/-- A body that decodes to a form decodes to that of its parts. -/
theorem eq_formOf_of_outcome (h : outcome boundary chunks = .ok form) :
    form = formOf (Outline.ofBody boundary chunks.flatten).parts := by
  have hboundary := ne_nil_of_outcome h
  obtain ⟨hclosed, hkept⟩ :=
    (Decoder.exists_outcome_eq_ok_iff hboundary).1 ⟨form, h⟩
  rw [outcome, Decoder.finish_foldl_decode_of_not_overruns hboundary hkept,
    Outline.formAfter, hclosed] at h
  exact (Except.ok.inj h).symm

/-- The keys of a form are the names of the parts, each once.  They are in the
order in which the names first occur in the body exactly if every field behind a
file comes in turn. -/
theorem keys_iff_inTurn (h : outcome boundary chunks = .ok form) :
    let parts := (Outline.ofBody boundary chunks.flatten).parts
    form.keys.Nodup ∧ (∀ name, name ∈ form.keys ↔ name ∈ parts.map Part.name) ∧
      form.keys.Pairwise (Precedes (fieldNames parts ++ fileNames parts)) ∧
      (form.keys.Pairwise (Precedes (parts.map Part.name)) ↔ InTurn parts) := by
  intro parts
  rw [eq_formOf_of_outcome h]
  refine ⟨nodup_keys_formOf parts, fun _ => mem_keys_formOf, ?_,
    pairwise_keys_formOf_iff⟩
  rw [keys_formOf]
  exact pairwise_distinct _

/-- Two fields of one name with a file between them, for the boundary `b`. -/
def mixedBody : List Bytes :=
  [Utf8.ofString
      "--b\r\nContent-Disposition: form-data; name=\"a\"\r\n\r\nx\r\n--b\r\n",
    Utf8.ofString
      "Content-Disposition: form-data; name=\"f\"; filename=\"n\"\r\n\r\ny\r\n--b\r",
    Utf8.ofString
      "\nContent-Disposition: form-data; name=\"a\"\r\n\r\nz\r\n--b--"]

theorem keys_mixedBody :
    let form :=
      Form.ofEntries [("a", "x"), ("a", "z")] [⟨"f", some "n", none, 1, [121]⟩]
    outcome [98] mixedBody = .ok form ∧ form.keys = ["a", "f"] ∧
      InTurn (Outline.ofBody [98] mixedBody.flatten).parts := by
  intro form
  have hform : outcome [98] mixedBody = .ok form := by decide +kernel
  have hkeys : form.keys = ["a", "f"] := rfl
  have hnames : (Outline.ofBody [98] mixedBody.flatten).parts.map Part.name =
      ["a", "f", "a"] := by
    decide +kernel
  refine ⟨hform, hkeys, (keys_iff_inTurn hform).2.2.2.1 ?_⟩
  rw [hkeys, hnames, List.pairwise_pair]
  exact ⟨[], ["f", "a"], rfl, by decide⟩

/-- A file in front of a field. -/
def fileFirstBody : List Bytes :=
  [Utf8.ofString
      "--b\r\nContent-Disposition: form-data; name=\"f\"; filename=\"n\"\r\n\r\nx\r\n--b\r\n",
    Utf8.ofString
      "Content-Disposition: form-data; name=\"a\"\r\n\r\ny\r\n--b--"]

/-- The field comes first among the keys. -/
theorem keys_fileFirstBody :
    let form := Form.ofEntries [("a", "y")] [⟨"f", some "n", none, 1, [120]⟩]
    let names := (Outline.ofBody [98] fileFirstBody.flatten).parts.map Part.name
    outcome [98] fileFirstBody = .ok form ∧ names = ["f", "a"] ∧
      form.keys = ["a", "f"] ∧ ¬ form.keys.Pairwise (Precedes names) := by
  intro form names
  have hnames : names = ["f", "a"] := by decide +kernel
  have hkeys : form.keys = ["a", "f"] := rfl
  refine ⟨by decide +kernel, hnames, hkeys, ?_⟩
  rw [hkeys, hnames, List.pairwise_pair]
  intro hprecedes
  have hbody : Precedes ["f", "a"] "f" "a" := ⟨[], ["a"], rfl, by decide⟩
  exact hbody.asymm hprecedes

end Multipart

end HttpEngine
