import HttpEngine.Proofs.Route.Template

/-!
# What a template matches

A path matches a template exactly when it is made of one piece for each segment:
a slash with the text of a literal segment, a slash with one segment of the
path, or, in the last place, a slash with the rest of the path.  There is one
way at most to cut a path into such pieces, and the parameters are the pieces
without their slashes.
-/

namespace HttpEngine.Pattern

/-- The pieces of a path for the segments of a template, and the values of the
parameters in them.  Only an optional rest may be absent; its value is then the
empty text. -/
inductive Decomposes :
    List (List Char) → List (List Char) → List (List Char × List Char) →
      Prop where
  | nil : Decomposes [] [] []
  | literal {text : List Char} {segments pieces : List (List Char)}
      {values : List (List Char × List Char)}
      (hplain : ∀ name, ¬ Declares text name)
      (hrest : Decomposes segments pieces values) :
      Decomposes (text :: segments) (('/' :: text) :: pieces) values
  | one {name value : List Char} {segments pieces : List (List Char)}
      {values : List (List Char × List Char)} (hne_nil : value ≠ [])
      (hslash_not_mem : '/' ∉ value)
      (hrest : Decomposes segments pieces values) :
      Decomposes ((':' :: name) :: segments) (('/' :: value) :: pieces)
        ((name, value) :: values)
  | absent {name : List Char} : Decomposes ['*' :: name] [[]] [(name, [])]
  | optionalRest {name value : List Char} (hline : '\n' ∉ value) :
      Decomposes ['*' :: name] ['/' :: value] [(name, value)]
  | requiredRest {name value : List Char} (hne_nil : value ≠ [])
      (hline : '\n' ∉ value) :
      Decomposes ['+' :: name] ['/' :: value] [(name, value)]

/-! ## Pieces end at slashes -/

/-- The rest of a path, behind a piece. -/
def StartsPiece (path : List Char) : Prop :=
  path = [] ∨ ∃ rest, path = '/' :: rest

theorem spanSegment_append {value path : List Char} (hvalue : '/' ∉ value)
    (hpath : StartsPiece path) :
    spanSegment (value ++ path) = (value, path) := by
  have hall : ∀ character ∈ value, (character != '/') = true := by
    intro character hcharacter
    rw [bne_iff_ne]
    rintro rfl
    exact hvalue hcharacter
  rw [spanSegment, List.takeWhile_append_of_pos hall,
    List.dropWhile_append_of_pos hall]
  rcases hpath with rfl | ⟨rest, rfl⟩ <;> simp

theorem append_inj_of_startsPiece {value path other rest : List Char}
    (hvalue : '/' ∉ value) (hpath : StartsPiece path) (hother : '/' ∉ other)
    (hrest : StartsPiece rest) (h : value ++ path = other ++ rest) :
    value = other ∧ path = rest := by
  have hspan := congrArg spanSegment h
  rwa [spanSegment_append hvalue hpath, spanSegment_append hother hrest,
    Prod.mk.injEq] at hspan

theorem Decomposes.startsPiece {segments pieces : List (List Char)}
    {values : List (List Char × List Char)}
    (h : Decomposes segments pieces values) :
    StartsPiece pieces.flatten := by
  cases h with
  | nil => exact .inl rfl
  | absent => exact .inl rfl
  | _ => exact .inr ⟨_, rfl⟩

/-- A path can be cut into pieces in one way at most. -/
theorem Decomposes.unique {segments pieces others : List (List Char)}
    {values otherValues : List (List Char × List Char)}
    (h : Decomposes segments pieces values)
    (hother : Decomposes segments others otherValues)
    (heq : pieces.flatten = others.flatten) :
    pieces = others ∧ values = otherValues := by
  induction h generalizing others otherValues with
  | nil => cases hother; exact ⟨rfl, rfl⟩
  | @literal text segments pieces values hplain hrest ih =>
      cases hother with
      | literal _ hother =>
          obtain ⟨rfl, rfl⟩ := ih hother (by simpa using heq)
          exact ⟨rfl, rfl⟩
      | one => exact absurd (.inl rfl) (hplain _)
      | absent => exact absurd (.inr (.inl rfl)) (hplain _)
      | optionalRest => exact absurd (.inr (.inl rfl)) (hplain _)
      | requiredRest => exact absurd (.inr (.inr rfl)) (hplain _)
  | @one name value segments pieces values hne hslash hrest ih =>
      cases hother with
      | literal hplain => exact absurd (.inl rfl) (hplain _)
      | one hotherNe hotherSlash hother =>
          simp only [List.flatten_cons, List.cons_append, List.cons.injEq,
            true_and] at heq
          obtain ⟨rfl, hflatten⟩ :=
            append_inj_of_startsPiece hslash hrest.startsPiece hotherSlash
            hother.startsPiece heq
          obtain ⟨rfl, rfl⟩ := ih hother hflatten
          exact ⟨rfl, rfl⟩
  | absent =>
      cases hother with
      | literal hplain => exact absurd (.inr (.inl rfl)) (hplain _)
      | absent => exact ⟨rfl, rfl⟩
      | optionalRest => simp at heq
  | optionalRest =>
      cases hother with
      | literal hplain => exact absurd (.inr (.inl rfl)) (hplain _)
      | absent => simp at heq
      | optionalRest => simpa using heq
  | requiredRest =>
      cases hother with
      | literal hplain => exact absurd (.inr (.inr rfl)) (hplain _)
      | requiredRest => simpa using heq

/-! ## Matching one segment -/

section

variable {name path : List Char} {rest : List Segment}
  {values : List (List Char × List Char)}

theorem matchSegments_literal_iff {text : List Char} :
    matchSegments (.literal text :: rest) path = some values ↔
      ∃ after, path = '/' :: text ++ after ∧
        matchSegments rest after = some values := by
  constructor
  · intro h
    rcases matchSegments_slash h with rfl | ⟨path, rfl⟩
    · simp [matchSegments] at h
    · simp only [matchSegments] at h
      split at h
      · next after hafter =>
          exact ⟨after,
            by rw [Sequence.dropPrefix?_eq_some_iff.1 hafter]; rfl, h⟩
      · cases h
  · rintro ⟨after, rfl, h⟩
    simpa [matchSegments] using h

theorem matchSegments_one_iff :
    matchSegments (.one name :: rest) path = some values ↔
      ∃ value after more, path = '/' :: value ++ after ∧ value ≠ [] ∧
        '/' ∉ value ∧
        matchSegments rest after = some more ∧
        values = (name, value) :: more := by
  constructor
  · intro h
    rcases matchSegments_slash h with rfl | ⟨path, rfl⟩
    · simp [matchSegments] at h
    · simp only [matchSegments, Option.ite_none_left_eq_some] at h
      obtain ⟨hne, h⟩ := h
      obtain ⟨more, hmore, rfl⟩ := Option.map_eq_some_iff.1 h
      refine ⟨(spanSegment path).1, (spanSegment path).2, more,
        by simp [spanSegment],
        mt List.isEmpty_iff.2 hne, fun hslash => ?_, hmore, rfl⟩
      simpa using List.mem_takeWhile_imp hslash
  · rintro ⟨value, after, more, rfl, hne, hslash, hmore, rfl⟩
    have hspan := spanSegment_append hslash (matchSegments_slash hmore)
    simp [matchSegments, hspan, hne, hmore]

theorem matchSegments_optionalRest_iff :
    matchSegments (.optionalRest name :: rest) path = some values ↔
      path = [] ∧ values = [(name, [])] ∨
        ∃ value, path = '/' :: value ∧ '\n' ∉ value ∧
          values = [(name, value)] := by
  constructor
  · intro h
    rcases matchSegments_slash h with rfl | ⟨path, rfl⟩
    · exact .inl ⟨rfl, (Option.some.inj h).symm⟩
    · simp only [matchSegments, Option.ite_none_right_eq_some,
        Option.some.injEq] at h
      obtain ⟨hline, rfl⟩ := h
      exact .inr ⟨path, rfl, by simpa [isLine] using hline, rfl⟩
  · rintro (⟨rfl, rfl⟩ | ⟨value, rfl, hline, rfl⟩)
    · rfl
    · simp [matchSegments, isLine, hline]

theorem matchSegments_requiredRest_iff :
    matchSegments (.requiredRest name :: rest) path = some values ↔
      ∃ value, path = '/' :: value ∧ value ≠ [] ∧ '\n' ∉ value ∧
        values = [(name, value)] := by
  constructor
  · intro h
    rcases matchSegments_slash h with rfl | ⟨path, rfl⟩
    · simp [matchSegments] at h
    · simp only [matchSegments, Option.ite_none_left_eq_some, Option.some.injEq]
        at h
      obtain ⟨hvalue, rfl⟩ := h
      obtain ⟨hne, hline⟩ : path ≠ [] ∧ '\n' ∉ path := by
        simpa [isLine] using hvalue
      exact ⟨path, rfl, hne, hline, rfl⟩
  · rintro ⟨value, rfl, hne, hline, rfl⟩
    simp [matchSegments, isLine, hne, hline]

end

/-! ## Matching all segments -/

theorem ofText_of_plain {text : List Char} (h : ∀ name, ¬ Declares text name) :
    Segment.ofText text = .literal text := by
  have hname := name?_ofText_eq_none_iff.2 h
  have htext := toText_ofText text
  cases hsegment : Segment.ofText text with
  | literal other => rw [← htext, hsegment]; rfl
  | _ => simp [hsegment, Segment.name?] at hname

theorem Decomposes.matchSegments_eq {segments pieces : List (List Char)}
    {values : List (List Char × List Char)}
    (h : Decomposes segments pieces values) :
    matchSegments (segments.map .ofText) pieces.flatten = some values := by
  induction h with
  | nil => rfl
  | literal hplain _ ih =>
      rw [List.map_cons, ofText_of_plain hplain]
      exact matchSegments_literal_iff.2 ⟨_, rfl, ih⟩
  | one hne hslash _ ih =>
      exact matchSegments_one_iff.2 ⟨_, _, _, rfl, hne, hslash, ih, rfl⟩
  | absent => rfl
  | optionalRest hline =>
      exact matchSegments_optionalRest_iff.2 (.inr ⟨_, by simp, hline, rfl⟩)
  | requiredRest hne hline =>
      exact matchSegments_requiredRest_iff.2 ⟨_, by simp, hne, hline, rfl⟩

theorem exists_decomposes {segments : List (List Char)}
    (hrules : KeepsRules segments) {path : List Char}
    {values : List (List Char × List Char)}
    (h : matchSegments (segments.map .ofText) path = some values) :
    ∃ pieces, Decomposes segments pieces values ∧ pieces.flatten = path := by
  induction segments generalizing path values with
  | nil =>
      cases path with
      | nil =>
          obtain rfl := Option.some.inj h
          exact ⟨[], .nil, rfl⟩
      | cons => cases h
  | cons segment segments ih =>
      obtain ⟨hwildcard, -, hrest⟩ := keepsRules_cons_iff.1 hrules
      obtain hplain | ⟨name, rfl | rfl | rfl⟩ := plain_or_declares segment
      · rw [List.map_cons, ofText_of_plain hplain] at h
        obtain ⟨after, rfl, hafter⟩ := matchSegments_literal_iff.1 h
        obtain ⟨pieces, hpieces, rfl⟩ := ih hrest hafter
        exact ⟨_, .literal hplain hpieces, rfl⟩
      · obtain ⟨value, after, more, rfl, hne, hslash, hafter, rfl⟩ :=
          matchSegments_one_iff.1 h
        obtain ⟨pieces, hpieces, rfl⟩ := ih hrest hafter
        exact ⟨_, .one hne hslash hpieces, rfl⟩
      -- A wildcard is the last segment, and no other one is lost behind it.
      · obtain rfl := hwildcard ⟨name, .inl rfl⟩
        obtain ⟨rfl, rfl⟩ | ⟨value, rfl, hline, rfl⟩ :=
          matchSegments_optionalRest_iff.1 h
        · exact ⟨_, .absent, rfl⟩
        · exact ⟨_, .optionalRest hline, by simp⟩
      · obtain rfl := hwildcard ⟨name, .inr rfl⟩
        obtain ⟨value, rfl, hne, hline, rfl⟩ :=
          matchSegments_requiredRest_iff.1 h
        exact ⟨_, .requiredRest hne hline, by simp⟩

theorem matchSegments_eq_some_iff {segments : List (List Char)}
    (hrules : KeepsRules segments) {path : List Char}
    {values : List (List Char × List Char)} :
    matchSegments (segments.map .ofText) path = some values ↔
      ∃ pieces, Decomposes segments pieces values ∧ pieces.flatten = path := by
  constructor
  · exact exists_decomposes hrules
  · rintro ⟨pieces, hpieces, rfl⟩
    exact hpieces.matchSegments_eq

/-! ## Matching a path -/

section

variable {template : String} {segments : List (List Char)} {pattern : Pattern}

theorem matchPath?_eq_some_iff (hcompile : compile template = .ok pattern)
    (hsegments : IsSegmented template.toList segments) {path : String}
    {params : Params} :
    pattern.matchPath? path = some params ↔
      ∃ pieces values, Decomposes segments pieces values ∧
        pieces.flatten = path.toList ∧ params = pathParams values := by
  obtain ⟨hrules, rfl⟩ := (compile_eq_ok_iff hsegments).1 hcompile
  rw [matchPath?_eq, Option.map_eq_some_iff]
  simp only [matchSegments_eq_some_iff hrules]
  constructor
  · rintro ⟨values, ⟨pieces, hpieces, hpath⟩, rfl⟩
    exact ⟨pieces, values, hpieces, hpath, rfl⟩
  · rintro ⟨pieces, values, hpieces, hpath, rfl⟩
    exact ⟨values, ⟨pieces, hpieces, hpath⟩, rfl⟩

theorem decomposes_plain_iff {pieces : List (List Char)}
    {values : List (List Char × List Char)}
    (hplain : ∀ segment ∈ segments, ∀ name, ¬ Declares segment name) :
    Decomposes segments pieces values ↔
      pieces = segments.map ('/' :: ·) ∧ values = [] := by
  constructor
  · intro h
    induction h with
    | nil => exact ⟨rfl, rfl⟩
    | literal _ _ ih =>
        obtain ⟨rfl, rfl⟩ := ih (List.forall_mem_cons.1 hplain).2
        exact ⟨rfl, rfl⟩
    | one => exact absurd (.inl rfl) (hplain _ List.mem_cons_self _)
    | requiredRest =>
        exact absurd (.inr (.inr rfl)) (hplain _ List.mem_cons_self _)
    | _ => exact absurd (.inr (.inl rfl)) (hplain _ List.mem_cons_self _)
  · rintro ⟨rfl, rfl⟩
    induction segments with
    | nil => exact .nil
    | cons segment segments ih =>
        rw [List.forall_mem_cons] at hplain
        exact .literal hplain.1 (ih hplain.2)

/-- A template without parameters matches one path only. -/
theorem matchPath?_eq_some_iff_of_plain
    (hcompile : compile template = .ok pattern)
    (hsegments : IsSegmented template.toList segments)
    (hplain : ∀ segment ∈ segments, ∀ name, ¬ Declares segment name)
    {path : String} {params : Params} :
    pattern.matchPath? path = some params ↔
      path = String.ofList (joinSegments segments) ∧
      params = pathParams [] := by
  rw [matchPath?_eq_some_iff hcompile hsegments]
  simp only [decomposes_plain_iff hplain]
  constructor
  · rintro ⟨_, _, ⟨rfl, rfl⟩, hpath, rfl⟩
    rw [← List.flatMap_def] at hpath
    exact ⟨by rw [joinSegments, hpath, String.ofList_toList], rfl⟩
  · rintro ⟨rfl, rfl⟩
    exact ⟨_, _, ⟨rfl, rfl⟩,
      by rw [String.toList_ofList, joinSegments, List.flatMap_def], rfl⟩

/-- A path is matched exactly when it is made of pieces for the segments, in the
one way there is, and the parameters are their values under their names. -/
theorem matches_iff_decomposes (hcompile : compile template = .ok pattern)
    (hsegments : IsSegmented template.toList segments) (path : String) :
    (∀ params, pattern.matchPath? path = some params ↔
        ∃ pieces values, Decomposes segments pieces values ∧
          pieces.flatten = path.toList ∧ params = pathParams values) ∧
      (∀ pieces values others otherValues,
        Decomposes segments pieces values → pieces.flatten = path.toList →
        Decomposes segments others otherValues → others.flatten = path.toList →
        pieces = others ∧ values = otherValues) ∧
      (pattern.isMatch path = true ↔
        ∃ params, pattern.matchPath? path = some params) := by
  refine ⟨fun params => matchPath?_eq_some_iff hcompile hsegments, ?_,
    pattern.isMatch_iff path⟩
  intro pieces values others otherValues hpieces hpath hothers hotherPath
  exact hpieces.unique hothers (hpath.trans hotherPath.symm)

/-- Two literal segments, one of them empty, a named one and the rest. -/
def filesSegments : List (List Char) :=
  ["v1.0".toList, [], ":id".toList, "*rest".toList]

def filesPattern : Pattern := ⟨"/v1.0//:id/*rest", filesSegments.map .ofText⟩

theorem matches_iff_decomposes_files :
    compile "/v1.0//:id/*rest" = .ok filesPattern ∧
      IsSegmented "/v1.0//:id/*rest".toList filesSegments ∧
      Decomposes filesSegments ["/v1.0".toList, ['/'], "/4\n2".toList,
        "/a//b".toList]
        [("id".toList, "4\n2".toList), ("rest".toList, "a//b".toList)] ∧
      filesPattern.matchPath? "/v1.0//4\n2/a//b" =
        some ⟨.path, [("id", "4\n2"), ("rest", "a//b")]⟩ := by
  have hsegments : IsSegmented "/v1.0//:id/*rest".toList filesSegments :=
    splitTemplate_eq_iff.1 rfl
  have hpieces : Decomposes filesSegments
      ["/v1.0".toList, ['/'], "/4\n2".toList, "/a//b".toList]
      [("id".toList, "4\n2".toList), ("rest".toList, "a//b".toList)] :=
    .literal (by simp [Declares]) (.literal (by simp [Declares])
      (.one (by decide) (by decide) (.optionalRest (by decide))))
  exact ⟨rfl, hsegments, hpieces,
    ((matches_iff_decomposes rfl hsegments _).1 _).2
      ⟨_, _, hpieces, by decide, rfl⟩⟩

end

end HttpEngine.Pattern
