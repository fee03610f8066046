import HttpEngine.Proofs.Message.Fields
import HttpEngine.Proofs.Route.Names
import HttpEngine.Proofs.Text.Blank
import HttpEngine.Proofs.Text.Visible

/-!
# The list of allowed methods

A list of names goes into one `Allow` field, in increasing order and each name
once.  A handler for `OPTIONS` that lists names itself has them merged with
those of the routes: the joined text is split again, and the elements of the
answer are added.
-/

namespace HttpEngine

/-! ## One field -/

theorem normalizeName_allow : Header.normalizeName "allow" = "allow" :=
  by decide +kernel

theorem setHeader_allow {value : Bytes} (h : Header.isValue value = true)
    (response : Response) :
    response.setHeader (Utf8.ofString "allow") value =
      ⟨{ response with headers := response.headers.insert "allow" value },
        []⟩ := by
  have hname : Header.parseName? (Utf8.ofString "allow") = some "allow" := by
    decide +kernel
  simp only [Response.setHeader, Response.withField, hname, h, if_true]

/-- One `Allow` field lists the names as described, in increasing order of their
bytes. -/
def Response.AllowsExactly (response : Response) (listed : String → Prop) :
    Prop :=
  ∃ names : List String,
    response.headers.getAll "allow" = [Utf8.ofString (", ".intercalate names)] ∧
      names.Pairwise (fun first second => Utf8.ofString first <
        Utf8.ofString second) ∧
      ∀ name, name ∈ names ↔ listed name

/-- The name is an element of one of the lists in the `Allow` fields that are
text. -/
def Response.ListsAllowed (response : Response) (name : String) : Prop :=
  ∃ value ∈ response.headers.getAll "allow", ∃ text,
    Header.text? value = some text ∧
    ∃ piece ∈ text.toList.splitOn ',', Text.trim piece ≠ [] ∧
      name = String.ofList (Text.trim piece)

theorem isVisible_joinNames {names : List String}
    (h : ∀ name ∈ names, IsVisible name.toList) :
    IsVisible (joinNames names).toList := by
  have hseparator : IsVisible ", ".toList :=
    List.forall_mem_cons.2 ⟨by decide, List.forall_mem_singleton.2 (by decide)⟩
  rw [joinNames, String.toList_intercalate]
  induction names with
  | nil => simp [IsVisible]
  | cons first names ih =>
      obtain ⟨hfirst, hnames⟩ := List.forall_mem_cons.1 h
      cases names with
      | nil => simpa using hfirst
      | cons second names =>
          rw [List.map_cons, List.map_cons, List.intercalate_cons_cons,
            ← List.map_cons]
          exact List.forall_mem_append.2
            ⟨List.forall_mem_append.2 ⟨hfirst, hseparator⟩, ih hnames⟩

theorem pairwise_ofString_lt {names : List String}
    (hnames : names.Pairwise (· < ·))
    (h : ∀ name ∈ names, IsVisible name.toList) :
    names.Pairwise (fun first second => Utf8.ofString first <
      Utf8.ofString second) := by
  refine hnames.imp_of_mem fun {first second} hfirst hsecond hless => ?_
  exact encode_lt_encode (h first hfirst) (h second hsecond)
    (String.lt_iff_toList_lt.1 hless)

/-- Setting the field to sorted visible names. -/
theorem setHeader_allow_names (response : Response) {names : List String}
    (h : ∀ name ∈ names, IsVisible name.toList) :
    ∃ answer, response.setHeader (Utf8.ofString "allow")
        (Utf8.ofString (joinNames (sortDistinct names))) = ⟨answer, []⟩ ∧
      answer.status = response.status ∧ answer.body = response.body ∧
      answer.AllowsExactly (· ∈ names) := by
  have hvisible : ∀ name ∈ sortDistinct names, IsVisible name.toList := by
    simpa using h
  have hvalue := isValue_encode (isVisible_joinNames hvisible)
  refine ⟨_, setHeader_allow hvalue response, rfl, rfl, sortDistinct names, ?_,
    ?_, by simp⟩
  · exact HeaderMap.getAll_insert normalizeName_allow _ _
  · exact pairwise_ofString_lt (sortDistinct_pairwise names) hvisible

/-! ## Elements of an answer -/

theorem mem_allowedByResponse {response : Response} {name : String} :
    name ∈ allowedByResponse response ↔ response.ListsAllowed name := by
  simp only [allowedByResponse, HeaderMap.getTexts, Header.listElements,
    List.mem_filterMap, List.mem_flatMap, List.mem_map]
  constructor
  · rintro ⟨_, ⟨text, ⟨value, hvalue, htext⟩, piece, hpiece, rfl⟩, hname⟩
    split at hname
    · cases hname
    · next hnonempty =>
        obtain rfl := Option.some.inj hname
        exact ⟨value, hvalue, text, htext, piece, hpiece,
          by simpa using hnonempty, rfl⟩
  · rintro ⟨value, hvalue, text, htext, piece, hpiece, hnonempty, rfl⟩
    exact ⟨_, ⟨text, ⟨value, hvalue, htext⟩, piece, hpiece, rfl⟩,
      by simp [hnonempty]⟩

theorem isVisible_of_listsAllowed {response : Response} {name : String}
    (h : response.ListsAllowed name) : IsVisible name.toList := by
  obtain ⟨value, -, text, htext, piece, hpiece, -, rfl⟩ := h
  intro character hcharacter
  rw [String.toList_ofList] at hcharacter
  exact isVisible_of_text? htext character
    (Sequence.subset_of_mem_splitOn hpiece (Text.mem_of_mem_trim hcharacter))

/-! ## Handlers -/

variable {σ : Type}

theorem runIn_listMethods (response : Response) {names : List String}
    (h : ∀ name ∈ names, IsVisible name.toList) :
    ∃ answer, answer.status = response.status ∧
      answer.AllowsExactly (· ∈ names) ∧ ∀ request (world : World σ),
        (listMethods response (joinNames (sortDistinct names)) request).runIn
          world = (.ok answer, world) := by
  obtain ⟨answer, hanswer, hstatus, -, hallows⟩ :=
    setHeader_allow_names response h
  refine ⟨answer, hstatus, hallows, fun request world => ?_⟩
  rw [listMethods, hanswer]
  exact Action.runIn_ofLogged answer world

/-- What becomes of the end of a handler when names are merged into
its answer. -/
def MergesAllow (names : String → Prop) (handler merging : Handler σ) : Prop :=
  ∀ request (world : World σ),
    (∀ response after, (handler request).runIn world = (.ok response, after) →
      ∃ answer, (merging request).runIn world = (.ok answer, after) ∧
        answer.status = response.status ∧ answer.body = response.body ∧
        answer.AllowsExactly fun name => names name ∨
        response.ListsAllowed name) ∧
    ∀ failure after, (handler request).runIn world = (.error failure, after) →
      (merging request).runIn world = (.error failure, after)

theorem mergesAllow_mergeAllowed {names : List String} (hnames : names ≠ [])
    (h : ∀ name ∈ names, IsVisible name.toList ∧ ',' ∉ name.toList)
    (handler : Handler σ) :
    MergesAllow (· ∈ names) handler
      (mergeAllowed (joinNames (sortDistinct names)) handler) := by
  have hsplit :
      splitNames (joinNames (sortDistinct names)) = sortDistinct names := by
    apply splitNames_joinNames
    · obtain ⟨name, hname⟩ := List.exists_mem_of_ne_nil names hnames
      exact List.ne_nil_of_mem (mem_sortDistinct.2 hname)
    · intro name hname
      exact (h name (mem_sortDistinct.1 hname)).2
  intro request world
  constructor
  · intro response after hrun
    have hvisible : ∀ name ∈ sortDistinct names ++ allowedByResponse response,
        IsVisible name.toList := by
      intro name hname
      rcases List.mem_append.1 hname with hown | hlisted
      · exact (h name (mem_sortDistinct.1 hown)).1
      · exact isVisible_of_listsAllowed (mem_allowedByResponse.1 hlisted)
    obtain ⟨answer, hanswer, hstatus, hbody, hallows⟩ :=
      setHeader_allow_names response hvisible
    refine ⟨answer, ?_, hstatus, hbody, ?_⟩
    · rw [mergeAllowed, Action.runIn_bind, hrun]
      dsimp only
      rw [hsplit, hanswer]
      exact Action.runIn_ofLogged answer after
    · simpa [mem_allowedByResponse] using hallows
  · intro failure after hrun
    rw [mergeAllowed, Action.runIn_bind, hrun]

end HttpEngine
