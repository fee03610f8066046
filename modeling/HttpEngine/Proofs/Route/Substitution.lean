import HttpEngine.Proofs.Route.Decomposition

/-!
# Values put into a template

A template with values in the place of its parameters is a path, and matching
that path gives the values back.  The one exception is a line feed in the value
of a rest: named segments take it, rests do not.
-/

namespace HttpEngine.Pattern

/-- The segment with the value in the place of its parameter. -/
def substitute (value : List Char → List Char) : List Char → List Char
  | ':' :: name => value name
  | '*' :: name => value name
  | '+' :: name => value name
  | text => text

def substituted (segments : List (List Char)) (value : List Char → List Char) :
    String :=
  String.ofList (joinSegments (segments.map (substitute value)))

/-- The names of the parameters with their values, in the order of their
declaration. -/
def assigned (segments : List (List Char)) (value : List Char → List Char) :
    List (List Char × List Char) :=
  segments.filterMap fun segment =>
    (Segment.ofText segment).name?.map fun name => (name, value name)

/-- Values that fit the places of the parameters: one segment, any text or any
text but the empty one. -/
structure IsAssignment (segments : List (List Char))
    (value : List Char → List Char) : Prop where
  one_ne_nil : ∀ name, ':' :: name ∈ segments → value name ≠ []
  slash_not_mem : ∀ name, ':' :: name ∈ segments → '/' ∉ value name
  requiredRest_ne_nil : ∀ name, '+' :: name ∈ segments → value name ≠ []

/-- No rest has a line feed in its value. -/
def RestsAreLines (segments : List (List Char))
    (value : List Char → List Char) : Prop :=
  ∀ name, '*' :: name ∈ segments ∨ '+' :: name ∈ segments → '\n' ∉ value name

section

variable {segments : List (List Char)} {segment : List Char}
  {value : List Char → List Char}

theorem substitute_of_plain (h : ∀ name, ¬ Declares segment name) :
    substitute value segment = segment := by
  unfold substitute
  split
  · exact absurd (.inl rfl) (h _)
  · exact absurd (.inr (.inl rfl)) (h _)
  · exact absurd (.inr (.inr rfl)) (h _)
  · rfl

theorem assigned_cons_of_plain (h : ∀ name, ¬ Declares segment name) :
    assigned (segment :: segments) value = assigned segments value := by
  rw [assigned, List.filterMap_cons_none (by rw [ofText_of_plain h]; rfl),
    assigned]

theorem IsAssignment.of_cons (h : IsAssignment (segment :: segments) value) :
    IsAssignment segments value where
  one_ne_nil name hname := h.one_ne_nil name (List.mem_cons_of_mem _ hname)
  slash_not_mem name hname :=
    h.slash_not_mem name (List.mem_cons_of_mem _ hname)
  requiredRest_ne_nil name hname :=
    h.requiredRest_ne_nil name (List.mem_cons_of_mem _ hname)

theorem RestsAreLines.of_cons (h : RestsAreLines (segment :: segments) value) :
    RestsAreLines segments value := fun name hname =>
  h name (hname.imp (List.mem_cons_of_mem _) (List.mem_cons_of_mem _))

/-- The pieces of a path that was made by substitution. -/
theorem decomposes_substituted (hrules : KeepsRules segments)
    (hvalue : IsAssignment segments value)
    (hlines : RestsAreLines segments value) :
    Decomposes segments (segments.map fun segment => '/' ::
      substitute value segment) (assigned segments value) := by
  induction segments with
  | nil => exact .nil
  | cons segment segments ih =>
      obtain ⟨hwildcard, -, hrest⟩ := keepsRules_cons_iff.1 hrules
      have hsegments := ih hrest hvalue.of_cons hlines.of_cons
      obtain hplain | ⟨name, rfl | rfl | rfl⟩ := plain_or_declares segment
      · rw [List.map_cons, substitute_of_plain hplain,
          assigned_cons_of_plain hplain]
        exact .literal hplain hsegments
      · exact .one (hvalue.one_ne_nil name List.mem_cons_self)
          (hvalue.slash_not_mem name List.mem_cons_self) hsegments
      · obtain rfl := hwildcard ⟨name, .inl rfl⟩
        exact .optionalRest (hlines name (.inl List.mem_cons_self))
      · obtain rfl := hwildcard ⟨name, .inr rfl⟩
        exact .requiredRest (hvalue.requiredRest_ne_nil name List.mem_cons_self)
          (hlines name (.inr List.mem_cons_self))

theorem RestsAreLines.cons (h : RestsAreLines segments value)
    (hsegment : ¬ IsWildcard segment) :
    RestsAreLines (segment :: segments) value := by
  simp only [RestsAreLines, List.mem_cons]
  rintro name ((hstar | hstar) | (hplus | hplus))
  · exact absurd ⟨name, .inl hstar.symm⟩ hsegment
  · exact h name (.inl hstar)
  · exact absurd ⟨name, .inr hplus.symm⟩ hsegment
  · exact h name (.inr hplus)

theorem startsPiece_joinSegments (segments : List (List Char)) :
    StartsPiece (joinSegments segments) := by
  cases segments with
  | nil => exact .inl rfl
  | cons => exact .inr ⟨_, rfl⟩

/-- Any pieces of such a path hold the values that were put in. -/
theorem Decomposes.restsAreLines {pieces : List (List Char)}
    {values : List (List Char × List Char)}
    (h : Decomposes segments pieces values)
    (hvalue : IsAssignment segments value)
    (hpath : pieces.flatten = joinSegments (segments.map (substitute value))) :
    RestsAreLines segments value := by
  induction h with
  | nil => simp [RestsAreLines]
  | @literal text segments pieces values hplain hrest ih =>
      have hwildcard : ¬ IsWildcard text := fun h => h.declares.elim hplain
      refine (ih hvalue.of_cons ?_).cons hwildcard
      simpa [substitute_of_plain hplain] using hpath
  | @one name found segments pieces values hne hslash hrest ih =>
      have hwildcard : ¬ IsWildcard (':' :: name) := by simp [IsWildcard]
      simp only [List.map_cons, joinSegments_cons, List.flatten_cons,
        List.cons_append, List.cons.injEq, true_and] at hpath
      obtain ⟨-, hafter⟩ := append_inj_of_startsPiece hslash hrest.startsPiece
        (hvalue.slash_not_mem name List.mem_cons_self)
          (startsPiece_joinSegments _) hpath
      exact (ih hvalue.of_cons hafter).cons hwildcard
  | absent => simp at hpath
  | @optionalRest name found hline =>
      obtain rfl : found = value name := by simpa [substitute] using hpath
      simpa [RestsAreLines] using hline
  | @requiredRest name found _ hline =>
      obtain rfl : found = value name := by simpa [substitute] using hpath
      simpa [RestsAreLines] using hline

end

section

variable {template : String} {segments : List (List Char)} {pattern : Pattern}
  {value : List Char → List Char}

/-- A path made from a template gives back its values exactly when no rest has a
line feed in its value; otherwise the path is not matched at all. -/
theorem matches_substituted_iff (hcompile : compile template = .ok pattern)
    (hsegments : IsSegmented template.toList segments)
    (hvalue : IsAssignment segments value) :
    (pattern.matchPath? (substituted segments value) =
        some (pathParams (assigned segments value)) ↔
        RestsAreLines segments value) ∧
      (pattern.isMatch (substituted segments value) = true ↔
        RestsAreLines segments value) := by
  have hrules := ((compile_eq_ok_iff hsegments).1 hcompile).1
  have hlines {params : Params}
      (h : pattern.matchPath? (substituted segments value) = some params) :
      RestsAreLines segments value := by
    obtain ⟨pieces, values, hpieces, hpath, -⟩ :=
      (matchPath?_eq_some_iff hcompile hsegments).1 h
    rw [substituted, String.toList_ofList] at hpath
    exact hpieces.restsAreLines hvalue hpath
  have hmatch (h : RestsAreLines segments value) :
      pattern.matchPath? (substituted segments value) =
        some (pathParams (assigned segments value)) := by
    refine (matchPath?_eq_some_iff hcompile hsegments).2
      ⟨_, _, decomposes_substituted hrules hvalue h, ?_, rfl⟩
    rw [substituted, String.toList_ofList, joinSegments, List.flatMap_map,
      List.flatMap_def]
  refine ⟨⟨hlines, hmatch⟩, fun h => ?_, fun h => ?_⟩
  · obtain ⟨params, hparams⟩ := (pattern.isMatch_iff _).1 h
    exact hlines hparams
  · exact (pattern.isMatch_iff _).2 ⟨_, hmatch h⟩

end

/-- A named segment and a rest after a literal one. -/
def sharedSegments : List (List Char) := [['s', '.'], [':', 'x'], ['+', 'y']]

def sharedPattern : Pattern := ⟨"/s./:x/+y", sharedSegments.map .ofText⟩

def sharedValue (name : List Char) : List Char :=
  if name = ['x'] then ['b', '\n'] else ['/', 'a', '/']

theorem matches_substituted_shared :
    compile "/s./:x/+y" = .ok sharedPattern ∧
      IsSegmented "/s./:x/+y".toList sharedSegments ∧
      IsAssignment sharedSegments sharedValue ∧
      sharedPattern.matchPath? "/s./b\n//a/" =
        some ⟨.path, [("x", "b\n"), ("y", "/a/")]⟩ := by
  have hsegments : IsSegmented "/s./:x/+y".toList sharedSegments :=
    splitTemplate_eq_iff.1 rfl
  have hvalue : IsAssignment sharedSegments sharedValue := by
    constructor <;> simp [sharedSegments, sharedValue]
  have hlines : RestsAreLines sharedSegments sharedValue := by
    simp [RestsAreLines, sharedSegments, sharedValue]
  exact ⟨rfl, hsegments, hvalue,
    (matches_substituted_iff rfl hsegments hvalue).1.2 hlines⟩

/-- A rest does not take a line feed, so that its value does not come back. -/
theorem not_matches_substituted_lineFeed :
    ∃ pattern, compile "/+rest" = .ok pattern ∧
      IsSegmented "/+rest".toList ["+rest".toList] ∧
      IsAssignment ["+rest".toList] (fun _ => "a\nb".toList) ∧
      substituted ["+rest".toList] (fun _ => "a\nb".toList) = "/a\nb" ∧
      pattern.isMatch "/a\nb" = false ∧ pattern.matchPath? "/a\nb" = none := by
  refine ⟨⟨"/+rest", ["+rest".toList].map .ofText⟩, rfl,
    splitTemplate_eq_iff.1 rfl, ?_, rfl, ?_, ?_⟩
  · constructor <;> simp
  · decide +kernel
  · decide +kernel

end HttpEngine.Pattern
