import HttpEngine.Proofs.Route.Pattern
import HttpEngine.Proofs.Sequence.Cut
import Mathlib.Data.List.Pairwise

/-!
# Templates that compile

A template is cut at its slashes, and compiles exactly when the segments keep
three rules: every parameter has a proper name, no name stands twice, and only
the last segment may be a wildcard.  Of a template that breaks rules, the
leftmost segment that does is reported, with its misplaced wildcard before its
name, and the form of its name before the repetition.
-/

namespace HttpEngine.Pattern

/-! ## The segments of a template -/

/-- One slash at the beginning of a template says nothing. -/
def withoutSlash : List Char → List Char
  | '/' :: rest => rest
  | template => template

/-- A template is its segments with a slash between two of them, after a slash
that may be missing and in front of any number of slashes.  The first segment
may be empty and the only one. -/
structure IsSegmented (template : List Char) (segments : List (List Char)) :
    Prop where
  spelled :
    ∃ count, '/' :: withoutSlash template = joinSegments segments ++
      List.replicate count '/'
  slash_not_mem : ∀ segment ∈ segments, '/' ∉ segment
  ne_nil : segments ≠ []
  last_ne_nil : segments.tail.getLast? ≠ some []

theorem joinSegments_append (segments more : List (List Char)) :
    joinSegments (segments ++ more) = joinSegments segments ++
      joinSegments more := by
  simp [joinSegments]

theorem joinSegments_replicate (count : Nat) :
    joinSegments (List.replicate count []) = List.replicate count '/' := by
  induction count with
  | zero => rfl
  | succ count ih => rw [List.replicate_succ, joinSegments_cons, ih]; rfl

theorem joinSegments_eq_cons {segments : List (List Char)} (h : segments ≠ []) :
    joinSegments segments = '/' :: ['/'].intercalate segments := by
  induction segments with
  | nil => exact absurd rfl h
  | cons segment segments ih =>
      cases segments with
      | nil => simp
      | cons next segments =>
          rw [joinSegments_cons, ih (by simp), List.intercalate_cons_cons]
          simp

theorem splitOn_eq_iff {text : List Char} {pieces : List (List Char)} :
    text.splitOn '/' = pieces ↔
      '/' :: text = joinSegments pieces ∧ (∀ piece ∈ pieces, '/' ∉ piece) ∧
      pieces ≠ [] := by
  constructor
  · rintro rfl
    have hne := List.splitOn_ne_nil '/' text
    refine ⟨?_, fun piece => Sequence.not_mem_of_mem_splitOn, hne⟩
    rw [joinSegments_eq_cons hne, List.intercalate_splitOn]
  · rintro ⟨htext, hslash, hne⟩
    rw [joinSegments_eq_cons hne, List.cons.injEq] at htext
    rw [htext.2, List.splitOn_intercalate '/' hslash hne]

theorem rdropWhile_append_replicate (segments : List (List Char))
    (count : Nat) :
    (segments ++ List.replicate count []).rdropWhile List.isEmpty =
      segments.rdropWhile List.isEmpty := by
  induction count with
  | zero => simp
  | succ count ih =>
      rw [List.replicate_succ', ← List.append_assoc,
        List.rdropWhile_concat_pos _ _ _ rfl, ih]

theorem dropTrailingEmpty_eq_iff {pieces kept : List (List Char)}
    (h : pieces ≠ []) :
    dropTrailingEmpty pieces = kept ↔
      (∃ count, pieces = kept ++ List.replicate count []) ∧ kept ≠ [] ∧
        kept.tail.getLast? ≠ some [] := by
  obtain ⟨first, rest, rfl⟩ := List.exists_cons_of_ne_nil h
  have hdrop : dropTrailingEmpty (first :: rest) =
      first :: rest.rdropWhile List.isEmpty := rfl
  rw [hdrop]
  constructor
  · rintro rfl
    refine ⟨⟨(rest.rtakeWhile List.isEmpty).length, ?_⟩, by simp, ?_⟩
    · have hempty : rest.rtakeWhile List.isEmpty =
          List.replicate (rest.rtakeWhile List.isEmpty).length [] :=
        List.eq_replicate_iff.2 ⟨rfl, fun piece hpiece =>
          List.isEmpty_iff.1 (List.mem_rtakeWhile_imp hpiece)⟩
      rw [← hempty, List.cons_append, List.rdropWhile_append_rtakeWhile]
    · intro hlast
      rw [List.tail_cons] at hlast
      have hne : rest.rdropWhile List.isEmpty ≠ [] := by
        intro hnil
        rw [hnil] at hlast
        cases hlast
      rw [List.getLast?_eq_some_getLast hne, Option.some.injEq] at hlast
      exact List.rdropWhile_last_not _ _ hne (by rw [hlast]; rfl)
  · rintro ⟨⟨count, hpieces⟩, hne, hlast⟩
    obtain ⟨keptFirst, keptRest, rfl⟩ := List.exists_cons_of_ne_nil hne
    rw [List.cons_append, List.cons.injEq] at hpieces
    rw [hpieces.1, hpieces.2, rdropWhile_append_replicate,
      List.rdropWhile_eq_self_iff.2]
    intro hne hempty
    rw [List.isEmpty_iff] at hempty
    exact hlast (by rw [List.tail_cons,
      List.getLast?_eq_some_getLast hne, hempty])

theorem splitTemplate_eq_iff {template : List Char}
    {segments : List (List Char)} :
    splitTemplate template = segments ↔ IsSegmented template segments := by
  have hsplit : splitTemplate template =
      dropTrailingEmpty ((withoutSlash template).splitOn '/') := by
    unfold splitTemplate withoutSlash
    split <;> simp_all
  have hjoin (count : Nat) :
      joinSegments (segments ++ List.replicate count []) =
      joinSegments segments ++ List.replicate count '/' := by
    rw [joinSegments_append, joinSegments_replicate]
  rw [hsplit, dropTrailingEmpty_eq_iff (List.splitOn_ne_nil '/' _)]
  simp only [splitOn_eq_iff, hjoin]
  constructor
  · rintro ⟨⟨count, hspelled, hslash, -⟩, hne, hlast⟩
    exact ⟨⟨count, hspelled⟩,
      fun segment hsegment => hslash segment (by simp [hsegment]), hne, hlast⟩
  · rintro ⟨⟨count, hspelled⟩, hslash, hne, hlast⟩
    refine ⟨⟨count, hspelled, fun piece hpiece => ?_, by simp [hne]⟩,
      hne, hlast⟩
    rcases List.mem_append.1 hpiece with hsegment | hempty
    · exact hslash piece hsegment
    · simp [List.eq_of_mem_replicate hempty]

/-! ## Names -/

def IsLetter (character : Char) : Prop :=
  'a' ≤ character ∧ character ≤ 'z' ∨ 'A' ≤ character ∧ character ≤ 'Z'

/-- A letter, and letters and digits after it. -/
def IsName (name : List Char) : Prop :=
  ∃ first rest, name = first :: rest ∧ IsLetter first ∧
    ∀ character ∈ rest, IsLetter character ∨ '0' ≤ character ∧ character ≤ '9'

theorem isAlpha_iff {character : Char} :
    character.isAlpha = true ↔ IsLetter character := by
  delta Char.isAlpha Char.isUpper Char.isLower
  simp only [IsLetter, Bool.or_eq_true, Bool.and_eq_true, decide_eq_true_eq]
  exact or_comm

theorem isAlphanum_iff {character : Char} :
    character.isAlphanum = true ↔
      IsLetter character ∨ '0' ≤ character ∧ character ≤ '9' := by
  delta Char.isAlphanum Char.isDigit
  simp only [Bool.or_eq_true, isAlpha_iff, Bool.and_eq_true, decide_eq_true_eq]
  rfl

theorem isIdentifier_iff {name : List Char} :
    isIdentifier name = true ↔ IsName name := by
  cases name with
  | nil => simp [isIdentifier, IsName]
  | cons first rest =>
      simp [isIdentifier, IsName, isAlpha_iff, isAlphanum_iff, and_assoc]

/-! ## Rules for segments -/

/-- The segment stands for a parameter of the name. -/
def Declares (segment name : List Char) : Prop :=
  segment = ':' :: name ∨ segment = '*' :: name ∨ segment = '+' :: name

/-- The segment may take more than one segment of a path. -/
def IsWildcard (segment : List Char) : Prop :=
  ∃ name, segment = '*' :: name ∨ segment = '+' :: name

theorem plain_or_declares (segment : List Char) :
    (∀ name, ¬ Declares segment name) ∨ ∃ name, Declares segment name :=
  (Classical.em (∃ name, Declares segment name)).symm.imp_left not_exists.1

/-- What is wrong with a segment between others: of several faults the first one
of the three. -/
inductive Breaks (template : String) (before : List (List Char))
    (segment : List Char) (after : List (List Char)) : PatternError → Prop where
  | misplaced (hwildcard : IsWildcard segment) (hfollowed : after ≠ []) :
      Breaks template before segment after
        (.misplacedWildcard (String.ofList segment))
  | unnamed {name : List Char} (hdeclared : Declares segment name)
      (hplaced : IsWildcard segment → after = []) (hnot_name : ¬ IsName name) :
      Breaks template before segment after
        (.invalidIdentifier (String.ofList name))
  | repeated {name earlier : List Char} (hdeclared : Declares segment name)
      (hplaced : IsWildcard segment → after = []) (hnamed : IsName name)
      (hearlier_mem : earlier ∈ before)
      (hearlier_declared : Declares earlier name) :
      Breaks template before segment after
        (.duplicateIdentifier (String.ofList name) template)

/-- Behind the segments that were passed, the fault of the leftmost segment that
breaks a rule. -/
def FirstFault (template : String) (passed segments : List (List Char))
    (fault : PatternError) :
    Prop :=
  ∃ before segment after, segments = before ++ segment :: after ∧
    Breaks template (passed ++ before) segment after fault ∧
    ∀ earlier other later, before = earlier ++ other :: later → ∀ otherFault,
      ¬ Breaks template (passed ++ earlier) other (later ++ segment :: after)
        otherFault

structure KeepsRules (segments : List (List Char)) : Prop where
  named : ∀ segment ∈ segments, ∀ name, Declares segment name → IsName name
  distinct : segments.Pairwise fun earlier later =>
    ∀ name, Declares earlier name → ¬ Declares later name
  wildcard_last : ∀ segment ∈ segments.dropLast, ¬ IsWildcard segment

theorem keepsRules_nil : KeepsRules [] := by
  constructor <;> simp

theorem keepsRules_cons_iff {segment : List Char}
    {segments : List (List Char)} :
    KeepsRules (segment :: segments) ↔
      (IsWildcard segment → segments = []) ∧
        (∀ name, Declares segment name →
          IsName name ∧ ∀ later ∈ segments, ¬ Declares later name) ∧
        KeepsRules segments := by
  constructor
  · rintro ⟨hnamed, hdistinct, hlast⟩
    rw [List.pairwise_cons] at hdistinct
    refine ⟨fun hwildcard => ?_, fun name hname => ⟨?_, ?_⟩, ?_,
      hdistinct.2, ?_⟩
    · by_contra hne
      exact hlast segment (by simp [List.dropLast_cons_of_ne_nil hne]) hwildcard
    · exact hnamed segment List.mem_cons_self name hname
    · exact fun later hlater => hdistinct.1 later hlater name hname
    · exact fun other hother => hnamed other (List.mem_cons_of_mem _ hother)
    · intro other hother
      have hne : segments ≠ [] := by rintro rfl; cases hother
      exact hlast other (by simp [List.dropLast_cons_of_ne_nil hne, hother])
  · rintro ⟨hwildcard, hname, hnamed, hdistinct, hlast⟩
    refine ⟨?_, ?_, ?_⟩
    · exact List.forall_mem_cons.2 ⟨fun name hdeclared =>
        (hname name hdeclared).1, hnamed⟩
    · rw [List.pairwise_cons]
      exact ⟨fun later hlater name hdeclared =>
        (hname name hdeclared).2 later hlater, hdistinct⟩
    · cases segments with
      | nil => simp
      | cons next segments =>
          rw [List.dropLast_cons_of_ne_nil (by simp)]
          exact List.forall_mem_cons.2 ⟨fun h => by
            simpa using hwildcard h, hlast⟩

/-! ## The check of one segment -/

theorem toText_ofText (segment : List Char) :
    (Segment.ofText segment).toText = segment := by
  unfold Segment.ofText
  split <;> rfl

theorem name?_ofText_eq_some_iff {segment name : List Char} :
    (Segment.ofText segment).name? = some name ↔ Declares segment name := by
  unfold Segment.ofText
  split <;> simp_all [Segment.name?, Declares]

theorem name?_ofText_eq_none_iff {segment : List Char} :
    (Segment.ofText segment).name? = none ↔
      ∀ name, ¬ Declares segment name := by
  simp [Option.eq_none_iff_forall_ne_some, name?_ofText_eq_some_iff]

theorem isRest_ofText_iff {segment : List Char} :
    (Segment.ofText segment).isRest = true ↔ IsWildcard segment := by
  unfold Segment.ofText
  split <;> simp_all [Segment.isRest, IsWildcard]

theorem IsWildcard.declares {segment : List Char} (h : IsWildcard segment) :
    ∃ name, Declares segment name := by
  obtain ⟨name, hname⟩ := h
  exact ⟨name, .inr hname⟩

theorem Declares.unique {segment first second : List Char}
    (hfirst : Declares segment first) (hsecond : Declares segment second) :
    first = second := by
  rw [← name?_ofText_eq_some_iff] at hfirst hsecond
  exact Option.some.inj (hfirst.symm.trans hsecond)

section

variable {template : String} {seen before after : List (List Char)}
  {segment : List Char} {fault : PatternError}

theorem not_breaks_of_plain (h : ∀ name, ¬ Declares segment name) :
    ¬ Breaks template before segment after fault := by
  rintro (⟨hwildcard, -⟩ | ⟨hdeclared, -⟩ | ⟨hdeclared, -⟩)
  · exact hwildcard.declares.elim h
  · exact h _ hdeclared
  · exact h _ hdeclared

theorem Declares.breaks_iff {name : List Char} (h : Declares segment name) :
    Breaks template before segment after fault ↔
      IsWildcard segment ∧ after ≠ [] ∧
      .misplacedWildcard (String.ofList segment) = fault ∨
      (IsWildcard segment → after = []) ∧
        (¬ IsName name ∧ .invalidIdentifier (String.ofList name) = fault ∨
          IsName name ∧ (∃ earlier ∈ before, Declares earlier name) ∧
            .duplicateIdentifier (String.ofList name) template = fault) := by
  constructor
  · rintro (⟨hwildcard, hfollowed⟩ | ⟨hdeclared, hplaced, hname⟩ |
      ⟨hdeclared, hplaced, hname, hmem, hearlier⟩)
    · exact .inl ⟨hwildcard, hfollowed, rfl⟩
    · obtain rfl := h.unique hdeclared
      exact .inr ⟨hplaced, .inl ⟨hname, rfl⟩⟩
    · obtain rfl := h.unique hdeclared
      exact .inr ⟨hplaced, .inr ⟨hname, ⟨_, hmem, hearlier⟩, rfl⟩⟩
  · rintro (⟨hwildcard, hfollowed, rfl⟩ | ⟨hplaced, ⟨hname, rfl⟩ |
      ⟨hname, ⟨earlier, hmem, hearlier⟩, rfl⟩⟩)
    · exact .misplaced hwildcard hfollowed
    · exact .unnamed h hplaced hname
    · exact .repeated h hplaced hname hmem hearlier

theorem segmentFault?_eq_some_iff
    (hseen : ∀ name, name ∈ seen ↔ ∃ earlier ∈ before, Declares earlier name) :
    segmentFault? template seen (.ofText segment) after.isEmpty = some fault ↔
      Breaks template before segment after fault := by
  unfold segmentFault?
  cases hname : (Segment.ofText segment).name? with
  | none =>
      simp [not_breaks_of_plain (name?_ofText_eq_none_iff.1 hname)]
  | some name =>
      rw [(name?_ofText_eq_some_iff.1 hname).breaks_iff, ← hseen,
        ← isIdentifier_iff]
      by_cases hwildcard : IsWildcard segment <;> by_cases hlast :
        after = [] <;>
        by_cases hnamed : isIdentifier name = true <;> by_cases hrepeated :
          name ∈ seen <;>
        simp [isRest_ofText_iff, toText_ofText, hwildcard, hlast, hnamed,
          hrepeated]

theorem segmentFault?_eq_none_iff :
    segmentFault? template seen (.ofText segment) after.isEmpty = none ↔
      (IsWildcard segment → after = []) ∧
        ∀ name, Declares segment name → IsName name ∧ name ∉ seen := by
  unfold segmentFault?
  cases hname : (Segment.ofText segment).name? with
  | none =>
      have hplain := name?_ofText_eq_none_iff.1 hname
      have hwildcard : ¬ IsWildcard segment := fun h => h.declares.elim hplain
      simp [hplain, hwildcard]
  | some name =>
      have hdeclares (other : List Char) : Declares segment other ↔
          name = other := by
        rw [← name?_ofText_eq_some_iff, hname, Option.some.injEq]
      simp only [hdeclares, forall_eq', ← isIdentifier_iff]
      by_cases hwildcard : IsWildcard segment <;> by_cases hlast :
        after = [] <;>
        cases isIdentifier name <;> simp [isRest_ofText_iff, hwildcard, hlast]

end

/-! ## The check of all segments -/

theorem mem_name?_toList_append_iff {name segment : List Char}
    {seen : List (List Char)} :
    name ∈ (Segment.ofText segment).name?.toList ++ seen ↔
      Declares segment name ∨ name ∈ seen := by
  rw [List.mem_append, Option.mem_toList, name?_ofText_eq_some_iff]

theorem checkSegments_of_fault {template : String}
    {seen segments : List (List Char)} {segment : List Char}
    {fault : PatternError}
    (h : segmentFault? template seen (.ofText segment) segments.isEmpty =
      some fault) :
    checkSegments template seen ((segment :: segments).map .ofText) =
      .error fault := by
  rw [List.map_cons, checkSegments, List.isEmpty_map, h]

theorem checkSegments_of_no_fault {template : String}
    {seen segments : List (List Char)} {segment : List Char}
    (h : segmentFault? template seen (.ofText segment) segments.isEmpty =
      none) :
    checkSegments template seen ((segment :: segments).map .ofText) =
      checkSegments template ((Segment.ofText segment).name?.toList ++ seen)
        (segments.map .ofText) := by
  rw [List.map_cons, checkSegments, List.isEmpty_map, h]

theorem checkSegments_eq_ok_iff {template : String}
    {seen segments : List (List Char)} :
    checkSegments template seen (segments.map .ofText) = .ok () ↔
      KeepsRules segments ∧
        ∀ segment ∈ segments, ∀ name, Declares segment name → name ∉ seen := by
  induction segments generalizing seen with
  | nil => simp [checkSegments, keepsRules_nil]
  | cons segment segments ih =>
      rw [keepsRules_cons_iff, List.forall_mem_cons]
      have hfault :
        segmentFault? template seen (.ofText segment) segments.isEmpty = none ↔
          (IsWildcard segment → segments = []) ∧
            ∀ name, Declares segment name → IsName name ∧ name ∉ seen :=
        segmentFault?_eq_none_iff
      cases hcase :
        segmentFault? template seen (.ofText segment) segments.isEmpty with
      | some fault =>
          rw [checkSegments_of_fault hcase]
          rw [hcase] at hfault
          constructor
          · rintro ⟨⟩
          · rintro ⟨⟨hwildcard, hname, -⟩, hunseen, -⟩
            exact absurd (hfault.2 ⟨hwildcard, fun name hdeclared =>
              ⟨(hname name hdeclared).1, hunseen name hdeclared⟩⟩) (by simp)
      | none =>
          obtain ⟨hwildcard, hname⟩ := hfault.1 hcase
          rw [checkSegments_of_no_fault hcase, ih]
          simp only [mem_name?_toList_append_iff, not_or]
          constructor
          · rintro ⟨hrules, hlater⟩
            refine ⟨⟨hwildcard,
              fun name hdeclared => ⟨(hname name hdeclared).1, ?_⟩, hrules⟩,
              fun name hdeclared => (hname name hdeclared).2, ?_⟩
            · exact fun later hmem hagain =>
                (hlater later hmem name hagain).1 hdeclared
            · exact fun later hmem name hdeclared =>
                (hlater later hmem name hdeclared).2
          · rintro ⟨⟨-, hdistinct, hrules⟩, -, hlater⟩
            refine ⟨hrules,
              fun later hmem name hdeclared => ⟨fun hfirst => ?_, ?_⟩⟩
            · exact (hdistinct name hfirst).2 later hmem hdeclared
            · exact hlater later hmem name hdeclared

/-- A segment without a fault can be counted among those that were passed. -/
theorem firstFault_cons_iff {template : String}
    {passed segments : List (List Char)} {segment : List Char}
    (h : ∀ fault, ¬ Breaks template passed segment segments fault)
    {fault : PatternError} :
    FirstFault template passed (segment :: segments) fault ↔
      FirstFault template (passed ++ [segment]) segments fault := by
  constructor
  · rintro ⟨before, faulty, after, hsplit, hbreaks, hfirst⟩
    cases before with
    | nil =>
        obtain ⟨rfl, rfl⟩ := List.cons.inj hsplit
        exact absurd (by simpa using hbreaks) (h fault)
    | cons first before =>
        obtain ⟨rfl, rfl⟩ := List.cons.inj hsplit
        refine ⟨before, faulty, after, rfl, by simpa using hbreaks, ?_⟩
        rintro earlier other later rfl
        simpa using hfirst (segment :: earlier) other later rfl
  · rintro ⟨before, faulty, after, rfl, hbreaks, hfirst⟩
    refine ⟨segment :: before, faulty, after, rfl, by simpa using hbreaks, ?_⟩
    intro earlier other later hsplit
    cases earlier with
    | nil =>
        obtain ⟨rfl, rfl⟩ := List.cons.inj hsplit
        simpa using h
    | cons first earlier =>
        obtain ⟨rfl, rfl⟩ := List.cons.inj hsplit
        simpa using hfirst earlier other later rfl

theorem firstFault_iff_of_breaks {template : String}
    {passed segments : List (List Char)} {segment : List Char}
    {first : PatternError} (h : Breaks template passed segment segments first)
    {fault : PatternError} :
    FirstFault template passed (segment :: segments) fault ↔
      Breaks template passed segment segments fault := by
  constructor
  · rintro ⟨before, faulty, after, hsplit, hbreaks, hfirst⟩
    cases before with
    | nil =>
        obtain ⟨rfl, rfl⟩ := List.cons.inj hsplit
        simpa using hbreaks
    | cons other before =>
        obtain ⟨rfl, rfl⟩ := List.cons.inj hsplit
        exact absurd (by simpa using h) (hfirst [] segment before rfl first)
  · intro hbreaks
    exact ⟨[], segment, segments, rfl, by simpa using hbreaks, by simp⟩

theorem checkSegments_eq_error_iff {template : String}
    {seen passed segments : List (List Char)}
    (hseen : ∀ name, name ∈ seen ↔ ∃ earlier ∈ passed, Declares earlier name)
    {fault : PatternError} :
    checkSegments template seen (segments.map .ofText) = .error fault ↔
      FirstFault template passed segments fault := by
  induction segments generalizing seen passed with
  | nil => simp [checkSegments, FirstFault]
  | cons segment segments ih =>
      have hbreaks (other : PatternError) :
          segmentFault? template seen (.ofText segment) segments.isEmpty =
            some other ↔
            Breaks template passed segment segments other :=
              segmentFault?_eq_some_iff hseen
      cases hcase :
        segmentFault? template seen (.ofText segment) segments.isEmpty with
      | some first =>
          simp only [hcase, Option.some.injEq] at hbreaks
          rw [checkSegments_of_fault hcase,
            firstFault_iff_of_breaks ((hbreaks first).1 rfl),
            ← hbreaks, Except.error.injEq]
      | none =>
          simp only [hcase, reduceCtorEq, false_iff] at hbreaks
          rw [checkSegments_of_no_fault hcase, firstFault_cons_iff hbreaks]
          refine ih fun name => ?_
          rw [mem_name?_toList_append_iff, hseen]
          simp [or_and_right, exists_or, or_comm]

/-! ## Compilation -/

section

variable {template : String} {segments : List (List Char)}

theorem compile_eq_ok_iff (h : IsSegmented template.toList segments)
    {pattern : Pattern} :
    compile template = .ok pattern ↔
      KeepsRules segments ∧ pattern = ⟨template, segments.map .ofText⟩ := by
  have hok : checkSegments template [] (segments.map .ofText) = .ok () ↔
      KeepsRules segments := by
    rw [checkSegments_eq_ok_iff]
    simp
  rw [← hok, compile, splitTemplate_eq_iff.2 h]
  cases checkSegments template [] (segments.map .ofText) with
  | ok => simp [eq_comm]
  | error fault => simp

theorem compile_eq_error_iff (h : IsSegmented template.toList segments)
    {fault : PatternError} :
    compile template = .error fault ↔
      FirstFault template [] segments fault := by
  have herror :
      checkSegments template [] (segments.map .ofText) = .error fault ↔
      FirstFault template [] segments fault :=
        checkSegments_eq_error_iff (by simp)
  rw [← herror, compile, splitTemplate_eq_iff.2 h]
  cases checkSegments template [] (segments.map .ofText) <;> simp

/-- A template compiles, to its segments, exactly when they keep the rules;
otherwise its fault is that of the leftmost segment that breaks one. -/
theorem compile_eq_iff (h : IsSegmented template.toList segments) :
    (∀ pattern, compile template = .ok pattern ↔
        KeepsRules segments ∧ pattern = ⟨template, segments.map .ofText⟩) ∧
      ∀ fault, compile template = .error fault ↔
        FirstFault template [] segments fault :=
  ⟨fun _ => compile_eq_ok_iff h, fun _ => compile_eq_error_iff h⟩

/-- Of two segments that break a rule the one further left is reported. -/
theorem compile_eq_iff_misplaced :
    IsSegmented "//:a/*b/:a//".toList ["".toList, ":a".toList, "*b".toList,
      ":a".toList] ∧ compile "//:a/*b/:a//" = .error (.misplacedWildcard "*b") ∧
      FirstFault "//:a/*b/:a//" [] ["".toList, ":a".toList, "*b".toList,
        ":a".toList] (.misplacedWildcard "*b") := by
  have hsegmented : IsSegmented "//:a/*b/:a//".toList
      ["".toList, ":a".toList, "*b".toList, ":a".toList] :=
        splitTemplate_eq_iff.1 rfl
  have hcompile : compile "//:a/*b/:a//" = .error (.misplacedWildcard "*b") :=
    rfl
  exact ⟨hsegmented, hcompile, ((compile_eq_iff hsegmented).2 _).1 hcompile⟩

end

end HttpEngine.Pattern
