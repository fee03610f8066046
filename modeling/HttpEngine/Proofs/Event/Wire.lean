import HttpEngine.Proofs.Event.Reader

/-!
# Lines of a written event

The data of an event is written as one field for each of its lines, however they
end.  A name or an id is written as it is, so that a line break in it puts lines
below its own.
-/

namespace HttpEngine

namespace EventStream

/-! ## Line ends of one kind -/

/-- The text with every line end replaced by a line feed. -/
def unifyEnds : List Char → List Char
  | [] => []
  | '\r' :: '\n' :: rest => '\n' :: unifyEnds rest
  | character :: rest =>
      (if character = '\r' then '\n' else character) :: unifyEnds rest

theorem return_not_mem_unifyEnds (text : List Char) :
    '\r' ∉ unifyEnds text := by
  fun_induction unifyEnds text with
  | case1 => simp
  | case2 rest ih => simpa using ih
  | case3 character rest hpair ih =>
      rw [List.mem_cons, not_or]
      refine ⟨?_, ih⟩
      split
      · decide
      · next hne => exact Ne.symm hne

/-- The lines of an event's data are what its line ends leave. -/
theorem lines_eq_splitOn (data : List Char) :
    Event.lines data = (unifyEnds data).splitOn '\n' := by
  fun_induction Event.lines data with
  | case1 => simp [unifyEnds]
  | case2 rest ih =>
      rw [unifyEnds, List.splitOn_cons_eq_if_modifyHead, ih]
      simp
  | case3 character rest hpair hend ih =>
      rw [unifyEnds, List.splitOn_cons_eq_if_modifyHead, ih]
      · rcases hend with rfl | rfl <;> simp
      · exact hpair
  | case4 character rest hpair hend ih =>
      rw [not_or] at hend
      rw [unifyEnds, List.splitOn_cons_eq_if_modifyHead, ih]
      · simp [hend]
      · exact hpair

theorem isUnbroken_of_mem_lines {data line : List Char}
    (h : line ∈ Event.lines data) :
    IsUnbroken line := by
  rw [lines_eq_splitOn] at h
  refine ⟨Sequence.not_mem_of_mem_splitOn h, fun hreturn => ?_⟩
  exact return_not_mem_unifyEnds data (Sequence.subset_of_mem_splitOn h hreturn)

/-! ## Lines below a line -/

/-- The part of a value that stays on the line it is written on. -/
def firstLine (value : List Char) : List Char :=
  value.takeWhile fun character => character != '\n' && character != '\r'

/-- The lines that a value puts below its own. -/
def linesBelow (value : List Char) : List (List Char) :=
  (lines (value ++ ['\n'])).tail

/-- A value and a line feed are the line the value begins on, and the lines
below it. -/
theorem linesFrom_append_lineFeed (line value rest : List Char) :
    linesFrom line (value ++ '\n' :: rest) =
      (line ++ firstLine value) :: (linesBelow value ++ linesFrom [] rest) := by
  induction value generalizing line rest with
  | nil => simp [linesFrom, firstLine, linesBelow, lines]
  | cons character value ih =>
      -- A line feed and a lone return end the line alike.
      have hend (hfirst : firstLine (character :: value) = [])
          (hfresh : ∀ line rest,
            linesFrom line (character :: value ++ '\n' :: rest) =
            line :: linesFrom [] (value ++ '\n' :: rest)) :
          linesFrom line (character :: value ++ '\n' :: rest) =
            (line ++ firstLine (character :: value)) ::
              (linesBelow (character :: value) ++ linesFrom [] rest) := by
        have hbelow : linesBelow (character :: value) =
            firstLine value :: linesBelow value := by
          rw [linesBelow, lines, hfresh, List.tail_cons, ih]
          simp [linesFrom]
        rw [hfresh, ih, hbelow, hfirst]
        simp
      by_cases hlineFeed : character = '\n'
      · subst hlineFeed
        exact hend (by simp [firstLine]) fun line rest =>
          linesFrom_lineFeed line _
      by_cases hreturn : character = '\r'
      · subst hreturn
        cases value with
        | nil => simp [linesFrom, firstLine, linesBelow, lines]
        | cons second value =>
            by_cases hsecond : second = '\n'
            · subst hsecond
              have hpair := ih [] rest
              rw [List.cons_append, linesFrom_lineFeed] at hpair
              simp only [List.cons_append, linesFrom_return_lineFeed,
                (List.cons.inj hpair).2]
              simp [firstLine, linesBelow, lines, linesFrom]
            · exact hend (by simp [firstLine]) fun line rest =>
                linesFrom_return_cons hsecond
      · have hbelow : linesBelow (character :: value) = linesBelow value := by
          rw [linesBelow, lines, List.cons_append,
            linesFrom_cons hlineFeed hreturn, ih]
          simp [linesFrom]
        have hfirst :
            firstLine (character :: value) = character :: firstLine value := by
          simp [firstLine, hlineFeed, hreturn]
        rw [List.cons_append, linesFrom_cons hlineFeed hreturn, ih,
          hbelow, hfirst]
        simp

theorem IsUnbroken.firstLine_eq {value : List Char} (h : IsUnbroken value) :
    firstLine value = value := by
  induction value with
  | nil => rfl
  | cons character value ih =>
      obtain ⟨hlineFeed, hreturn, hvalue⟩ := IsUnbroken.cons_iff.1 h
      rw [firstLine, List.takeWhile_cons_of_pos (by simp [hlineFeed, hreturn])]
      exact congrArg _ (ih hvalue)

theorem IsUnbroken.linesBelow_eq {value : List Char} (h : IsUnbroken value) :
    linesBelow value = [] := by
  rw [linesBelow, lines, linesFrom_append h, linesFrom_lineFeed]
  rfl

theorem linesBelow_lineFeed (value : List Char) :
    linesBelow ('\n' :: value) = firstLine value :: linesBelow value := by
  rw [linesBelow, lines, List.cons_append, linesFrom_lineFeed, List.tail_cons,
    linesFrom_append_lineFeed]
  simp [linesFrom]

theorem linesBelow_return_cons_ne_nil (character : Char) (value : List Char) :
    linesBelow ('\r' :: character :: value) ≠ [] := by
  rw [linesBelow, lines]
  by_cases hpair : character = '\n'
  · subst hpair
    simp only [List.cons_append, linesFrom_return_lineFeed, List.tail_cons,
      linesFrom_append_lineFeed]
    exact List.cons_ne_nil _ _
  · rw [List.cons_append, List.cons_append, linesFrom_return_cons hpair,
      List.tail_cons, ← List.cons_append, linesFrom_append_lineFeed]
    exact List.cons_ne_nil _ _

theorem linesBelow_cons {character : Char} (hlineFeed : character ≠ '\n')
    (hreturn : character ≠ '\r') (value : List Char) :
    linesBelow (character :: value) = linesBelow value := by
  rw [linesBelow, lines, List.cons_append, linesFrom_cons hlineFeed hreturn,
    linesFrom_append_lineFeed]
  simp [linesFrom]

/-- No line ends in the value, but for a return at its very end. -/
def StaysOnLine (value : List Char) : Prop :=
  ∃ kept, IsUnbroken kept ∧ (value = kept ∨ value = kept ++ ['\r'])

theorem linesBelow_eq_nil_iff {value : List Char} :
    linesBelow value = [] ↔ StaysOnLine value := by
  constructor
  · intro h
    induction value with
    | nil => exact ⟨[], ⟨by simp, by simp⟩, .inl rfl⟩
    | cons character value ih =>
        by_cases hlineFeed : character = '\n'
        · subst hlineFeed
          rw [linesBelow_lineFeed] at h
          contradiction
        by_cases hreturn : character = '\r'
        · subst hreturn
          cases value with
          | nil => exact ⟨[], ⟨by simp, by simp⟩, .inr rfl⟩
          | cons second value =>
              exact absurd h (linesBelow_return_cons_ne_nil second value)
        · rw [linesBelow_cons hlineFeed hreturn] at h
          obtain ⟨kept, hkept, hvalue⟩ := ih h
          refine ⟨character :: kept,
            IsUnbroken.cons_iff.2 ⟨hlineFeed, hreturn, hkept⟩, ?_⟩
          exact hvalue.imp (congrArg _) (congrArg _)
  · rintro ⟨kept, hkept, rfl | rfl⟩
    · exact hkept.linesBelow_eq
    · rw [linesBelow, lines, List.append_assoc, linesFrom_append hkept]
      rfl

/-! ## Lines of an event -/

theorem linesFrom_field {name : String} (hname : IsUnbroken name.toList)
    (value rest : List Char) :
    linesFrom [] (Event.field name value ++ rest) =
      fieldLine name (firstLine value) ::
        (linesBelow value ++ linesFrom [] rest) := by
  have hprefix : IsUnbroken (name.toList ++ [':', ' ']) := by
    constructor
    · simp [hname.lineFeed_not_mem]
    · simp [hname.return_not_mem]
  have hfield : Event.field name value ++ rest =
      name.toList ++ [':', ' '] ++ (value ++ '\n' :: rest) := by
    simp [Event.field]
  rw [hfield, linesFrom_append hprefix, linesFrom_append_lineFeed]
  simp [fieldLine]

/-- The lines that a name or an id is written on. -/
def optionalLines (name : String) : Option String → List (List Char)
  | none => []
  | some value =>
      fieldLine name (firstLine value.toList) :: linesBelow value.toList

theorem linesFrom_optionalField {name : String} (hname : IsUnbroken name.toList)
    (value : Option String) (rest : List Char) :
    linesFrom [] (Event.optionalField name value ++ rest) =
      optionalLines name value ++ linesFrom [] rest := by
  cases value with
  | none => rfl
  | some value =>
      rw [Event.optionalField, linesFrom_field hname, optionalLines,
        List.cons_append]

def dataLines (event : Event) : List (List Char) :=
  ((unifyEnds event.data.toList).splitOn '\n').map (fieldLine "data")

theorem linesFrom_flatMap_field {values : List (List Char)}
    (h : ∀ value ∈ values, IsUnbroken value) (rest : List Char) :
    linesFrom [] (values.flatMap (Event.field "data") ++ rest) =
      values.map (fieldLine "data") ++ linesFrom [] rest := by
  induction values with
  | nil => rfl
  | cons value values ih =>
      obtain ⟨hvalue, hvalues⟩ := List.forall_mem_cons.1 h
      have hname : IsUnbroken "data".toList := ⟨by decide, by decide⟩
      rw [List.flatMap_cons, List.append_assoc, linesFrom_field hname,
        hvalue.firstLine_eq, hvalue.linesBelow_eq, ih hvalues]
      rfl

/-- The lines of an event before the blank one. -/
def fieldLines (event : Event) : List (List Char) :=
  optionalLines "event" event.name ++ optionalLines "id" event.id ++
    dataLines event

theorem linesFrom_wireChars (event : Event) (rest : List Char) :
    linesFrom [] (event.wireChars ++ rest) =
      fieldLines event ++ [] :: linesFrom [] rest := by
  have hevent : IsUnbroken "event".toList := ⟨by decide, by decide⟩
  have hid : IsUnbroken "id".toList := ⟨by decide, by decide⟩
  simp only [Event.wireChars, List.append_assoc, linesFrom_optionalField hevent,
    linesFrom_optionalField hid]
  rw [linesFrom_flatMap_field fun _ => isUnbroken_of_mem_lines,
    List.singleton_append, linesFrom_lineFeed, lines_eq_splitOn]
  simp [fieldLines, dataLines]

/-- What a reader has of an event's name and id when its data begins. -/
def draftOf (event : Event) : Draft :=
  (optionalLines "event" event.name ++
    optionalLines "id" event.id).foldl Draft.absorb .empty

/-- The data of an event follows whatever its name and id have been read as. -/
theorem readLines_wireChars {event : Event} (h : [] ∉ fieldLines event)
    (rest : List Char) :
    readLines .empty (linesFrom [] (event.wireChars ++ rest)) =
      { draftOf event with
        data :=
          (draftOf event).data ++
            (unifyEnds event.data.toList).splitOn '\n' }.event?.toList ++
          readLines .empty (linesFrom [] rest) := by
  rw [linesFrom_wireChars, readLines_append_blank h, fieldLines,
    List.foldl_append, dataLines, Draft.foldl_absorb_data, draftOf]

end EventStream

end HttpEngine
