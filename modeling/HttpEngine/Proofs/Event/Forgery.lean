import HttpEngine.Proofs.Event.Wire

/-!
# Events that stand alone

A written event should be one event in the stream, whatever its texts are.  Its
data is; a name or an id that puts lines below its own forges fields or whole
events with them.  It goes unnoticed only when the one line below is a field
that the event lacks.
-/

namespace HttpEngine

namespace EventStream

/-- The text before the first colon of the line is the name. -/
def isLineOf (name : String) (line : List Char) : Bool :=
  (Sequence.cutAt? ':' line).any fun cut => cut.1 == name.toList

/-- Neither the blank line nor one for a name or an id. -/
def isOtherLine (line : List Char) : Bool :=
  line != [] && !isLineOf "event" line && !isLineOf "id" line

/-- The wire text is one event to a reader: no line in it but those that one
event has. -/
structure StandsAlone (event : Event) : Prop where
  blank_at_end : ∃ fields, lines event.wireChars = fields ++ [[]] ∧ [] ∉ fields
  names_le_one : (lines event.wireChars).countP (isLineOf "event") ≤ 1
  ids_le_one : (lines event.wireChars).countP (isLineOf "id") ≤ 1
  others_eq : (lines event.wireChars).filter isOtherLine = dataLines event
  read_once : ∃ single, read event.wireChars = [single]

/-- The lines that the name and the id put below their own. -/
def strayLines (event : Event) : List (List Char) :=
  (event.name.toList ++ event.id.toList).flatMap fun value =>
    linesBelow value.toList

/-! ## Counting lines -/

variable (event : Event)

theorem isLineOf_fieldLine {name : String} (h : ':' ∉ name.toList)
    (other : String) (value : List Char) :
    isLineOf other (fieldLine name value) = (name.toList == other.toList) := by
  rw [isLineOf, fieldLine, Sequence.cutAt?_append_cons h]
  rfl

theorem isOtherLine_fieldLine {name : String} (h : ':' ∉ name.toList)
    (value : List Char) :
    isOtherLine (fieldLine name value) =
      (!(name.toList == "event".toList) && !(name.toList == "id".toList)) := by
  have hne : (fieldLine name value != []) = true :=
    bne_iff_ne.2 (fieldLine_ne_nil name value)
  rw [isOtherLine, hne, isLineOf_fieldLine h, isLineOf_fieldLine h,
    Bool.true_and]

theorem ne_nil_of_isLineOf {name : String} {line : List Char}
    (h : isLineOf name line) :
    line ≠ [] := by
  rintro rfl
  contradiction

theorem isLineOf_of_ne {name other : String} {line : List Char}
    (h : isLineOf name line) (hne : name ≠ other) :
    isLineOf other line = false := by
  rw [isLineOf] at h ⊢
  cases hcut : Sequence.cutAt? ':' line with
  | none => rfl
  | some cut =>
      rw [hcut, Option.any_some, beq_iff_eq] at h
      rw [Option.any_some, h, beq_eq_false_iff_ne, ne_eq, String.toList_inj]
      exact hne

theorem countP_optionalLines {p : List Char → Bool} {name : String}
    {counted : Bool} (h : ∀ value, p (fieldLine name value) = counted)
    (value : Option String) :
    (optionalLines name value).countP p =
      (if counted then value.toList.length else 0) +
        (value.toList.flatMap fun value =>
          linesBelow value.toList).countP p := by
  cases value with
  | none => cases counted <;> rfl
  | some value => cases counted <;> simp [optionalLines, h, Nat.add_comm]

theorem countP_fieldLines {p : List Char → Bool} {names ids : Bool}
    (hname : ∀ value, p (fieldLine "event" value) = names)
    (hid : ∀ value, p (fieldLine "id" value) = ids)
    (hdata : ∀ value, p (fieldLine "data" value) = false) :
    (fieldLines event).countP p =
      (if names then event.name.toList.length else 0) +
        (if ids then event.id.toList.length else 0) +
        (strayLines event).countP p := by
  have hnone : (dataLines event).countP p = 0 := by
    rw [dataLines, List.countP_map, List.countP_eq_zero]
    simp [hdata]
  simp only [fieldLines, strayLines, List.countP_append,
    countP_optionalLines hname,
    countP_optionalLines hid, hnone, List.flatMap_append]
  omega

theorem countP_event_fieldLines :
    (fieldLines event).countP (isLineOf "event") =
      event.name.toList.length + (strayLines event).countP (isLineOf "event") :=
  countP_fieldLines event (isLineOf_fieldLine (by decide) "event")
    (isLineOf_fieldLine (by decide) "event")
      (isLineOf_fieldLine (by decide) "event")

theorem countP_id_fieldLines :
    (fieldLines event).countP (isLineOf "id") =
      event.id.toList.length + (strayLines event).countP (isLineOf "id") := by
  rw [countP_fieldLines event (isLineOf_fieldLine (by decide) "id")
    (isLineOf_fieldLine (by decide) "id") (isLineOf_fieldLine (by decide) "id")]
  exact congrArg (· + _) (Nat.zero_add _)

theorem filter_optionalLines {name : String}
    (h : ∀ value, isOtherLine (fieldLine name value) = false)
    (value : Option String) :
    (optionalLines name value).filter isOtherLine =
      (value.toList.flatMap fun value => linesBelow value.toList).filter
        isOtherLine := by
  cases value with
  | none => rfl
  | some value => simp [optionalLines, h]

theorem filter_fieldLines :
    (fieldLines event).filter isOtherLine =
      (strayLines event).filter isOtherLine ++ dataLines event := by
  have hname : ∀ value, isOtherLine (fieldLine "event" value) = false :=
    isOtherLine_fieldLine (by decide)
  have hid : ∀ value, isOtherLine (fieldLine "id" value) = false :=
    isOtherLine_fieldLine (by decide)
  have hdata : (dataLines event).filter isOtherLine = dataLines event := by
    rw [dataLines, List.filter_map, List.filter_eq_self.2]
    exact fun value _ => isOtherLine_fieldLine (by decide) value
  simp only [fieldLines, strayLines, List.filter_append,
    List.flatMap_append, hdata,
    filter_optionalLines hname, filter_optionalLines hid]

theorem nil_mem_fieldLines : [] ∈ fieldLines event ↔ [] ∈ strayLines event := by
  have hblank (name : String) (value : List Char) :
      (fieldLine name value == []) = false :=
    beq_eq_false_iff_ne.2 (fieldLine_ne_nil name value)
  rw [← List.count_pos_iff, ← List.count_pos_iff, List.count_eq_countP,
    countP_fieldLines event (hblank "event") (hblank "id") (hblank "data")]
  simp [List.count_eq_countP]

/-! ## The exact condition -/

variable {event}

theorem lines_wireChars : lines event.wireChars = fieldLines event ++ [[]] := by
  rw [lines, ← List.append_nil event.wireChars, linesFrom_wireChars]
  rfl

theorem read_wireChars (h : [] ∉ fieldLines event) :
    ∃ single, read event.wireChars = [single] := by
  have hread := readLines_wireChars h []
  rw [List.append_nil] at hread
  have hdata :
      (draftOf event).data ++ (unifyEnds event.data.toList).splitOn '\n' ≠
        [] := by
    apply List.append_ne_nil_of_right_ne_nil
    apply List.splitOn_ne_nil
  rw [read, lines, hread, Draft.event?, if_neg hdata]
  exact ⟨_, rfl⟩

theorem standsAlone_iff_strayLines :
    StandsAlone event ↔
      [] ∉ strayLines event ∧ (strayLines event).filter isOtherLine = [] ∧
        event.name.toList.length +
          (strayLines event).countP (isLineOf "event") ≤ 1 ∧
          event.id.toList.length + (strayLines event).countP (isLineOf "id") ≤
            1 := by
  have hevents : (lines event.wireChars).countP (isLineOf "event") =
      event.name.toList.length +
        (strayLines event).countP (isLineOf "event") := by
    rw [lines_wireChars, List.countP_append, countP_event_fieldLines]
    rfl
  have hids : (lines event.wireChars).countP (isLineOf "id") =
      event.id.toList.length + (strayLines event).countP (isLineOf "id") := by
    rw [lines_wireChars, List.countP_append, countP_id_fieldLines]
    rfl
  have hothers : (lines event.wireChars).filter isOtherLine =
      (strayLines event).filter isOtherLine ++ dataLines event := by
    rw [lines_wireChars, List.filter_append, filter_fieldLines]
    simp [isOtherLine]
  constructor
  · intro h
    refine ⟨?_, ?_, hevents ▸ h.names_le_one, hids ▸ h.ids_le_one⟩
    · obtain ⟨fields, hfields, hnil⟩ := h.blank_at_end
      rw [lines_wireChars] at hfields
      rw [← nil_mem_fieldLines, List.append_cancel_right hfields]
      exact hnil
    · have hrest := h.others_eq
      rw [hothers] at hrest
      exact List.append_left_eq_self.1 hrest
  · rintro ⟨hnil, hfilter, hname, hid⟩
    rw [← nil_mem_fieldLines] at hnil
    exact {
      blank_at_end := ⟨fieldLines event, lines_wireChars, hnil⟩
      names_le_one := hevents ▸ hname
      ids_le_one := hids ▸ hid
      others_eq := by rw [hothers, hfilter, List.nil_append]
      read_once := read_wireChars hnil
    }

theorem eq_nil_or_singleton {p q : List Char → Bool} {strays : List (List Char)}
    (h : ∀ line ∈ strays, p line ∨ q line) (hp : strays.countP p = 0)
    (hq : strays.countP q ≤ 1) :
    strays = [] ∨ ∃ line, strays = [line] ∧ q line := by
  rw [List.countP_eq_zero] at hp
  have hall : ∀ line ∈ strays, q line := by
    intro line hline
    exact (h line hline).resolve_left (hp line hline)
  rw [List.countP_eq_length.2 hall] at hq
  match strays, hall, hq with
  | [], _, _ => exact .inl rfl
  | [line], hall, _ => exact .inr ⟨line, rfl, hall line List.mem_cons_self⟩

theorem standsAlone_iff_singleton :
    StandsAlone event ↔
      strayLines event = [] ∨ ∃ line, strayLines event = [line] ∧
        (event.id = none ∧ isLineOf "id" line ∨ event.name = none ∧
          isLineOf "event" line) := by
  rw [standsAlone_iff_strayLines]
  constructor
  · rintro ⟨hnil, hfilter, hname, hid⟩
    have hknown : ∀ line ∈ strayLines event, isLineOf "event" line ∨
        isLineOf "id" line := by
      intro line hline
      have hne : line ≠ [] := fun hblank => hnil (hblank ▸ hline)
      have hother := List.filter_eq_nil_iff.1 hfilter line hline
      cases hevent : isLineOf "event" line with
      | true => exact .inl rfl
      | false => exact .inr (by simpa [isOtherLine, hne, hevent] using hother)
    cases hwithName : event.name with
    | some name =>
        rw [hwithName, Option.toList_some, List.length_singleton] at hname
        apply (eq_nil_or_singleton hknown (by omega) (by omega)).imp_right
        rintro ⟨line, hline, hisId⟩
        refine ⟨line, hline, .inl ⟨?_, hisId⟩⟩
        rw [hline, List.countP_singleton, if_pos hisId] at hid
        cases hwithId : event.id with
        | none => rfl
        | some id => simp [hwithId] at hid
    | none =>
        cases hwithId : event.id with
        | some id =>
            rw [hwithId, Option.toList_some, List.length_singleton] at hid
            have hswapped := fun line hline => (hknown line hline).symm
            apply (eq_nil_or_singleton hswapped (by omega) (by omega)).imp_right
            rintro ⟨line, hline, hisEvent⟩
            exact ⟨line, hline, .inr ⟨rfl, hisEvent⟩⟩
        | none => exact .inl (by rw [strayLines, hwithName, hwithId]; rfl)
  · have hlength (value : Option String) : value.toList.length ≤ 1 := by
      cases value <;> simp
    rintro (h | ⟨line, h, ⟨hid, hline⟩ | ⟨hname, hline⟩⟩)
    · rw [h]
      exact ⟨List.not_mem_nil, rfl, hlength event.name, hlength event.id⟩
    · have hother : isLineOf "event" line = false :=
        isLineOf_of_ne hline (by decide)
      rw [h, hid]
      refine ⟨?_, by simp [isOtherLine, hline], ?_, by simp [hline]⟩
      · simpa using (ne_nil_of_isLineOf hline).symm
      · simp [hother]
    · have hother : isLineOf "id" line = false :=
        isLineOf_of_ne hline (by decide)
      rw [h, hname]
      refine ⟨?_, by simp [isOtherLine, hline], by simp [hline], ?_⟩
      · simpa using (ne_nil_of_isLineOf hline).symm
      · simp [hother]

theorem strayLines_eq_nil_iff :
    strayLines event = [] ↔
      ∀ value, event.name = some value ∨ event.id = some value →
        StaysOnLine value.toList := by
  simp only [strayLines, List.flatMap_eq_nil_iff, List.mem_append,
    Option.mem_toList, linesBelow_eq_nil_iff]

/-- An event stands alone exactly when its name and id stay on their lines, or
put a single line below theirs that is a field the event lacks. -/
theorem standsAlone_iff (event : Event) :
    StandsAlone event ↔
      (∀ value, event.name = some value ∨ event.id = some value →
        StaysOnLine value.toList) ∨ ∃ line, strayLines event = [line] ∧
          (event.id = none ∧ isLineOf "id" line ∨ event.name = none ∧
            isLineOf "event" line) := by
  rw [standsAlone_iff_singleton, strayLines_eq_nil_iff]

/-- A name with line breaks in it brings a whole event of its own. -/
theorem not_standsAlone_of_forged :
    read (Event.wireChars ⟨some "a\ndata: forged\n", none, "x"⟩) =
        [⟨some "a", none, "forged"⟩, ⟨none, none, "x"⟩] ∧
      ¬ StandsAlone ⟨some "a\ndata: forged\n", none, "x"⟩ := by
  have hread : read (Event.wireChars ⟨some "a\ndata: forged\n", none, "x"⟩) =
      [⟨some "a", none, "forged"⟩, ⟨none, none, "x"⟩] := by decide
  refine ⟨hread, fun h => ?_⟩
  obtain ⟨single, hsingle⟩ := h.read_once
  rw [hread] at hsingle
  simp at hsingle

end EventStream

end HttpEngine
