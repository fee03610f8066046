import HttpEngine.Event.Basic
import HttpEngine.Proofs.Sequence.Cut

/-!
# Reading event streams

A reader of event streams takes a stream apart into lines, which end at CRLF, LF
or CR.  A line is a field: a name, a colon and a value, of which one leading
space is dropped.  A blank line ends an event; one without data is none.  Fields
of other names, and a line that has not ended, count for nothing.
-/

namespace HttpEngine

namespace EventStream

/-! ## Lines -/

/-- The lines that have ended, the first of them begun already. -/
def linesFrom : List Char → List Char → List (List Char)
  | _, [] => []
  | line, '\r' :: '\n' :: rest => line :: linesFrom [] rest
  | line, character :: rest =>
      if character = '\n' ∨ character = '\r' then line :: linesFrom [] rest
      else linesFrom (line ++ [character]) rest

def lines (text : List Char) : List (List Char) := linesFrom [] text

/-- No line ends within the text. -/
structure IsUnbroken (text : List Char) : Prop where
  lineFeed_not_mem : '\n' ∉ text
  return_not_mem : '\r' ∉ text

variable {line text value rest : List Char} {character : Char}

theorem linesFrom_lineFeed (line rest : List Char) :
    linesFrom line ('\n' :: rest) = line :: linesFrom [] rest := by
  simp [linesFrom]

theorem linesFrom_return_lineFeed (line rest : List Char) :
    linesFrom line ('\r' :: '\n' :: rest) = line :: linesFrom [] rest := by
  simp [linesFrom]

theorem linesFrom_return_cons (hcharacter : character ≠ '\n') :
    linesFrom line ('\r' :: character :: rest) =
      line :: linesFrom [] (character :: rest) := by
  rw [linesFrom, if_pos (.inr rfl)]
  rintro rest' - h
  exact hcharacter (List.cons.inj h).1

theorem linesFrom_cons (hlineFeed : character ≠ '\n')
    (hreturn : character ≠ '\r') :
    linesFrom line (character :: rest) =
      linesFrom (line ++ [character]) rest := by
  rw [linesFrom, if_neg (by simp [hlineFeed, hreturn])]
  rintro rest' h
  exact absurd h hreturn

theorem IsUnbroken.cons_iff :
    IsUnbroken (character :: text) ↔
      character ≠ '\n' ∧ character ≠ '\r' ∧ IsUnbroken text := by
  constructor
  · rintro ⟨hlineFeed, hreturn⟩
    rw [List.mem_cons, not_or] at hlineFeed hreturn
    exact ⟨Ne.symm hlineFeed.1, Ne.symm hreturn.1, hlineFeed.2, hreturn.2⟩
  · rintro ⟨hlineFeed, hreturn, htext⟩
    constructor
    · simp [Ne.symm hlineFeed, htext.lineFeed_not_mem]
    · simp [Ne.symm hreturn, htext.return_not_mem]

theorem linesFrom_append (h : IsUnbroken value) (line rest : List Char) :
    linesFrom line (value ++ rest) = linesFrom (line ++ value) rest := by
  induction value generalizing line with
  | nil => simp
  | cons character value ih =>
      obtain ⟨hlineFeed, hreturn, hvalue⟩ := IsUnbroken.cons_iff.1 h
      rw [List.cons_append, linesFrom_cons hlineFeed hreturn, ih hvalue,
        List.append_assoc, List.singleton_append]

/-! ## Fields and events -/

/-- The name and the value of a field. -/
def fieldOf (line : List Char) : List Char × List Char :=
  match Sequence.cutAt? ':' line with
  | none => (line, [])
  | some (name, ' ' :: value) => (name, value)
  | some (name, value) => (name, value)

/-- What has been read of an event. -/
structure Draft where
  name : Option (List Char)
  id : Option (List Char)
  data : List (List Char)

namespace Draft

def empty : Draft := ⟨none, none, []⟩

def absorb (draft : Draft) (line : List Char) : Draft :=
  let (name, value) := fieldOf line
  if name = "event".toList then { draft with name := some value }
  else if name = "id".toList then { draft with id := some value }
  else if name = "data".toList then { draft with data := draft.data ++ [value] }
  else draft

def event? (draft : Draft) : Option Event :=
  if draft.data = [] then none
  else some ⟨draft.name.map String.ofList, draft.id.map String.ofList,
    String.ofList (['\n'].intercalate draft.data)⟩

end Draft

def readLines : Draft → List (List Char) → List Event
  | _, [] => []
  | draft, [] :: rest => draft.event?.toList ++ readLines .empty rest
  | draft, line :: rest => readLines (draft.absorb line) rest

def read (text : List Char) : List Event := readLines .empty (lines text)

def readBytes (bytes : Bytes) : List Event := read (Utf8.decodeLossy bytes)

theorem readLines_append_blank {fields : List (List Char)} (h : [] ∉ fields)
    (draft : Draft) (rest : List (List Char)) :
    readLines draft (fields ++ [] :: rest) =
      (fields.foldl Draft.absorb draft).event?.toList ++
        readLines .empty rest := by
  induction fields generalizing draft with
  | nil => rfl
  | cons field fields ih =>
      rw [List.mem_cons, not_or] at h
      rw [List.cons_append, readLines, ih h.2, List.foldl_cons]
      exact fun hblank => h.1 hblank.symm

/-! ## Fields that were written -/

def fieldLine (name : String) (value : List Char) : List Char :=
  name.toList ++ ':' :: ' ' :: value

theorem fieldLine_ne_nil (name : String) (value : List Char) :
    fieldLine name value ≠ [] := by
  simp [fieldLine]

theorem fieldOf_fieldLine {name : String} (h : ':' ∉ name.toList)
    (value : List Char) :
    fieldOf (fieldLine name value) = (name.toList, value) := by
  rw [fieldOf, fieldLine, Sequence.cutAt?_append_cons h]
  rfl

namespace Draft

variable (draft : Draft) (value : List Char)

theorem absorb_event :
    draft.absorb (fieldLine "event" value) =
      { draft with name := some value } := by
  rw [absorb, fieldOf_fieldLine (by decide)]
  rfl

theorem absorb_id :
    draft.absorb (fieldLine "id" value) = { draft with id := some value } := by
  rw [absorb, fieldOf_fieldLine (by decide)]
  rfl

theorem absorb_data :
    draft.absorb (fieldLine "data" value) =
      { draft with data := draft.data ++ [value] } := by
  rw [absorb, fieldOf_fieldLine (by decide)]
  rfl

theorem foldl_absorb_data (values : List (List Char)) :
    (values.map (fieldLine "data")).foldl absorb draft =
      { draft with data := draft.data ++ values } := by
  induction values generalizing draft with
  | nil => simp
  | cons value values ih => simp [absorb_data, ih]

end Draft

end EventStream

end HttpEngine
