import HttpEngine.Route.Pattern
import Mathlib.Data.List.DropRight
import Mathlib.Data.List.Induction

/-!
# Templates that begin with literal segments

Literal segments at the front of a template stay in front when it is compiled,
and a path that matches has their text in front of what the other segments
match.
-/

namespace HttpEngine.Pattern

/-! ## Literal segments -/

/-- A segment that stands for itself, in a template and in a glob. -/
structure IsPlainSegment (segment : List Char) : Prop where
  ne_nil : segment ≠ []
  slash_not_mem : '/' ∉ segment
  star_not_mem : '*' ∉ segment
  question_not_mem : '?' ∉ segment
  head_ne_colon : segment.head? ≠ some ':'
  head_ne_plus : segment.head? ≠ some '+'

/-- The segments behind a slash each. -/
def joinSegments (segments : List (List Char)) : List Char :=
  segments.flatMap fun segment => '/' :: segment

@[simp] theorem joinSegments_nil : joinSegments [] = [] := rfl

@[simp] theorem joinSegments_cons (segment : List Char)
    (segments : List (List Char)) :
    joinSegments (segment :: segments) =
      '/' :: segment ++ joinSegments segments := rfl

theorem not_mem_joinSegments {character : Char} {segments : List (List Char)}
    (hslash : character ≠ '/') (h : ∀ segment ∈ segments, character ∉ segment) :
    character ∉ joinSegments segments := by
  simpa [joinSegments, hslash] using h

theorem IsPlainSegment.ofText_eq {segment : List Char}
    (h : IsPlainSegment segment) :
    Segment.ofText segment = .literal segment := by
  have hcolon := h.head_ne_colon
  have hplus := h.head_ne_plus
  have hstar := h.star_not_mem
  unfold Segment.ofText
  split <;> simp_all

/-! ## Compilation -/

theorem splitOn_joinSegments {segments : List (List Char)} (rest : List Char)
    (h : ∀ segment ∈ segments, '/' ∉ segment) :
    (joinSegments segments ++ '/' :: rest).tail.splitOn '/' =
      segments ++ rest.splitOn '/' := by
  induction segments with
  | nil => simp
  | cons segment segments ih =>
      have hsegment := h segment List.mem_cons_self
      have hrest :=
        ih fun other hother => h other (List.mem_cons_of_mem _ hother)
      have hslash : joinSegments segments ++ '/' :: rest =
          '/' :: (joinSegments segments ++ '/' :: rest).tail := by
        cases segments <;> rfl
      rw [joinSegments_cons, List.cons_append, List.cons_append, List.tail_cons,
        List.append_assoc, hslash,
        List.splitOn_append_cons_self_of_not_mem hsegment, hrest,
        List.cons_append]

theorem dropTrailingEmpty_append {segments : List (List Char)}
    (h : ∀ segment ∈ segments, segment ≠ []) (rest : List (List Char)) :
    ∃ more, dropTrailingEmpty (segments ++ rest) = segments ++ more := by
  cases segments with
  | nil => exact ⟨dropTrailingEmpty rest, rfl⟩
  | cons first segments =>
      have hkept : ∃ more, List.rdropWhile List.isEmpty (segments ++ rest) =
          segments ++ more := by
        induction rest using List.reverseRecOn with
        | nil =>
            refine ⟨[], ?_⟩
            rw [List.append_nil, List.rdropWhile_eq_self_iff]
            intro hne
            have hlast :=
              h _ (List.mem_cons_of_mem first (List.getLast_mem hne))
            simpa using hlast
        | append_singleton rest last ih =>
            by_cases hlast : last.isEmpty = true
            · rw [← List.append_assoc, List.rdropWhile_concat_pos _ _ _ hlast]
              exact ih
            · exact ⟨rest ++ [last], by
                rw [← List.append_assoc,
                  List.rdropWhile_concat_neg _ _ _ hlast]⟩
      obtain ⟨more, hmore⟩ := hkept
      exact ⟨more, congrArg (first :: ·) hmore⟩

theorem splitTemplate_joinSegments {segments : List (List Char)}
    (h : ∀ segment ∈ segments, IsPlainSegment segment) (rest : List Char) :
    ∃ more, splitTemplate (joinSegments segments ++ '/' :: rest) =
      segments ++ more := by
  have hslash :
      ∃ stripped, joinSegments segments ++ '/' :: rest = '/' :: stripped := by
    cases segments with
    | nil => exact ⟨rest, rfl⟩
    | cons segment segments => exact ⟨_, rfl⟩
  obtain ⟨stripped, hstripped⟩ := hslash
  have hsplit := splitOn_joinSegments rest fun segment hsegment =>
    (h segment hsegment).slash_not_mem
  rw [hstripped, List.tail_cons] at hsplit
  rw [hstripped, splitTemplate, hsplit]
  exact dropTrailingEmpty_append (fun segment hsegment =>
    (h segment hsegment).ne_nil) _

theorem segments_of_compile {template : String} {pattern : Pattern}
    (h : compile template = .ok pattern) :
    pattern.segments = (splitTemplate template.toList).map Segment.ofText := by
  unfold compile at h
  simp only at h
  split at h
  · cases h
  · cases h
    rfl

/-! ## Matching -/

theorem matchSegments_slash {segments : List Segment} {path : List Char}
    {values : List (List Char × List Char)}
    (h : matchSegments segments path = some values) :
    path = [] ∨ ∃ rest, path = '/' :: rest := by
  unfold matchSegments at h
  split at h <;> simp_all

theorem matchSegments_literals_append {literals : List (List Char)}
    {segments : List Segment} {path : List Char}
    {values : List (List Char × List Char)}
    (h : matchSegments (literals.map .literal ++ segments) path = some values) :
    ∃ rest, path = joinSegments literals ++ rest ∧
      matchSegments segments rest = some values := by
  induction literals generalizing path with
  | nil => exact ⟨path, rfl, h⟩
  | cons literal literals ih =>
      rw [List.map_cons, List.cons_append] at h
      rcases matchSegments_slash h with rfl | ⟨path, rfl⟩
      · simp [matchSegments] at h
      · simp only [matchSegments] at h
        split at h
        · next after hafter =>
            obtain rfl := Sequence.dropPrefix?_eq_some_iff.1 hafter
            obtain ⟨rest, rfl, hrest⟩ := ih h
            exact ⟨rest, by simp, hrest⟩
        · cases h

end HttpEngine.Pattern
