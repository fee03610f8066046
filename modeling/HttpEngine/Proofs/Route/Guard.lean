import HttpEngine.Proofs.Route.Glob
import HttpEngine.Proofs.Route.Pattern
import HttpEngine.Route.PathFilter

/-!
# Filters over a subtree

A filter whose include is a literal path followed by `/**` is meant to stand in
front of every route below that path.  It does so for the paths in which no line
feed follows the literal part: a run of a glob stops at a line feed, a named
segment of a template does not.
-/

namespace HttpEngine

open Pattern (IsPlainSegment joinSegments)

namespace PathSelection

/-- The literal path and everything below it. -/
def subtree (segments : List (List Char)) : PathSelection :=
  ⟨[String.ofList (joinSegments segments) ++ "/**"], []⟩

variable {segments : List (List Char)}

theorem appliesTo_subtree_append_iff
    (h : ∀ segment ∈ segments, IsPlainSegment segment) {path : String}
    {rest : List Char} (hpath : path.toList = joinSegments segments ++ rest)
    (hrest : rest = [] ∨ ∃ run, rest = '/' :: run) :
    (subtree segments).appliesTo path = true ↔ '\n' ∉ rest := by
  have hstar : '*' ∉ (String.ofList (joinSegments segments)).toList := by
    rw [String.toList_ofList]
    exact Pattern.not_mem_joinSegments (by decide) fun segment hsegment =>
      (h segment hsegment).star_not_mem
  have hquestion : '?' ∉ (String.ofList (joinSegments segments)).toList := by
    rw [String.toList_ofList]
    exact Pattern.not_mem_joinSegments (by decide) fun segment hsegment =>
      (h segment hsegment).question_not_mem
  have hmatch :
      Glob.isMatch (String.ofList (joinSegments segments) ++ "/**") path =
        true ↔ _ :=
    Glob.isMatch_subtree_iff hstar hquestion
  rw [← String.toList_inj, String.toList_ofList, hpath] at hmatch
  simp only [appliesTo, subtree, List.any_nil, List.any_cons, List.isEmpty_cons,
    Bool.not_false, Bool.true_and, Bool.false_or, Bool.or_false, hmatch]
  rcases hrest with rfl | ⟨run, rfl⟩
  · simp
  · simp

/-- A path that a template below the literal path matches is the literal path
with the rest. -/
theorem exists_rest_of_isMatch (h : ∀ segment ∈ segments,
    IsPlainSegment segment) {template : String} {pattern : Pattern}
    (hcompile :
      Pattern.compile (String.ofList (joinSegments segments) ++ "/" ++
        template) = .ok pattern)
    {path : String} (hmatch : pattern.isMatch path = true) :
    ∃ rest, path.toList = joinSegments segments ++ rest ∧
      (rest = [] ∨ ∃ run, rest = '/' :: run) := by
  have htemplate :
      (String.ofList (joinSegments segments) ++ "/" ++ template).toList =
      joinSegments segments ++ '/' :: template.toList := by simp
  obtain ⟨more, hmore⟩ := Pattern.splitTemplate_joinSegments h template.toList
  have hliterals : segments.map Segment.ofText = segments.map .literal :=
    List.map_congr_left fun segment hsegment => (h segment hsegment).ofText_eq
  have hsegments := Pattern.segments_of_compile hcompile
  rw [htemplate, hmore, List.map_append, hliterals] at hsegments
  rw [Pattern.isMatch_eq, Pattern.matchPath?_eq, Option.isSome_map,
    Option.isSome_iff_exists, hsegments] at hmatch
  obtain ⟨values, hvalues⟩ := hmatch
  obtain ⟨rest, hpath, hrest⟩ := Pattern.matchSegments_literals_append hvalues
  exact ⟨rest, hpath, Pattern.matchSegments_slash hrest⟩

/-- A filter over a subtree applies to a routed path exactly when no line feed
follows the literal part. -/
theorem appliesTo_subtree_iff (h : ∀ segment ∈ segments, IsPlainSegment segment)
    {template : String} {pattern : Pattern}
    (hcompile :
      Pattern.compile (String.ofList (joinSegments segments) ++ "/" ++
        template) = .ok pattern)
    {path : String} (hmatch : pattern.isMatch path = true) :
    (subtree segments).appliesTo path = true ↔
      '\n' ∉ path.toList.drop (joinSegments segments).length := by
  obtain ⟨rest, hpath, hrest⟩ := exists_rest_of_isMatch h hcompile hmatch
  rw [appliesTo_subtree_append_iff h hpath hrest, hpath, List.drop_left]

theorem isPlainSegment_admin : IsPlainSegment "admin".toList := by
  constructor <;> decide

/-- The route of one named segment below `/admin`. -/
def adminPattern : Pattern :=
  ⟨"/admin/:name", [.literal "admin".toList, .one "name".toList]⟩

theorem compile_adminPattern :
    Pattern.compile (String.ofList (joinSegments ["admin".toList]) ++ "/" ++
      ":name") = .ok adminPattern := by
  rfl

theorem appliesTo_subtree_admin :
    (∀ segment ∈ ["admin".toList], IsPlainSegment segment) ∧
      Pattern.compile (String.ofList (joinSegments ["admin".toList]) ++ "/" ++
        ":name") = .ok adminPattern ∧
      adminPattern.isMatch "/admin/bob" = true ∧
      (subtree ["admin".toList]).appliesTo "/admin/bob" = true := by
  have hplain : ∀ segment ∈ ["admin".toList], IsPlainSegment segment :=
    List.forall_mem_singleton.2 isPlainSegment_admin
  have hmatch : adminPattern.isMatch "/admin/bob" = true := by decide +kernel
  exact ⟨hplain, compile_adminPattern, hmatch,
    (appliesTo_subtree_iff hplain compile_adminPattern hmatch).2
      (by decide +kernel)⟩

/-- A line feed in the named segment takes the path past the filter. -/
theorem appliesTo_subtree_lineFeed :
    (∀ segment ∈ ["admin".toList], IsPlainSegment segment) ∧
      Pattern.compile (String.ofList (joinSegments ["admin".toList]) ++ "/" ++
        ":name") = .ok adminPattern ∧
      adminPattern.isMatch "/admin/a\nb" = true ∧
      (subtree ["admin".toList]).appliesTo "/admin/a\nb" = false := by
  refine ⟨List.forall_mem_singleton.2 isPlainSegment_admin,
    compile_adminPattern, ?_, ?_⟩ <;>
    decide +kernel

end PathSelection

end HttpEngine
