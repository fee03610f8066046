import HttpEngine.Bytes
import HttpEngine.Params
import HttpEngine.Text.Quoted

/-!
# Path patterns

A template is a list of segments between slashes.  A segment is literal text,
one segment under a name (`:name`), or, in the last place, the rest of the path
under a name, optional (`*name`) or required (`+name`).  Compiling checks the
names and places.

A pattern without names is compared with the path as a text.  One with names is
matched the way an anchored regular expression is documented to match: a literal
stands for itself, a name for `/([^/]+)`, an optional rest for `(?:/(.*))?` and
a required one for `/(.+)`, where the dot is any character but a line feed.
Every piece but a last one ends at the next slash, so that no choice has to be
taken back and one pass over the path is enough.  Both ways agree
(`matchPath?_eq`).
-/

namespace HttpEngine

/-! ## Faults of templates -/

inductive PatternError where
  | invalidIdentifier (name : String)
  | duplicateIdentifier (name pattern : String)
  | misplacedWildcard (segment : String)
  deriving DecidableEq, Repr

def PatternError.message : PatternError → String
  | .invalidIdentifier name =>
      "invalid identifier '" ++ name ++
        "', it does not match [a-zA-Z][0-9a-zA-Z]*"
  | .duplicateIdentifier name pattern =>
      "cannot use identifier '" ++ name ++ "' more than once in pattern '" ++
        pattern ++ "'"
  | .misplacedWildcard segment =>
      "dynamic part '" ++ segment ++
        "' spans more than one segment and must be placed at the end"

/-! ## Segments -/

inductive Segment where
  | literal (text : List Char)
  | one (name : List Char)
  | optionalRest (name : List Char)
  | requiredRest (name : List Char)
  deriving DecidableEq, Repr

namespace Segment

def ofText : List Char → Segment
  | ':' :: name => .one name
  | '*' :: name => .optionalRest name
  | '+' :: name => .requiredRest name
  | text => .literal text

/-- The segment as it stands in a template. -/
def toText : Segment → List Char
  | .literal text => text
  | .one name => ':' :: name
  | .optionalRest name => '*' :: name
  | .requiredRest name => '+' :: name

def name? : Segment → Option (List Char)
  | .literal _ => none
  | .one name => some name
  | .optionalRest name => some name
  | .requiredRest name => some name

/-- Segments that may take more than one segment of a path. -/
def isRest : Segment → Bool
  | .optionalRest _ => true
  | .requiredRest _ => true
  | _ => false

end Segment

structure Pattern where
  template : String
  segments : List Segment
  deriving Repr

namespace Pattern

/-! ## Compilation -/

def isIdentifier : List Char → Bool
  | [] => false
  | first :: rest => first.isAlpha && rest.all Char.isAlphanum

/-- Drops empty segments at the end, but not the first segment. -/
def dropTrailingEmpty (segments : List (List Char)) : List (List Char) :=
  match segments with
  | [] => []
  | first :: rest => first :: (rest.reverse.dropWhile List.isEmpty).reverse

/-- The segments of a template, without the leading slash and without empty ones
at the end. -/
def splitTemplate (template : List Char) : List (List Char) :=
  let stripped :=
    match template with
    | '/' :: rest => rest
    | _ => template
  dropTrailingEmpty (stripped.splitOn '/')

/-- The fault of a segment after segments with the given names, when more
segments follow it or not. -/
def segmentFault? (template : String) (seen : List (List Char))
    (segment : Segment) (isLast : Bool) : Option PatternError :=
  match segment.name? with
  | none => none
  | some name =>
      if segment.isRest && !isLast then
        some (.misplacedWildcard (String.ofList segment.toText))
      else if !isIdentifier name then
        some (.invalidIdentifier (String.ofList name))
      else if seen.contains name then
        some (.duplicateIdentifier (String.ofList name) template)
      else none

/-- Checks the segments from the left. -/
def checkSegments (template : String) (seen : List (List Char)) :
    List Segment → Except PatternError Unit
  | [] => .ok ()
  | segment :: rest =>
      match segmentFault? template seen segment rest.isEmpty with
      | some fault => .error fault
      | none => checkSegments template (segment.name?.toList ++ seen) rest

def compile (template : String) : Except PatternError Pattern :=
  let segments := (splitTemplate template.toList).map Segment.ofText
  match checkSegments template [] segments with
  | .error fault => .error fault
  | .ok () => .ok ⟨template, segments⟩

/-! ## Matching -/

/-- The part of a path up to the next slash, and the rest. -/
def spanSegment (path : List Char) : List Char × List Char :=
  (path.takeWhile (· != '/'), path.dropWhile (· != '/'))

/-- The rest of a path holds no line feed. -/
def isLine (text : List Char) : Bool := !text.contains '\n'

/-- The values of the parameters, when the path is made of one piece for each
segment. -/
def matchSegments :
    List Segment → List Char → Option (List (List Char × List Char))
  | [], [] => some []
  | [], _ :: _ => none
  | .literal text :: rest, '/' :: path =>
      match Sequence.dropPrefix? text path with
      | some path => matchSegments rest path
      | none => none
  | .one name :: rest, '/' :: path =>
      let (value, path) := spanSegment path
      if value.isEmpty then none
      else (matchSegments rest path).map ((name, value) :: ·)
  | .optionalRest name :: _, '/' :: path =>
      if isLine path then some [(name, path)] else none
  | .optionalRest name :: _, [] => some [(name, [])]
  | .requiredRest name :: _, '/' :: path =>
      if path.isEmpty || !isLine path then none else some [(name, path)]
  | _ :: _, _ => none

/-- How a pattern is matched. -/
inductive Matcher where
  /-- Without parameters, a path is compared with the one text there is. -/
  | equals (text : List Char)
  | capturing (segments : List Segment)
  deriving DecidableEq, Repr

/-- The only path that segments without parameters match. -/
def plainPath (segments : List Segment) : List Char :=
  segments.flatMap fun segment => '/' :: segment.toText

def matcher (pattern : Pattern) : Matcher :=
  if pattern.segments.all (·.name?.isNone) then
    .equals (plainPath pattern.segments)
  else .capturing pattern.segments

/-- The parameters of a path with the given names and values. -/
def pathParams (values : List (List Char × List Char)) : Params :=
  ⟨.path, values.map fun (name, value) =>
    (String.ofList name, String.ofList value)⟩

def isMatch (pattern : Pattern) (path : String) : Bool :=
  match pattern.matcher with
  | .equals text => path.toList == text
  | .capturing segments => (matchSegments segments path.toList).isSome

/-- The parameters of the path in the order of their declaration, when the
pattern matches. -/
def matchPath? (pattern : Pattern) (path : String) : Option Params :=
  match pattern.matcher with
  | .equals text => if path.toList = text then some ⟨.path, []⟩ else none
  | .capturing segments => (matchSegments segments path.toList).map pathParams

/-! ### Both ways agree -/

theorem matchSegments_of_plain {segments : List Segment}
    (hplain : ∀ segment ∈ segments, segment.name? = none) (path : List Char) :
    matchSegments segments path =
      if path = plainPath segments then some [] else none := by
  induction segments generalizing path with
  | nil => cases path <;> simp [matchSegments, plainPath]
  | cons segment rest ih =>
      obtain ⟨hfirst, hrest⟩ := List.forall_mem_cons.1 hplain
      cases segment with
      | literal text =>
          have hspelled : plainPath (.literal text :: rest) =
              '/' :: (text ++ plainPath rest) := rfl
          rw [hspelled]
          cases path with
          | nil => rfl
          | cons character path =>
              by_cases hslash : character = '/'
              · subst hslash
                rw [matchSegments]
                cases hdropped : Sequence.dropPrefix? text path with
                | none =>
                    have hother : path ≠ text ++ plainPath rest := by
                      rintro rfl
                      have hfound := Sequence.dropPrefix?_eq_some_iff.2
                        (Eq.refl (text ++ plainPath rest))
                      simp [hfound] at hdropped
                    simp [hother]
                | some after =>
                    obtain rfl := Sequence.dropPrefix?_eq_some_iff.1 hdropped
                    simp [ih hrest]
              · rw [if_neg (by simp [hslash]), matchSegments.eq_def]
                split <;> simp_all
      | one name | optionalRest name | requiredRest name => nomatch hfirst

theorem matchPath?_eq (pattern : Pattern) (path : String) :
    pattern.matchPath? path =
      (matchSegments pattern.segments path.toList).map pathParams := by
  rw [matchPath?, matcher]
  by_cases hplain : pattern.segments.all (·.name?.isNone)
  · rw [if_pos hplain]
    have hnameless : ∀ segment ∈ pattern.segments, segment.name? = none := by
      simpa using hplain
    rw [matchSegments_of_plain hnameless]
    dsimp only
    split <;> rfl
  · rw [if_neg hplain]

/-- A pattern matches a path just when it finds its parameters there. -/
theorem isMatch_eq (pattern : Pattern) (path : String) :
    pattern.isMatch path = (pattern.matchPath? path).isSome := by
  rw [isMatch, matchPath?]
  cases pattern.matcher with
  | equals text =>
      dsimp only
      split <;> simp_all
  | capturing segments => exact Option.isSome_map.symm

theorem isMatch_iff (pattern : Pattern) (path : String) :
    pattern.isMatch path = true ↔
      ∃ params, pattern.matchPath? path = some params := by
  rw [isMatch_eq]
  exact Option.isSome_iff_exists

/-- Patterns are equal when their templates are. -/
instance : BEq Pattern :=
  ⟨fun first second => first.template == second.template⟩

def describe (pattern : Pattern) : String :=
  "Pattern(" ++ Text.quote pattern.template ++ ")"

end Pattern

end HttpEngine
