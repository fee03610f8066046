import HttpEngine.Error.Rules
import Mathlib.Logic.Relation

/-!
# Distances of matchers

The matchers of one error stand on a line: the type of an application error, its
kind, the kind above, and so on up to the root.  The distance counts the steps
on it, so that no two matchers of an error are equally far from it and the
closer one is the one further down.
-/

namespace HttpEngine

/-! ## The tree of kinds -/

namespace ErrorKind

variable {kind ancestor : ErrorKind} {steps : Nat}

/-- The kind some steps up. -/
def climb? : Nat → ErrorKind → Option ErrorKind
  | 0, kind => some kind
  | steps + 1, kind => kind.parent?.bind (climb? steps)

theorem climb?_add (first second : Nat) (kind : ErrorKind) :
    climb? (first + second) kind =
      (climb? first kind).bind (climb? second) := by
  induction first generalizing kind with
  | zero => simp [climb?]
  | succ first ih =>
      rw [Nat.succ_add, climb?, climb?, Option.bind_assoc]
      cases kind.parent? with
      | none => rfl
      | some parent => exact ih parent

theorem depth_of_climb? (h : climb? steps kind = some ancestor) :
    ancestor.depth + steps ≤ kind.depth := by
  induction steps generalizing kind with
  | zero =>
      obtain rfl := Option.some.inj h
      simp
  | succ steps ih =>
      obtain ⟨parent, hparent, hclimb⟩ := Option.bind_eq_some_iff.1 h
      have hdepth := depth_parent? hparent
      have hrest := ih hclimb
      omega

theorem climb?_of_distance? (h : kind.distance? ancestor = some steps) :
    climb? steps kind = some ancestor := by
  induction steps generalizing kind with
  | zero =>
      rw [distance?] at h
      split at h
      · next heq => exact congrArg some heq
      · split at h <;> simp at h
  | succ steps ih =>
      rw [distance?] at h
      split at h
      · simp at h
      · split at h
        · simp at h
        · next parent hparent =>
            obtain ⟨rest, hrest, hsteps⟩ := Option.map_eq_some_iff.1 h
            obtain rfl := Nat.succ.inj hsteps
            rw [climb?, hparent]
            exact ih hrest

theorem distance?_of_climb? (h : climb? steps kind = some ancestor) :
    kind.distance? ancestor = some steps := by
  induction steps generalizing kind with
  | zero =>
      obtain rfl := Option.some.inj h
      rw [distance?, if_pos rfl]
  | succ steps ih =>
      obtain ⟨parent, hparent, hclimb⟩ := Option.bind_eq_some_iff.1 h
      -- The ancestor is less deep, so that the walk up does not stop where it
      -- begins.
      have hne : kind ≠ ancestor := by
        rintro rfl
        have hdepth := depth_of_climb? h
        omega
      rw [distance?, if_neg hne]
      split
      · next hnone =>
          rw [hnone] at hparent
          contradiction
      · next other hother =>
          obtain rfl := Option.some.inj (hparent.symm.trans hother)
          rw [ih hclimb]
          rfl

/-- The distance is the number of steps up. -/
theorem distance?_eq_some_iff :
    kind.distance? ancestor = some steps ↔ climb? steps kind = some ancestor :=
  ⟨climb?_of_distance?, distance?_of_climb?⟩

theorem steps_unique {first second : Nat}
    (hfirst : climb? first kind = some ancestor)
    (hsecond : climb? second kind = some ancestor) : first = second :=
  Option.some.inj
    ((distance?_of_climb? hfirst).symm.trans (distance?_of_climb? hsecond))

/-- A kind stands directly below another one. -/
def IsChild (kind parent : ErrorKind) : Prop := kind.parent? = some parent

theorem exists_climb?_iff :
    (∃ steps, climb? steps kind = some ancestor) ↔
      Relation.ReflTransGen IsChild kind ancestor := by
  constructor
  · rintro ⟨steps, h⟩
    induction steps generalizing kind with
    | zero =>
        obtain rfl := Option.some.inj h
        exact .refl
    | succ steps ih =>
        obtain ⟨parent, hparent, hclimb⟩ := Option.bind_eq_some_iff.1 h
        exact .head hparent (ih hclimb)
  · intro h
    induction h using Relation.ReflTransGen.head_induction_on with
    | refl => exact ⟨0, rfl⟩
    | head hchild _ ih =>
        obtain ⟨steps, hclimb⟩ := ih
        refine ⟨steps + 1, ?_⟩
        rw [climb?, hchild]
        exact hclimb

theorem exists_climb?_succ_iff :
    (∃ steps, climb? (steps + 1) kind = some ancestor) ↔
      Relation.TransGen IsChild kind ancestor := by
  rw [Relation.TransGen.head'_iff]
  constructor
  · rintro ⟨steps, h⟩
    obtain ⟨parent, hparent, hclimb⟩ := Option.bind_eq_some_iff.1 h
    exact ⟨parent, hparent, exists_climb?_iff.1 ⟨steps, hclimb⟩⟩
  · rintro ⟨parent, hparent, habove⟩
    obtain ⟨steps, hclimb⟩ := exists_climb?_iff.2 habove
    refine ⟨steps, ?_⟩
    rw [climb?, hparent]
    exact hclimb

end ErrorKind

/-! ## Matchers -/

namespace ErrorMatcher

/-- A type matches the application errors of that type, a kind all errors of a
kind under it. -/
inductive Matches : ErrorMatcher → Error → Prop where
  | type (fault : ApplicationError) :
      Matches (.type fault.type) (.application fault)
  | kind {error : Error} {ancestor : ErrorKind}
      (h : Relation.ReflTransGen ErrorKind.IsChild error.kind ancestor) :
      Matches (.kind ancestor) error

/-- A type is closer than every kind, a kind closer than those above it. -/
inductive IsCloser : ErrorMatcher → ErrorMatcher → Prop where
  | type (name : String) (kind : ErrorKind) : IsCloser (.type name) (.kind kind)
  | kind {kind ancestor : ErrorKind}
      (h : Relation.TransGen ErrorKind.IsChild kind ancestor) :
      IsCloser (.kind kind) (.kind ancestor)

/-- How many steps an error stands below its kind. -/
def offset (error : Error) : Nat := if error.kind = .application then 1 else 0

variable {error : Error}

theorem distance?_type_eq_some_iff {name : String} {distance : Nat} :
    (type name).distance? error = some distance ↔
      distance = 0 ∧ ∃ fault, error = .application fault ∧
      fault.type = name := by
  have hcarried : (error.ofType? name).isSome = true ↔
      ∃ fault, error = .application fault ∧ fault.type = name := by
    cases error <;> simp [Error.ofType?]
  rw [distance?, ← hcarried]
  by_cases h : (error.ofType? name).isSome = true
  · simp [h, eq_comm]
  · simp [h]

theorem distance?_kind_eq_some_iff {ancestor : ErrorKind} {distance : Nat} :
    (kind ancestor).distance? error = some distance ↔
      ∃ steps, ErrorKind.climb? steps error.kind = some ancestor ∧
        distance = steps + offset error := by
  simp only [distance?, Option.map_eq_some_iff,
    ErrorKind.distance?_eq_some_iff, offset]
  refine exists_congr fun steps => and_congr_right fun _ => ?_
  split <;> exact eq_comm

theorem matches_iff {matcher : ErrorMatcher} :
    matcher.Matches error ↔
      ∃ distance, matcher.distance? error = some distance := by
  cases matcher with
  | type name =>
      simp only [distance?_type_eq_some_iff]
      constructor
      · rintro ⟨fault⟩
        exact ⟨0, rfl, fault, rfl, rfl⟩
      · rintro ⟨-, -, fault, rfl, rfl⟩
        exact .type fault
  | kind ancestor =>
      simp only [distance?_kind_eq_some_iff]
      constructor
      · rintro ⟨⟩
        next h =>
          obtain ⟨steps, hclimb⟩ := ErrorKind.exists_climb?_iff.2 h
          exact ⟨_, steps, hclimb, rfl⟩
      · rintro ⟨-, steps, hclimb, -⟩
        exact .kind (ErrorKind.exists_climb?_iff.1 ⟨steps, hclimb⟩)

section

variable {first second : ErrorMatcher} {near far : Nat}

theorem isCloser_iff (hfirst : first.distance? error = some near)
    (hsecond : second.distance? error = some far) :
    first.IsCloser second ↔ near < far := by
  cases first with
  | type name =>
      obtain ⟨rfl, fault, rfl, -⟩ := distance?_type_eq_some_iff.1 hfirst
      cases second with
      | type other =>
          obtain ⟨rfl, -⟩ := distance?_type_eq_some_iff.1 hsecond
          simp only [Nat.lt_irrefl, iff_false]
          rintro ⟨⟩
      | kind ancestor =>
          obtain ⟨steps, -, rfl⟩ := distance?_kind_eq_some_iff.1 hsecond
          exact iff_of_true (.type name ancestor) (Nat.succ_pos steps)
  | kind lower =>
      obtain ⟨steps, hlower, rfl⟩ := distance?_kind_eq_some_iff.1 hfirst
      cases second with
      | type other =>
          obtain ⟨rfl, -⟩ := distance?_type_eq_some_iff.1 hsecond
          simp only [Nat.not_lt_zero, iff_false]
          rintro ⟨⟩
      | kind upper =>
          obtain ⟨more, hupper, rfl⟩ := distance?_kind_eq_some_iff.1 hsecond
          rw [Nat.add_lt_add_iff_right]
          constructor
          · rintro ⟨⟩
            next h =>
              obtain ⟨rest, hrest⟩ := ErrorKind.exists_climb?_succ_iff.2 h
              have hclimb : ErrorKind.climb? (steps + (rest + 1)) error.kind =
                  some upper := by
                rw [ErrorKind.climb?_add, hlower]
                exact hrest
              have hsteps := ErrorKind.steps_unique hclimb hupper
              omega
          · intro hlt
            obtain ⟨rest, rfl⟩ := Nat.exists_eq_add_of_lt hlt
            rw [Nat.add_assoc, ErrorKind.climb?_add, hlower] at hupper
            exact .kind (ErrorKind.exists_climb?_succ_iff.1 ⟨rest, hupper⟩)

/-- Two matchers of one error are never equally far from it. -/
theorem eq_of_distance?_eq (hfirst : first.distance? error = some near)
    (hsecond : second.distance? error = some near) : first = second := by
  cases first with
  | type name =>
      obtain ⟨rfl, fault, rfl, rfl⟩ := distance?_type_eq_some_iff.1 hfirst
      cases second with
      | type other =>
          obtain ⟨-, _, hsame, rfl⟩ := distance?_type_eq_some_iff.1 hsecond
          obtain rfl := Error.application.inj hsame
          rfl
      | kind ancestor =>
          obtain ⟨steps, -, hzero⟩ := distance?_kind_eq_some_iff.1 hsecond
          exact absurd hzero (Nat.succ_ne_zero steps).symm
  | kind lower =>
      obtain ⟨steps, hlower, rfl⟩ := distance?_kind_eq_some_iff.1 hfirst
      cases second with
      | type other =>
          obtain ⟨hzero, fault, rfl, -⟩ := distance?_type_eq_some_iff.1 hsecond
          exact absurd hzero (Nat.succ_ne_zero steps)
      | kind upper =>
          obtain ⟨more, hupper, hmore⟩ := distance?_kind_eq_some_iff.1 hsecond
          obtain rfl := Nat.add_right_cancel hmore
          rw [Option.some.inj (hlower.symm.trans hupper)]

end

end ErrorMatcher

end HttpEngine
