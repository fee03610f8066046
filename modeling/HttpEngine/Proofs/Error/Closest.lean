import HttpEngine.Proofs.Error.Distance
import Mathlib.Data.List.Nodup

/-!
# The closest rule

Reading the rules from the left, the best one so far is the earliest of the
closest ones that were read.  Rules of different matchers are never equally
close, so that the order of rules counts only among those of one matcher.
-/

namespace HttpEngine

/-! ## The choice among rules -/

namespace ErrorRules

variable {σ : Type} {rules : List (ErrorRule σ)} {rule : ErrorRule σ}
  {error : Error}

/-- The rule matches at the given distance, every matching rule before it is
farther, and none after it is closer. -/
structure Stands (error : Error) (before : List (ErrorRule σ))
    (rule : ErrorRule σ) (after : List (ErrorRule σ)) (least : Nat) : Prop where
  distance_eq : rule.matcher.distance? error = some least
  farther : ∀ other ∈ before, ∀ distance,
    other.matcher.distance? error = some distance → least < distance
  not_closer : ∀ other ∈ after, ∀ distance,
    other.matcher.distance? error = some distance → least ≤ distance

theorem Stands.least_le {before after : List (ErrorRule σ)} {least : Nat}
    (h : Stands error before rule after least) {other : ErrorRule σ}
    (hother : other ∈ before ++ rule :: after) {distance : Nat}
    (hdistance : other.matcher.distance? error = some distance) :
    least ≤ distance := by
  rcases List.mem_append.1 hother with hother | hother
  · exact Nat.le_of_lt (h.farther other hother distance hdistance)
  · rcases List.mem_cons.1 hother with rfl | hother
    · exact Nat.le_of_eq (Option.some.inj (h.distance_eq.symm.trans hdistance))
    · exact h.not_closer other hother distance hdistance

/-- The earliest of the matching rules whose distance is least. -/
def IsClosest (rules : List (ErrorRule σ)) (error : Error)
    (rule : ErrorRule σ) : Prop :=
  ∃ before after least, rules = before ++ rule :: after ∧
    Stands error before rule after least

/-- What the rules read so far have come to. -/
inductive Leads (error : Error) :
    List (ErrorRule σ) → Option (Nat × ErrorRule σ) → Prop where
  | none {rules : List (ErrorRule σ)}
      (h : ∀ rule ∈ rules, rule.matcher.distance? error = none) :
      Leads error rules none
  | some {before after : List (ErrorRule σ)} {rule : ErrorRule σ} {least : Nat}
      (h : Stands error before rule after least) :
      Leads error (before ++ rule :: after) (some (least, rule))

theorem leads_closer {best : Option (Nat × ErrorRule σ)}
    (h : Leads error rules best) (next : ErrorRule σ) :
    Leads error (rules ++ [next]) (closer error best next) := by
  cases h with
  | none hnone =>
      cases hnext : next.matcher.distance? error with
      | none =>
          simp only [closer, hnext]
          refine .none fun other hother => ?_
          rcases List.mem_append.1 hother with hother | hother
          · exact hnone other hother
          · rw [List.mem_singleton.1 hother, hnext]
      | some distance =>
          simp only [closer, hnext]
          refine .some ⟨hnext, fun other hother _ hsome => ?_, by simp⟩
          rw [hnone other hother] at hsome
          contradiction
  | @some before after rule least hstands =>
      have hkept
          (hfar : ∀ distance,
            next.matcher.distance? error = some distance →
              least ≤ distance) :
          Leads error (before ++ rule :: after ++ [next])
            (some (least, rule)) := by
        rw [List.append_assoc, List.cons_append]
        refine .some ⟨hstands.distance_eq, hstands.farther,
          fun other hother => ?_⟩
        rcases List.mem_append.1 hother with hother | hother
        · exact hstands.not_closer other hother
        · rw [List.mem_singleton.1 hother]
          exact hfar
      cases hnext : next.matcher.distance? error with
      | none =>
          simp only [closer, hnext]
          exact hkept (by simp [hnext])
      | some distance =>
          simp only [closer, hnext]
          split
          · next hlt =>
              refine .some ⟨hnext, fun other hother far hfar => ?_, by simp⟩
              exact Nat.lt_of_lt_of_le hlt (hstands.least_le hother hfar)
          · next hge =>
              refine hkept fun other hother => ?_
              obtain rfl := Option.some.inj (hnext.symm.trans hother)
              exact Nat.not_lt.1 hge

theorem leads_foldl {best : Option (Nat × ErrorRule σ)}
    (h : Leads error rules best) (more : List (ErrorRule σ)) :
    Leads error (rules ++ more) (more.foldl (closer error) best) := by
  induction more generalizing rules best with
  | nil => simpa using h
  | cons next more ih =>
      have hmore := ih (leads_closer h next)
      rwa [List.append_assoc, List.singleton_append] at hmore

theorem leads_resolve (rules : List (ErrorRule σ)) (error : Error) :
    Leads error rules (rules.foldl (closer error) none) := by
  have hstart : Leads error ([] : List (ErrorRule σ)) none := .none (by simp)
  exact leads_foldl hstart rules

/-- There is one closest rule at most. -/
theorem IsClosest.unique {other : ErrorRule σ} (h : IsClosest rules error rule)
    (hother : IsClosest rules error other) : rule = other := by
  obtain ⟨before, after, least, rfl, hstands⟩ := h
  obtain ⟨earlier, later, lowest, hsplit, hothers⟩ := hother
  -- Of two rules, the one that stands first is strictly closer by the other's
  -- account.
  rcases List.append_eq_append_iff.1 hsplit with
    ⟨middle, rfl, hmiddle⟩ | ⟨middle, rfl, hmiddle⟩
  · cases middle with
    | nil => exact (List.cons.inj hmiddle).1
    | cons head middle =>
        obtain ⟨rfl, rfl⟩ := List.cons.inj hmiddle
        have hlt := hothers.farther rule (by simp) _ hstands.distance_eq
        have hle := hstands.not_closer other (by simp) _ hothers.distance_eq
        omega
  · cases middle with
    | nil => exact (List.cons.inj hmiddle).1.symm
    | cons head middle =>
        obtain ⟨rfl, rfl⟩ := List.cons.inj hmiddle
        have hlt := hstands.farther other (by simp) _ hothers.distance_eq
        have hle := hothers.not_closer rule (by simp) _ hstands.distance_eq
        omega

theorem resolve?_eq_some_iff :
    resolve? rules error = some rule ↔ IsClosest rules error rule := by
  have hleads := leads_resolve rules error
  have hfound : resolve? rules error = some rule →
      IsClosest rules error rule := by
    intro h
    obtain ⟨⟨least, found⟩, hfold, rfl⟩ := Option.map_eq_some_iff.1 h
    rw [hfold] at hleads
    cases hleads with
    | some hstands => exact ⟨_, _, least, rfl, hstands⟩
  refine ⟨hfound, fun h => ?_⟩
  cases hfold : rules.foldl (closer error) none with
  | none =>
      rw [hfold] at hleads
      obtain ⟨before, after, least, rfl, hstands⟩ := h
      generalize hrules : before ++ rule :: after = rules at hleads
      cases hleads with
      | none hnone =>
          have hrule := hnone rule (by simp [← hrules])
          rw [hstands.distance_eq] at hrule
          contradiction
  | some best =>
      rw [hfold] at hleads
      rw [resolve?, hfold, Option.map_some]
      cases hleads with
      | some hstands =>
          have hclosest : IsClosest _ error _ := ⟨_, _, _, rfl, hstands⟩
          rw [hclosest.unique h]

theorem resolve?_eq_none_iff :
    resolve? rules error = none ↔
      ∀ rule ∈ rules, ¬ rule.matcher.Matches error := by
  have hleads := leads_resolve rules error
  rw [resolve?, Option.map_eq_none_iff]
  constructor
  · intro h rule hrule hmatches
    rw [h] at hleads
    obtain ⟨distance, hdistance⟩ := ErrorMatcher.matches_iff.1 hmatches
    cases hleads with
    | none hnone =>
        rw [hnone rule hrule] at hdistance
        contradiction
  · intro h
    generalize rules.foldl (closer error) none = best at hleads
    cases hleads with
    | none => rfl
    | @some before after rule least hstands =>
        exact absurd (ErrorMatcher.matches_iff.2 ⟨least, hstands.distance_eq⟩)
          (h rule (by simp))

/-- The order of rules counts only among those of one matcher. -/
theorem resolve?_perm {reordered : List (ErrorRule σ)}
    (hdistinct : (rules.map (·.matcher)).Nodup) (hperm : rules.Perm reordered) :
    resolve? rules error = resolve? reordered error := by
  cases hfirst : resolve? rules error with
  | none =>
      refine (resolve?_eq_none_iff.2 fun rule hrule => ?_).symm
      exact resolve?_eq_none_iff.1 hfirst rule (hperm.mem_iff.2 hrule)
  | some rule =>
      have hclosest := resolve?_eq_some_iff.1 hfirst
      cases hsecond : resolve? reordered error with
      | none =>
          obtain ⟨before, after, least, rfl, hstands⟩ := hclosest
          exact absurd (ErrorMatcher.matches_iff.2 ⟨least, hstands.distance_eq⟩)
            (resolve?_eq_none_iff.1 hsecond rule (hperm.mem_iff.1 (by simp)))
      | some other =>
          obtain ⟨before, after, least, hrules, hstands⟩ := hclosest
          obtain ⟨earlier, later, lowest, hreordered, hothers⟩ :=
            resolve?_eq_some_iff.1 hsecond
          have hrule : rule ∈ rules := by simp [hrules]
          have hother : other ∈ rules := hperm.mem_iff.2 (by simp [hreordered])
          have hle : least ≤ lowest :=
            hstands.least_le (hrules ▸ hother) hothers.distance_eq
          have hge : lowest ≤ least :=
            hothers.least_le (hreordered ▸ hperm.mem_iff.1 hrule)
              hstands.distance_eq
          obtain rfl := Nat.le_antisymm hle hge
          have hmatcher :=
            ErrorMatcher.eq_of_distance?_eq hstands.distance_eq
              hothers.distance_eq
          rw [List.inj_on_of_nodup_map hdistinct hrule hother hmatcher]

/-! ## Translation -/

/-- The closest rule handles the cause of an error; without a matching rule it
gets the default answer. -/
inductive Translates (rules : List (ErrorRule σ)) (request : Request)
    (error : Error) : Action σ Response → Prop where
  | rule {rule : ErrorRule σ} (h : IsClosest rules error.cause rule) :
      Translates rules request error (rule.handle request error.cause)
  | unmatched (h : ∀ rule ∈ rules, ¬ rule.matcher.Matches error.cause) :
      Translates rules request error
        (Action.ofLogged error.cause.defaultResponse)

theorem translates_iff_eq {request : Request} {action : Action σ Response} :
    Translates rules request error action ↔
      translate rules request error = action := by
  rw [translate]
  constructor
  · rintro (h | h)
    · rw [resolve?_eq_some_iff.2 h]
    · rw [resolve?_eq_none_iff.2 h]
  · rintro rfl
    cases hrule : resolve? rules error.cause with
    | none => exact .unmatched (resolve?_eq_none_iff.1 hrule)
    | some rule => exact .rule (resolve?_eq_some_iff.1 hrule)

/-- Errors are translated by the earliest of the closest rules, types being
closer than kinds and kinds closer than those above them; rules of different
matchers may stand in any order. -/
theorem translate_by_closest :
    (∀ (rules : List (ErrorRule σ)) (request : Request) (error : Error)
        (action : Action σ Response),
      translate rules request error = action ↔
      Translates rules request error action) ∧
    (∀ (matcher : ErrorMatcher) (error : Error),
      matcher.Matches error ↔
      ∃ distance, matcher.distance? error = some distance) ∧
    (∀ (first second : ErrorMatcher) (error : Error) (near far : Nat),
      first.distance? error = some near → second.distance? error = some far →
        (near < far ↔ first.IsCloser second) ∧ (near = far ↔ first = second)) ∧
    (∀ rules reordered : List (ErrorRule σ), (rules.map (·.matcher)).Nodup →
      rules.Perm reordered → ∀ (request : Request) (error : Error),
        translate rules request error = translate reordered request error) := by
  refine ⟨fun _ _ _ _ => translates_iff_eq.symm,
    fun _ _ => ErrorMatcher.matches_iff, ?_, ?_⟩
  · intro first second error near far hfirst hsecond
    refine ⟨(ErrorMatcher.isCloser_iff hfirst hsecond).symm, ?_, ?_⟩
    · rintro rfl
      exact ErrorMatcher.eq_of_distance?_eq hfirst hsecond
    · rintro rfl
      exact Option.some.inj (hfirst.symm.trans hsecond)
  · intro rules reordered hdistinct hperm request error
    rw [translate, translate, resolve?_perm hdistinct hperm]

/-- A rule that answers with a status. -/
def answering (matcher : ErrorMatcher) (status : Nat) : ErrorRule Unit :=
  ⟨matcher, fun _ _ => pure (.ofStatus status)⟩

def soldOut : Error := .application ⟨"OutOfStock", "sold out"⟩

theorem translate_soldOut :
    let any := answering (.kind .any) 599
    let internal := answering (.kind .internal) 503
    let typed := answering (.type "OutOfStock") 409
    ([any, internal, typed].map (·.matcher)).Nodup ∧
      [any, internal, typed].Perm [typed, any, internal] ∧
      typed.matcher.distance? soldOut = some 0 ∧
      internal.matcher.distance? soldOut = some 2 ∧
      typed.matcher.IsCloser internal.matcher ∧
      ∀ request, translate [any, internal, typed] request (.wrapped soldOut) =
        pure (.ofStatus 409) := by
  intro any internal typed
  have hdistinct : ([any, internal, typed].map (·.matcher)).Nodup := by decide
  have hperm : ([any, internal] ++ [typed]).Perm ([typed] ++ [any, internal]) :=
    List.perm_append_comm
  have htyped : typed.matcher.distance? soldOut = some 0 :=
    ErrorMatcher.distance?_type_eq_some_iff.2 ⟨rfl, _, rfl, rfl⟩
  have hinternal : internal.matcher.distance? soldOut = some 2 :=
    ErrorMatcher.distance?_kind_eq_some_iff.2 ⟨1, rfl, rfl⟩
  refine ⟨hdistinct, hperm, htyped, hinternal, ?_, fun request => ?_⟩
  · exact ((translate_by_closest (σ := Unit)).2.2.1 _ _ _ _ _ htyped
      hinternal).1.1 (by decide)
  · have hclosest : IsClosest [typed, any, internal] soldOut typed :=
      ⟨[], [any, internal], 0, rfl, htyped,
        by simp, fun _ _ _ _ => Nat.zero_le _⟩
    have hrule : Translates [typed, any, internal] request (.wrapped soldOut)
        (typed.handle request soldOut) := .rule hclosest
    rw [translate_by_closest.2.2.2 _ _ hdistinct hperm]
    exact (translate_by_closest.1 _ _ _ _).2 hrule

end ErrorRules

end HttpEngine
