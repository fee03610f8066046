import HttpEngine.Proofs.Route.Names

/-!
# The order of a route table

What a router finds depends on the routes that match the path, and on the order
only among those of one method.
-/

namespace HttpEngine.Router

variable {σ : Type}

/-! ## Candidates -/

theorem filter_candidates (routes : List (Route σ)) (path : String)
    (method : Method) :
    ((⟨routes⟩ : Router σ).candidates path).filter (·.1.method == method) =
      (⟨routes.filter (·.method == method)⟩ : Router σ).candidates path := by
  induction routes with
  | nil => rfl
  | cons route routes ih =>
      simp only [candidates] at ih ⊢
      cases hmatch : route.pattern.matchPath? path with
      | none =>
          by_cases hmethod :
            route.method = method <;> simp [hmatch, hmethod, ih]
      | some params =>
          by_cases hmethod :
            route.method = method <;> simp [hmatch, hmethod, ih]

theorem candidates_filter_isMatch (routes : List (Route σ)) (path : String) :
    (⟨routes.filter (·.pattern.isMatch path)⟩ : Router σ).candidates path =
      (⟨routes⟩ : Router σ).candidates path := by
  induction routes with
  | nil => rfl
  | cons route routes ih =>
      simp only [candidates, Pattern.isMatch_eq] at ih ⊢
      cases hmatch : route.pattern.matchPath? path <;> simp [hmatch, ih]

/-! ## Resolution -/

section

variable {first second : List (Candidate σ)}

/-- The candidates of each method are the same and in the same order. -/
def SameForMethods (first second : List (Candidate σ)) : Prop :=
  ∀ method, first.filter (·.1.method == method) =
    second.filter (·.1.method == method)

theorem SameForMethods.mem_iff (h : SameForMethods first second)
    {candidate : Candidate σ} :
    candidate ∈ first ↔ candidate ∈ second := by
  have hmem : ∀ candidates : List (Candidate σ),
      candidate ∈ candidates ↔
        candidate ∈ candidates.filter (·.1.method == candidate.1.method) := by
    simp
  rw [hmem first, hmem second, h]

theorem SameForMethods.isEmpty_eq (h : SameForMethods first second) :
    first.isEmpty = second.isEmpty := by
  rw [Bool.eq_iff_iff, List.isEmpty_iff, List.isEmpty_iff,
    List.eq_nil_iff_forall_not_mem, List.eq_nil_iff_forall_not_mem]
  simp [h.mem_iff]

theorem SameForMethods.allowedMethods_eq (h : SameForMethods first second) :
    allowedMethods first = allowedMethods second := by
  unfold allowedMethods
  rw [sortDistinct_congr]
  simp [h.mem_iff]

theorem SameForMethods.matchMethod?_eq (h : SameForMethods first second)
    (method : Method) :
    matchMethod? first method = matchMethod? second method := by
  have hfind : first.find? (·.1.method == method) =
      second.find? (·.1.method == method) := by
    rw [← List.head?_filter, ← List.head?_filter, h]
  rw [matchMethod?, matchMethod?, hfind, h.allowedMethods_eq]

theorem SameForMethods.resolve_eq (h : SameForMethods first second)
    (method : Method) :
    resolve first method = resolve second method := by
  have hunmatched : unmatched first method = unmatched second method := by
    rw [unmatched, unmatched, h.allowedMethods_eq]
  rw [resolve, resolve, h.isEmpty_eq, h.matchMethod?_eq, h.matchMethod?_eq,
    hunmatched]

end

theorem sameForMethods_candidates {first second : List (Route σ)}
    (h : ∀ method, first.filter (·.method == method) =
      second.filter (·.method == method))
    (path : String) :
    SameForMethods ((⟨first⟩ : Router σ).candidates path)
      ((⟨second⟩ : Router σ).candidates path) := by
  intro method
  rw [filter_candidates, filter_candidates, h]

/-- A router finds the same after its routes were reordered, those of one method
keeping their order, and after routes that do not match the path were put in or
taken out. -/
theorem find_eq_of_reordered {routes reordered changed : List (Route σ)}
    {path : String} (horder : ∀ method,
      reordered.filter (·.method == method) =
        routes.filter (·.method == method))
    (hmatching :
      changed.filter (·.pattern.isMatch path) =
        reordered.filter (·.pattern.isMatch path))
    (method : Method) :
    (⟨changed⟩ : Router σ).find method path =
      (⟨routes⟩ : Router σ).find method path := by
  rw [find, find, ← candidates_filter_isMatch changed, hmatching,
    candidates_filter_isMatch]
  exact (sameForMethods_candidates horder path).resolve_eq method

/-- The route of a method and a pattern that answers with a status. -/
def statusRoute (method : Method) (pattern : Pattern) (status : Nat) :
    Route Unit :=
  ⟨method, pattern, none, fun _ => pure (.ofStatus status)⟩

def leafPattern : Pattern := ⟨"/a/b", [.literal ['a'], .literal ['b']]⟩

def restPattern : Pattern :=
  ⟨"/a/*path", [.literal ['a'], .optionalRest "path".toList]⟩

def elsewherePattern : Pattern := ⟨"/z", [.literal ['z']]⟩

theorem find_reordered_leaf :
    let leaf := statusRoute .get leafPattern 200
    let rest := statusRoute .get restPattern 202
    let posted := statusRoute .post restPattern 201
    let elsewhere := statusRoute .put elsewherePattern 204
    (∀ method, [posted, leaf, rest].filter (·.method == method) =
        [leaf, posted, rest].filter (·.method == method)) ∧
      [posted, elsewhere, leaf, rest].filter (·.pattern.isMatch "/a/b") =
        [posted, leaf, rest].filter (·.pattern.isMatch "/a/b") ∧
      ((⟨[posted, elsewhere, leaf, rest]⟩ : Router Unit).find .put "/a/b" =
        (⟨[leaf, posted, rest]⟩ : Router Unit).find .put "/a/b") ∧
      ((⟨[posted, elsewhere, leaf, rest]⟩ : Router Unit).find .get
        "/a/b").handler = leaf.handler := by
  intro leaf rest posted elsewhere
  have horder : ∀ method, [posted, leaf, rest].filter (·.method == method) =
      [leaf, posted, rest].filter (·.method == method) := by
    intro method
    by_cases hmethod : method = .post
    · subst hmethod
      rfl
    · have hposted : (posted.method == method) = false :=
        beq_false_of_ne (Ne.symm hmethod)
      simp [List.filter_cons, hposted]
  have hmatching :
      [posted, elsewhere, leaf, rest].filter (·.pattern.isMatch "/a/b") =
      [posted, leaf, rest].filter (·.pattern.isMatch "/a/b") := rfl
  refine ⟨horder, hmatching, find_eq_of_reordered horder hmatching .put, ?_⟩
  rw [find_eq_of_reordered horder hmatching .get]
  rfl

end HttpEngine.Router
