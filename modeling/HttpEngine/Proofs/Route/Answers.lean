import HttpEngine.Proofs.Route.Allow
import HttpEngine.Proofs.Route.Reorder

/-!
# The answers of a path

The routes that match a path give it a set of methods.  Each of these methods
goes to its first route, `HEAD` to that of `GET` when it has none, and any other
method is answered with the set.
-/

namespace HttpEngine

/-- The name is a token, as the name of every method is. -/
def Method.IsToken (method : Method) : Prop := ∀ character ∈ method.name.toList,
  isTokenChar character = true

namespace Routing

variable {σ : Type}

/-- The handler answers every request with this response and does
nothing else. -/
def Answers (routing : Routing σ) (response : Response) : Prop :=
  ∀ request (world : World σ), (routing.handler request).runIn world =
    (.ok response, world)

/-- The request goes to the route; an answer to `OPTIONS` has the names merged
in. -/
structure Selects (routing : Routing σ) (names : String → Prop)
    (method : Method) (route : Route σ) (params : Params) : Prop where
  resolution_eq : routing.resolution = .matched
  params_eq : routing.params = params
  bodyParser_eq : routing.bodyParser = route.bodyParser
  handler_eq : method ≠ .options → routing.handler = route.handler
  merges : method = .options → MergesAllow names route.handler routing.handler

/-- The request is answered with the status and a list of the names. -/
structure Lists (routing : Routing σ) (resolution : Resolution) (status : Nat)
    (names : String → Prop) : Prop where
  resolution_eq : routing.resolution = resolution
  answers : ∃ response, routing.Answers response ∧ response.status = status ∧
    response.AllowsExactly names

end Routing

namespace Router

variable {σ : Type}

/-- The path has the method: a route of that method matches it. -/
def Serves (router : Router σ) (path : String) (method : Method) : Prop :=
  ∃ route ∈ router.routes, route.method = method ∧
    route.pattern.isMatch path = true

/-- The name of a method that the path has. -/
def ServesName (router : Router σ) (path : String) (name : String) : Prop :=
  ∃ method, router.Serves path method ∧ method.name = name

/-- The route matches with these parameters, and no earlier route of the method
does. -/
structure IsFirstRoute (router : Router σ) (path : String) (method : Method)
    (route : Route σ) (params : Params) : Prop where
  method_eq : route.method = method
  params_eq : route.pattern.matchPath? path = some params
  isFirst : ∃ before after, router.routes = before ++ route :: after ∧
    ∀ earlier ∈ before, earlier.method = method →
      earlier.pattern.isMatch path = false

/-! ## Candidates -/

section

variable {router : Router σ} {path : String}

theorem mem_candidates {candidate : Candidate σ} :
    candidate ∈ router.candidates path ↔
      candidate.1 ∈ router.routes ∧ candidate.1.pattern.matchPath? path =
        some candidate.2 := by
  obtain ⟨route, params⟩ := candidate
  simp only [candidates, List.mem_filterMap, Option.map_eq_some_iff,
    Prod.mk.injEq]
  constructor
  · rintro ⟨found, hfound, values, hvalues, rfl, rfl⟩
    exact ⟨hfound, hvalues⟩
  · rintro ⟨hroute, hmatch⟩
    exact ⟨route, hroute, params, hmatch, rfl, rfl⟩

theorem serves_iff {method : Method} :
    router.Serves path method ↔
      ∃ candidate ∈ router.candidates path, candidate.1.method = method := by
  constructor
  · rintro ⟨route, hroute, hmethod, hmatch⟩
    obtain ⟨params, hparams⟩ := (route.pattern.isMatch_iff path).1 hmatch
    exact ⟨(route, params), mem_candidates.2 ⟨hroute, hparams⟩, hmethod⟩
  · rintro ⟨candidate, hcandidate, hmethod⟩
    obtain ⟨hroute, hmatch⟩ := mem_candidates.1 hcandidate
    have hmatches := (candidate.1.pattern.isMatch_iff path).2 ⟨_, hmatch⟩
    exact ⟨candidate.1, hroute, hmethod, hmatches⟩

theorem mem_candidateNames :
    (· ∈ (router.candidates path).map (·.1.method.name)) =
      router.ServesName path := by
  funext name
  simp [ServesName, serves_iff]

theorem isFirstRoute_of_find? {method : Method} {route : Route σ}
    {params : Params}
    (h : (router.candidates path).find? (·.1.method == method) =
      some (route, params)) :
    router.IsFirstRoute path method route params := by
  rw [candidates, List.find?_filterMap, Option.bind_eq_some_iff] at h
  obtain ⟨found, hfound, hcandidate⟩ := h
  obtain ⟨values, hmatch, hpair⟩ := Option.map_eq_some_iff.1 hcandidate
  obtain ⟨rfl, rfl⟩ := Prod.mk.inj hpair
  obtain ⟨hmethod, before, after, hsplit, hbefore⟩ :=
    List.find?_eq_some_iff_append.1 hfound
  refine ⟨by simpa [hmatch] using hmethod, hmatch, before, after, hsplit, ?_⟩
  intro earlier hearlier hsame
  have hother := hbefore earlier hearlier
  rw [Pattern.isMatch_eq]
  cases hearlierMatch : earlier.pattern.matchPath? path with
  | none => rfl
  | some values => simp [hearlierMatch, hsame] at hother

theorem exists_find?_candidates {method : Method}
    (h : router.Serves path method) :
    ∃ route params,
      (router.candidates path).find? (·.1.method == method) =
        some (route, params) := by
  obtain ⟨candidate, hcandidate, hmethod⟩ := serves_iff.1 h
  have hfound :
      ((router.candidates path).find? (·.1.method == method)).isSome = true :=
    List.find?_isSome.2 ⟨candidate, hcandidate, by simpa using hmethod⟩
  obtain ⟨⟨route, params⟩, hroute⟩ := Option.isSome_iff_exists.1 hfound
  exact ⟨route, params, hroute⟩

/-! ## Resolution -/

theorem candidates_eq_nil_iff :
    router.candidates path = [] ↔ ∀ method, ¬ router.Serves path method := by
  simp only [serves_iff, not_exists, not_and]
  constructor
  · intro hnil method candidate hcandidate
    simp [hnil] at hcandidate
  · intro h
    rw [List.eq_nil_iff_forall_not_mem]
    exact fun candidate hcandidate => h _ candidate hcandidate rfl

theorem isEmpty_candidates {method : Method} (h : router.Serves path method) :
    (router.candidates path).isEmpty = false := by
  rw [List.isEmpty_eq_false_iff, ne_eq, candidates_eq_nil_iff]
  exact fun hnone => hnone method h

theorem matchMethod?_eq_none_iff {method : Method} :
    matchMethod? (router.candidates path) method = none ↔
      ¬ router.Serves path method := by
  rw [matchMethod?, Option.map_eq_none_iff, List.find?_eq_none, serves_iff]
  simp

theorem find_of_not_serves (h : ∀ method, ¬ router.Serves path method)
    (method : Method) :
    router.find method path =
      ⟨.notFound, .empty .path, none, fun _ => pure .notFound⟩ := by
  rw [find, resolve, candidates_eq_nil_iff.2 h]
  rfl

theorem find_of_serves {method : Method} (h : router.Serves path method) :
    matchMethod? (router.candidates path) method =
      some (router.find method path) := by
  cases hmatch : matchMethod? (router.candidates path) method with
  | none => exact absurd h (matchMethod?_eq_none_iff.1 hmatch)
  | some routing => simp [find, resolve, isEmpty_candidates h, hmatch]

theorem find_head (hhead : ¬ router.Serves path .head)
    (hget : router.Serves path .get) :
    router.find .head path = router.find .get path := by
  rw [find, resolve, isEmpty_candidates hget, matchMethod?_eq_none_iff.2 hhead,
    find_of_serves hget]
  rfl

theorem find_of_unmatched {served method : Method}
    (hserved : router.Serves path served) (h : ¬ router.Serves path method)
    (hhead : method = .head → ¬ router.Serves path .get) :
    router.find method path = unmatched (router.candidates path) method := by
  rw [find, resolve, isEmpty_candidates hserved, matchMethod?_eq_none_iff.2 h]
  by_cases hmethod : method = .head
  · simp [hmethod, matchMethod?_eq_none_iff.2 (hhead hmethod)]
  · simp [hmethod]

/-! ## Answers -/

theorem isVisible_candidateNames
    (h : ∀ route ∈ router.routes, route.method.IsToken) :
    ∀ name ∈ (router.candidates path).map (·.1.method.name),
      IsVisible name.toList ∧ ',' ∉ name.toList := by
  intro name hname
  obtain ⟨candidate, hcandidate, rfl⟩ := List.mem_map.1 hname
  have htoken := h candidate.1 (mem_candidates.1 hcandidate).1
  constructor
  · intro character hcharacter
    exact (isVisibleChar_of_isTokenChar (htoken character hcharacter)).1
  · intro hcomma
    exact (isVisibleChar_of_isTokenChar (htoken ',' hcomma)).2 rfl

theorem selects_find (htokens : ∀ route ∈ router.routes, route.method.IsToken)
    {method : Method} (h : router.Serves path method) :
    ∃ route params, router.IsFirstRoute path method route params ∧
      (router.find method path).Selects (router.ServesName path) method route
        params := by
  obtain ⟨route, params, hroute⟩ := exists_find?_candidates h
  have hfind := find_of_serves h
  rw [matchMethod?, hroute, Option.map_some, Option.some.injEq] at hfind
  refine ⟨route, params, isFirstRoute_of_find? hroute, ?_⟩
  rw [← hfind]
  refine ⟨rfl, rfl, rfl, fun hmethod => if_neg hmethod, fun hmethod => ?_⟩
  have hnames : (router.candidates path).map (·.1.method.name) ≠ [] := by
    rw [ne_eq, List.map_eq_nil_iff, candidates_eq_nil_iff]
    exact fun hnone => hnone method h
  have hmerges :=
    mergesAllow_mergeAllowed hnames (isVisible_candidateNames htokens)
      route.handler
  rw [mem_candidateNames] at hmerges
  simpa only [hmethod, if_true, allowedMethods] using hmerges

theorem lists_unmatched
    (htokens : ∀ route ∈ router.routes, route.method.IsToken)
    (method : Method) :
    (unmatched (router.candidates path) method).Lists
      (if method = .options then .matched else .methodNotAllowed)
          (if method = .options then 200 else 405)
          (router.ServesName path) := by
  have hvisible : ∀ name ∈ (router.candidates path).map (·.1.method.name),
      IsVisible name.toList :=
        fun name hname => (isVisible_candidateNames htokens name hname).1
  by_cases hmethod : method = .options
  · obtain ⟨answer, hstatus, hallows, hanswer⟩ := runIn_listMethods .ok hvisible
    rw [mem_candidateNames] at hallows
    rw [unmatched, if_pos hmethod, if_pos hmethod, if_pos hmethod]
    exact ⟨rfl, answer, hanswer, hstatus, hallows⟩
  · obtain ⟨answer, hstatus, hallows, hanswer⟩ :=
      runIn_listMethods .methodNotAllowed hvisible
    rw [mem_candidateNames] at hallows
    rw [unmatched, if_neg hmethod, if_neg hmethod, if_neg hmethod]
    exact ⟨rfl, answer, hanswer, hstatus, hallows⟩

end

/-- The methods of a path go to their first routes, and all other methods are
answered with the list of them. -/
theorem find_agrees (router : Router σ) (path : String)
    (htokens : ∀ route ∈ router.routes, route.method.IsToken) :
    ((∀ method, ¬ router.Serves path method) → ∀ method,
      (router.find method path).resolution = .notFound ∧
        (router.find method path).Answers .notFound) ∧
    (∀ method, router.Serves path method → ∃ route params,
      router.IsFirstRoute path method route params ∧
        (router.find method path).Selects (router.ServesName path) method
          route params) ∧
    (¬ router.Serves path .head → router.Serves path .get →
      router.find .head path = router.find .get path) ∧
    ∀ served method, router.Serves path served → ¬ router.Serves path method →
      (method = .head → ¬ router.Serves path .get) →
        (router.find method path).Lists
          (if method = .options then .matched else .methodNotAllowed)
          (if method = .options then 200 else 405)
          (router.ServesName path) := by
  refine ⟨fun hnone method => ?_, fun method h => selects_find htokens h,
    find_head, ?_⟩
  · rw [find_of_not_serves hnone method]
    exact ⟨rfl, fun _ _ => rfl⟩
  · intro served method hserved h hhead
    rw [find_of_unmatched hserved h hhead]
    exact lists_unmatched htokens method

/-- A route for `OPTIONS` that allows more methods on its own. -/
def listingRoute : Route Unit :=
  ⟨.options, restPattern, none, fun _ =>
    pure { Response.noContent with
      headers := ⟨[("allow", Utf8.ofString "TRACE,, GET")]⟩ }⟩

def listingRouter : Router Unit :=
  ⟨[statusRoute .get leafPattern 200, listingRoute,
    statusRoute ⟨"PURGE"⟩ restPattern 202]⟩

theorem find_agrees_listing :
    (∀ route ∈ listingRouter.routes, route.method.IsToken) ∧
      listingRouter.Serves "/a/b" .options ∧ listingRouter.Serves "/a/b" .get ∧
      ¬ listingRouter.Serves "/a/b" .head ∧ ¬ listingRouter.Serves "/a/b" .put ∧
      (∃ route params, listingRouter.IsFirstRoute "/a/b" .options route params ∧
        (listingRouter.find .options "/a/b").Selects
          (listingRouter.ServesName "/a/b") .options route params) ∧
      listingRouter.find .head "/a/b" = listingRouter.find .get "/a/b" ∧
      (listingRouter.find .put "/a/b").Lists .methodNotAllowed 405
        (listingRouter.ServesName "/a/b") ∧
      (∀ method, ¬ listingRouter.Serves "/z" method) ∧
      (listingRouter.find .get "/z").Answers .notFound := by
  have htokens : ∀ route ∈ listingRouter.routes, route.method.IsToken := by
    have hnames :
        (listingRouter.routes.all (·.method.name.toList.all isTokenChar)) =
          true := by
      decide +kernel
    exact fun route hroute =>
      List.all_eq_true.1 (List.all_eq_true.1 hnames route hroute)
  have hoptions : listingRouter.Serves "/a/b" .options :=
    ⟨listingRoute, by simp [listingRouter], rfl, by decide +kernel⟩
  have hget : listingRouter.Serves "/a/b" .get :=
    ⟨statusRoute .get leafPattern 200,
      by simp [listingRouter], rfl, by decide +kernel⟩
  have hmethods : ∀ method, listingRouter.Serves "/a/b" method →
      method ∈ listingRouter.routes.map (·.method) := by
    rintro method ⟨route, hroute, rfl, -⟩
    exact List.mem_map_of_mem hroute
  have hhead : ¬ listingRouter.Serves "/a/b" .head := fun h =>
    absurd (hmethods .head h) (by decide)
  have hput : ¬ listingRouter.Serves "/a/b" .put := fun h =>
    absurd (hmethods .put h) (by decide)
  have hnowhere : ∀ method, ¬ listingRouter.Serves "/z" method := by
    have hmatches :
        (listingRouter.routes.all (!·.pattern.isMatch "/z")) = true := by
      decide +kernel
    rintro method ⟨route, hroute, -, hmatch⟩
    have hother := List.all_eq_true.1 hmatches route hroute
    simp [hmatch] at hother
  obtain ⟨hnotFound, hselects, hfallback, hlists⟩ :=
    find_agrees listingRouter "/a/b" htokens
  exact ⟨htokens, hoptions, hget, hhead, hput, hselects .options hoptions,
    hfallback hhead hget,
    hlists .get .put hget hput (fun h => absurd h (by decide)), hnowhere,
    ((find_agrees listingRouter "/z" htokens).1 hnowhere .get).2⟩

end Router

end HttpEngine
