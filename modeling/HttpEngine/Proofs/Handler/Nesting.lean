import HttpEngine.Route.Router
import Mathlib.Data.List.Forall2

/-!
# Filters behind filters

A composite filter hands the request to its first filter, and what comes next
for that is the composite of the others.  It is a filter like any other, so a
composite may stand in a composite.  Only the order of the filters counts:
`composite_nesting` takes the inner composite apart, and finds the same order in
the handlers of a router, the global filter in front of that of the route.
-/

namespace HttpEngine

variable {σ : Type}

theorem behindAll_nested (outer inner rest : List (Filter σ))
    (handler : Handler σ) :
    behindAll (outer ++ [composite inner] ++ rest) handler =
      behindAll (outer ++ inner ++ rest) handler := by
  have hsingle : behindAll [composite inner] (behindAll rest handler) =
      behindAll inner (behindAll rest handler) := rfl
  rw [behindAll_append, behindAll_append, hsingle, behindAll_append,
    behindAll_append]

namespace Router

variable {name : String} {globalFilter : Option (Filter σ)}
  {entries : List (RouteEntry σ)} {entry : RouteEntry σ}

theorem guard_eq (globalFilter : Option (Filter σ)) (entry : RouteEntry σ) :
    guard globalFilter entry =
      behindAll (globalFilter.toList ++ entry.filter.toList) entry.handler := by
  obtain ⟨method, template, bodyParser, filter, handler⟩ := entry
  cases globalFilter <;> cases filter <;> rfl

/-- What the route of an entry is made of. -/
structure IsBuilt (globalFilter : Option (Filter σ)) (entry : RouteEntry σ)
    (route : Route σ) : Prop where
  method_eq : route.method = entry.method
  compile_eq : Pattern.compile entry.template = .ok route.pattern
  bodyParser_eq : route.bodyParser = entry.bodyParser
  /-- The handler runs behind the filters that are there. -/
  handler_eq : ∀ request, route.handler request =
    composite (globalFilter.toList ++ entry.filter.toList) request entry.handler

theorem isBuilt_iff {route : Route σ} :
    IsBuilt globalFilter entry route ↔
      ∃ pattern, Pattern.compile entry.template = .ok pattern ∧
        route = ⟨entry.method, pattern, entry.bodyParser,
          guard globalFilter entry⟩ := by
  constructor
  · intro hbuilt
    refine ⟨route.pattern, hbuilt.compile_eq, ?_⟩
    rw [guard_eq, ← hbuilt.method_eq, ← hbuilt.bodyParser_eq]
    exact congrArg (Route.mk _ _ _) (funext hbuilt.handler_eq)
  · rintro ⟨pattern, hcompiled, rfl⟩
    exact ⟨rfl, hcompiled, rfl, congrFun (guard_eq globalFilter entry)⟩

theorem buildRoutes_eq_ok_iff {routes : List (Route σ)} :
    (buildRoutes name globalFilter entries).value = .ok routes ↔
      List.Forall₂ (IsBuilt globalFilter) entries routes := by
  induction entries generalizing routes with
  | nil =>
      rw [buildRoutes, List.forall₂_nil_left_iff]
      constructor
      · intro hbuilt
        exact (Except.ok.inj hbuilt).symm
      · rintro rfl
        rfl
  | cons entry rest ih =>
      rw [buildRoutes, List.forall₂_cons_left_iff]
      simp only [isBuilt_iff, ← ih]
      cases Pattern.compile entry.template with
      | error fault => simp
      | ok pattern =>
          cases (buildRoutes name globalFilter rest).value with
          | error fault => simp [Except.map]
          | ok built => simp [Except.map, eq_comm]

theorem build_eq_ok_iff {router : Router σ} :
    (build name globalFilter entries).value = .ok router ↔
      List.Forall₂ (IsBuilt globalFilter) entries router.routes := by
  rw [← @buildRoutes_eq_ok_iff σ name, build]
  cases (buildRoutes name globalFilter entries).value with
  | error fault => simp [Except.map]
  | ok routes =>
      obtain ⟨built⟩ := router
      simp [Except.map]

end Router

/-- A composite hands the request to its first filter with the composite of the
others behind it, and to the handler when there is none.  A composite in it is
as if its filters stood there themselves, and a router is built of the handlers
behind the composites of their filters, the global one first. -/
theorem composite_nesting (handler : Handler σ) :
    (∀ request, composite [] request handler = handler request) ∧
    (∀ filter filters request,
      composite (filter :: filters) request handler =
        filter request fun altered => composite filters altered handler) ∧
    (∀ outer inner rest request,
      composite (outer ++ [composite inner] ++ rest) request handler =
        composite (outer ++ inner ++ rest) request handler) ∧
    ∀ name (globalFilter : Option (Filter σ)) entries router,
      (Router.build name globalFilter entries).value = .ok router ↔
        List.Forall₂ (Router.IsBuilt globalFilter) entries router.routes := by
  refine ⟨fun _ => rfl, fun _ _ _ => rfl, ?_, ?_⟩
  · exact fun outer inner rest =>
      congrFun (behindAll_nested outer inner rest handler)
  · exact fun _ _ _ _ => Router.build_eq_ok_iff

/-- Leaves a trace before and after what comes next. -/
def tracing (name : String) : Filter (List String) := fun request next => do
  Action.changeState (· ++ [name])
  let response ← next request
  Action.changeState (· ++ [name])
  pure response

example (method : Method) (request : Request) :
    let handler : Handler (List String) := fun _ => do
      Action.changeState (· ++ ["handler"])
      pure .accepted
    let entry : RouteEntry (List String) :=
      ⟨method, "/", none, some (tracing "route"), handler⟩
    (Router.guard (some (tracing "global")) entry request).runIn ⟨#[], []⟩ =
      (.ok .accepted,
        ⟨#[], ["global", "route", "handler", "route", "global"]⟩) := by
  rfl

end HttpEngine
