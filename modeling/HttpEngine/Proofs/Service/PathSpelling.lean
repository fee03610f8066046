import HttpEngine.Proofs.Service.Exchange
import HttpEngine.Proofs.Uri.Spelling
import HttpEngine.Route.PathFilter

/-!
# Requests whose paths are spelled differently

A server looks at a path only after it was decoded.  Requests that differ in the
spelling of their path are logged, routed and filtered alike, and an application
that does not ask for the target as it was written answers them alike.
-/

namespace HttpEngine

open Percent (Spells StandsFor)

/-- The request with its path written in another way. -/
def RequestHead.respelled (head : RequestHead) (path : String) : RequestHead :=
  { head with target := { head.target with path := path } }

namespace RequestHead

variable (head : RequestHead) (path : String)

@[simp] theorem respelled_method : (head.respelled path).method = head.method :=
  rfl

@[simp] theorem respelled_headers :
    (head.respelled path).headers = head.headers := rfl

@[simp] theorem respelled_upgrade? :
    (head.respelled path).upgrade? = head.upgrade? := rfl

@[simp] theorem respelled_writeContext (capacity : Nat) :
    (head.respelled path).writeContext capacity = head.writeContext capacity :=
  rfl

end RequestHead

def Request.respelled (request : Request) (path : String) : Request :=
  { request with target := { request.target with path := path } }

variable {σ : Type}

/-! ## Handlers that do not ask -/

/-- The handler does not look at how the path is written. -/
def IgnoresSpelling (handler : Handler σ) : Prop :=
  ∀ request path, handler (request.respelled path) = handler request

theorem IgnoresSpelling.mergeAllowed {handler : Handler σ}
    (h : IgnoresSpelling handler) (methods : String) :
    IgnoresSpelling (mergeAllowed methods handler) := by
  intro request path
  rw [HttpEngine.mergeAllowed, HttpEngine.mergeAllowed, h]

theorem IgnoresSpelling.filtered {selection : PathSelection} {inner : Filter σ}
    {next : Handler σ} (hinner : IgnoresSpelling (filtered inner next))
    (hnext : IgnoresSpelling next) :
    IgnoresSpelling (filtered (selection.filter inner) next) := by
  intro request path
  simp only [HttpEngine.filtered, PathSelection.filter]
  exact if_congr Iff.rfl (hinner request path) (hnext request path)

namespace Router

/-- What holds of the handlers of the routes, and of the answers a router gives
itself, holds of every handler it finds. -/
theorem find_handler_induction {motive : Handler σ → Prop} {router : Router σ}
    (hroute : ∀ route ∈ router.routes, motive route.handler)
    (hmerge : ∀ methods handler, motive handler →
      motive (mergeAllowed methods handler))
    (hlist : ∀ response methods, motive (listMethods response methods))
    (hmissing : motive fun _ => pure .notFound) (method : Method)
    (path : String) :
    motive (router.find method path).handler := by
  have hcandidate : ∀ candidate ∈ router.candidates path,
      motive candidate.1.handler := by
    intro candidate hmem
    obtain ⟨route, hmember, hmatch⟩ := List.mem_filterMap.1 hmem
    obtain ⟨params, -, rfl⟩ := Option.map_eq_some_iff.1 hmatch
    exact hroute route hmember
  have hmatched : ∀ {wanted routing},
      matchMethod? (router.candidates path) wanted = some routing →
      motive routing.handler := by
    intro wanted routing h
    obtain ⟨candidate, hfind, rfl⟩ := Option.map_eq_some_iff.1 h
    have hhandler := hcandidate candidate (List.mem_of_find?_eq_some hfind)
    dsimp only
    split
    · exact hmerge _ _ hhandler
    · exact hhandler
  have hunmatched :
      motive (unmatched (router.candidates path) method).handler := by
    rw [unmatched]
    split <;> exact hlist _ _
  rw [find, resolve]
  split
  · exact hmissing
  · split
    · next hmatch => exact hmatched hmatch
    · split
      · cases hget : matchMethod? (router.candidates path) .get with
        | none => exact hunmatched
        | some routing => exact hmatched hget
      · exact hunmatched

theorem ignoresSpelling_find {router : Router σ}
    (h : ∀ route ∈ router.routes, IgnoresSpelling route.handler)
    (method : Method) (path : String) :
    IgnoresSpelling (router.find method path).handler := by
  refine find_handler_induction h ?_ ?_ ?_ method path
  · intro methods handler hhandler
    exact hhandler.mergeAllowed methods
  · intro response methods request path
    rfl
  · intro request path
    rfl

end Router

/-! ## Exchanges -/

namespace Service

variable {service : Service σ} {head : RequestHead}

/-- The path under which a request is logged, routed, shown to handlers and
filtered. -/
structure GoesBy (service : Service σ) (head : RequestHead) (path : String) :
    Prop where
  decoded : head.path = path
  logged : ∀ world : World σ, service.routed head world =
    world.note [⟨.debug,
      head.method.name ++ " " ++ path ++ " -> " ++
        (service.router.find head.method path).resolution.name⟩]
  routed : service.routing head = service.router.find head.method path
  shown : ∀ params body, (head.request params body).path = path
  filtered :
    ∀ (selection : PathSelection) (inner : Filter σ) (next : Handler σ)
      params body,
    selection.filter inner (head.request params body) next =
      if selection.appliesTo path then inner (head.request params body) next
      else next (head.request params body)

theorem goesBy_path (service : Service σ) (head : RequestHead) :
    service.GoesBy head head.path where
  decoded := rfl
  logged _ := rfl
  routed := rfl
  shown _ _ := rfl
  filtered _ _ _ _ _ := rfl

theorem goesBy_of_standsFor {written text : String}
    (h : StandsFor written text) :
    service.GoesBy (head.respelled written) text := by
  have hpath : (head.respelled written).path = text := h.decodePath_eq
  have hgoes := service.goesBy_path (head.respelled written)
  rwa [hpath] at hgoes

theorem handle_eq_of_standsFor {first second text : String}
    (hfirst : StandsFor first text) (hsecond : StandsFor second text)
    (hignores : ∀ route ∈ service.router.routes, IgnoresSpelling route.handler)
    (incoming : IncomingBody) :
    service.handle (head.respelled first) incoming =
      service.handle (head.respelled second) incoming := by
  have hpath : (head.respelled first).path = (head.respelled second).path :=
    hfirst.decodePath_eq.trans hsecond.decodePath_eq.symm
  have hrequest : ∀ params body, (head.respelled first).request params body =
      ((head.respelled second).request params body).respelled first := by
    intro params body
    unfold RequestHead.request
    rw [hpath]
    rfl
  have hcall : ∀ request,
      (service.router.find head.method (head.respelled second).path).handler
          (request.respelled first) =
        (service.router.find head.method (head.respelled second).path).handler
          request :=
    fun request => Router.ignoresSpelling_find hignores _ _ request first
  unfold handle
  simp only [hpath, hrequest, RequestHead.respelled_method,
    RequestHead.respelled_headers,
    RequestHead.respelled_upgrade?, RequestHead.respelled_writeContext, hcall]
  rfl

/-- Requests that spell one path are logged, routed and filtered by that path,
and a path that spells no text stands for itself: it is served as any spelling
of it is. -/
theorem handle_respelled (service : Service σ) (head : RequestHead) :
    (∀ text first second : String,
      Spells (Utf8.ofString text) (Utf8.ofString first) →
      Spells (Utf8.ofString text) (Utf8.ofString second) →
      service.GoesBy (head.respelled first) text ∧
      service.GoesBy (head.respelled second) text ∧
        ((∀ route ∈ service.router.routes, IgnoresSpelling route.handler) →
          service.handle (head.respelled first) =
            service.handle (head.respelled second))) ∧
    (∀ written : String,
      (∀ text, Percent.decode (Utf8.ofString written) ≠ Utf8.ofString text) →
      service.GoesBy (head.respelled written) written ∧
        ∀ spelled, Spells (Utf8.ofString written) (Utf8.ofString spelled) →
          (∀ route ∈ service.router.routes, IgnoresSpelling route.handler) →
          service.handle (head.respelled written) =
            service.handle (head.respelled spelled)) := by
  constructor
  · intro text first second hfirst hsecond
    refine ⟨goesBy_of_standsFor (.spelled hfirst),
      goesBy_of_standsFor (.spelled hsecond), ?_⟩
    intro hignores
    funext incoming
    exact handle_eq_of_standsFor (.spelled hfirst) (.spelled hsecond)
      hignores incoming
  · intro written hinvalid
    have hverbatim : StandsFor written written := .verbatim hinvalid rfl
    refine ⟨goesBy_of_standsFor hverbatim, fun spelled hspelled hignores => ?_⟩
    funext incoming
    exact handle_eq_of_standsFor hverbatim (.spelled hspelled) hignores incoming

/-- One route, behind a filter that denies what lies below a prefix. -/
def denying : Service Unit where
  router := ⟨[⟨.get, ⟨"/:name", [.one "name".toList]⟩, none,
    filtered (PathSelection.filter ⟨["/é**"], []⟩ fun _ _ => pure .forbidden)
      fun _ => pure .ok⟩]⟩
  limits := .standard
  capacity := 8

theorem ignoresSpelling_denying :
    ∀ route ∈ denying.router.routes, IgnoresSpelling route.handler := by
  intro route hroute
  obtain rfl := List.mem_singleton.1 hroute
  dsimp only
  apply IgnoresSpelling.filtered
  · intro request path
    rfl
  · intro request path
    rfl

/-- Digits of both cases, and a slash that is spelled out. -/
theorem spells_accent :
    Spells (Utf8.ofString "/é") (Utf8.ofString "/%C3%A9") ∧
      Spells (Utf8.ofString "/é") (Utf8.ofString "%2f%c3%a9") := by
  have htext : Utf8.ofString "/é" = [47, 195, 169] := by decide
  have hfirst : Utf8.ofString "/%C3%A9" = [47, 37, 67, 51, 37, 65, 57] := by
    decide
  have hsecond :
      Utf8.ofString "%2f%c3%a9" = [37, 50, 102, 37, 99, 51, 37, 97, 57] := by
    decide
  rw [htext, hfirst, hsecond]
  constructor
  · apply Spells.plain (by decide) (by decide)
    apply Spells.escaped (by decide) (by decide)
    apply Spells.escaped (by decide) (by decide)
    exact .nil
  · apply Spells.escaped (by decide) (by decide)
    apply Spells.escaped (by decide) (by decide)
    apply Spells.escaped (by decide) (by decide)
    exact .nil

theorem handle_respelled_accent :
    Spells (Utf8.ofString "/é") (Utf8.ofString "/%C3%A9") ∧
      Spells (Utf8.ofString "/é") (Utf8.ofString "%2f%c3%a9") ∧
      (∀ route ∈ denying.router.routes, IgnoresSpelling route.handler) ∧
      denying.GoesBy ((rootHead .get).respelled "%2f%c3%a9") "/é" ∧
      denying.handle ((rootHead .get).respelled "/%C3%A9") =
        denying.handle ((rootHead .get).respelled "%2f%c3%a9") ∧
      (∀ text, Percent.decode (Utf8.ofString "/%ff") ≠ Utf8.ofString text) ∧
      denying.GoesBy ((rootHead .get).respelled "/%ff") "/%ff" := by
  obtain ⟨hfirst, hsecond⟩ := spells_accent
  have hinvalid :
      ∀ text, Percent.decode (Utf8.ofString "/%ff") ≠ Utf8.ofString text :=
    Utf8.toString?_eq_none_iff.1 (by decide)
  have hserved :=
    (handle_respelled denying (rootHead .get)).1 "/é" "/%C3%A9" "%2f%c3%a9"
      hfirst hsecond
  have hverbatim := (handle_respelled denying (rootHead .get)).2 "/%ff" hinvalid
  exact ⟨hfirst, hsecond, ignoresSpelling_denying, hserved.2.1,
    hserved.2.2 ignoresSpelling_denying, hinvalid, hverbatim.1⟩

end Service

end HttpEngine
