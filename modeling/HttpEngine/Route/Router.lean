import HttpEngine.Body.Parser
import HttpEngine.Handler
import HttpEngine.Route.Pattern

/-!
# Routing

A router is built from routes in their order of registration.  A path belongs to
all routes whose pattern matches it; among these the first route of the
request's method answers.  `HEAD` falls back to `GET`, an unregistered `OPTIONS`
lists the methods of the path, and any other method that the path does not have
is answered with 405 and the same list.
-/

namespace HttpEngine

/-! ## Route tables -/

structure Route (σ : Type) where
  method : Method
  pattern : Pattern
  /-- A fresh parser for the bodies of this route. -/
  bodyParser : Option BodyParser
  handler : Handler σ

/-- A route before its pattern is compiled. -/
structure RouteEntry (σ : Type) where
  method : Method
  template : String
  bodyParser : Option BodyParser
  filter : Option (Filter σ)
  handler : Handler σ

inductive Resolution where
  | matched
  | notFound
  | methodNotAllowed
  deriving DecidableEq, Repr

def Resolution.name : Resolution → String
  | .matched => "Matched"
  | .notFound => "NotFound"
  | .methodNotAllowed => "MethodNotAllowed"

/-- Where a request goes; there is always a handler to call. -/
structure Routing (σ : Type) where
  resolution : Resolution
  params : Params
  bodyParser : Option BodyParser
  handler : Handler σ

/-! ## Lists of methods -/

/-- The names in increasing order, each one once. -/
def sortDistinct (names : List String) : List String :=
  (names.mergeSort fun first second => decide (first ≤ second)).eraseReps

def joinNames (names : List String) : String := ", ".intercalate names

/-- The names that a text joins. -/
def splitNames (text : String) : List String :=
  (Sequence.splitRuns ", ".toList text.toList).map String.ofList

variable {σ : Type}

/-- A route that a path matches, with the parameters of the match. -/
abbrev Candidate (σ : Type) : Type := Route σ × Params

/-- The methods of the candidates in one text. -/
def allowedMethods (candidates : List (Candidate σ)) : String :=
  joinNames (sortDistinct (candidates.map (·.1.method.name)))

/-- Answers with a response that lists methods. -/
def listMethods (response : Response) (methods : String) : Handler σ :=
  fun _ =>
    Action.ofLogged
      (response.setHeader (Utf8.ofString "allow") (Utf8.ofString methods))

/-- The elements of the lists that a response already allows. -/
def allowedByResponse (response : Response) : List String :=
  ((response.headers.getTexts "allow").flatMap Header.listElements).filterMap
    fun element =>
    if element.isEmpty then none else some (String.ofList element)

/-- Adds methods to those that the answer of a handler allows. -/
def mergeAllowed (methods : String) (handler : Handler σ) : Handler σ :=
  fun request => do
  let response ← handler request
  Action.ofLogged (response.setHeader (Utf8.ofString "allow")
    (Utf8.ofString (joinNames (sortDistinct (splitNames methods ++
      allowedByResponse response)))))

/-! ## Finding a route -/

structure Router (σ : Type) where
  routes : List (Route σ)

namespace Router

def candidates (router : Router σ) (path : String) : List (Candidate σ) :=
  router.routes.filterMap fun route =>
    (route.pattern.matchPath? path).map fun params => (route, params)

/-- The first candidate of a method. -/
def matchMethod? (candidates : List (Candidate σ)) (method : Method) :
    Option (Routing σ) :=
  (candidates.find? (·.1.method == method)).map fun (route, params) =>
    { resolution := .matched
      params := params
      bodyParser := route.bodyParser
      handler :=
        if method = .options then
          mergeAllowed (allowedMethods candidates) route.handler
        else route.handler }

/-- The answer for a method that no candidate has. -/
def unmatched (candidates : List (Candidate σ)) (method : Method) : Routing σ :=
  let methods := allowedMethods candidates
  if method = .options then
    ⟨.matched, .empty .path, none, listMethods .ok methods⟩
  else ⟨.methodNotAllowed, .empty .path, none,
    listMethods .methodNotAllowed methods⟩

/-- Resolves a method among the candidates of a path. -/
def resolve (candidates : List (Candidate σ)) (method : Method) : Routing σ :=
  if candidates.isEmpty then
    ⟨.notFound, .empty .path, none, fun _ => pure .notFound⟩
  else
    match matchMethod? candidates method with
    | some routing => routing
    | none =>
        if method = .head then
          (matchMethod? candidates .get).getD (unmatched candidates method)
        else unmatched candidates method

/-- Finds the handler for a method and a decoded path. -/
def find (router : Router σ) (method : Method) (path : String) : Routing σ :=
  resolve (router.candidates path) method

/-! ## Building a router -/

/-- The handler of an entry behind the filter of the route, and that behind the
global one. -/
def guard (globalFilter : Option (Filter σ)) (entry : RouteEntry σ) :
    Handler σ :=
  let inner :=
    match entry.filter with
    | some filter => filtered filter entry.handler
    | none => entry.handler
  match globalFilter with
  | some filter => filtered filter inner
  | none => inner

/-- Pads a text on the right. -/
def padRight (width : Nat) (text : String) : String :=
  text ++ String.ofList (List.replicate (width - text.length) ' ')

def addedLine (name : String) (entry : RouteEntry σ) : LogLine :=
  ⟨.info, name ++ " route added: " ++ padRight 7 entry.method.name ++ " " ++
    entry.template⟩

/-- Compiles the entries in order, up to the first pattern that has a fault. -/
def buildRoutes (name : String) (globalFilter : Option (Filter σ)) :
    List (RouteEntry σ) → Logged (Except PatternError (List (Route σ)))
  | [] => ⟨.ok [], []⟩
  | entry :: rest =>
      match Pattern.compile entry.template with
      | .error fault => ⟨.error fault, []⟩
      | .ok pattern =>
          let built := buildRoutes name globalFilter rest
          let route : Route σ :=
            ⟨entry.method, pattern, entry.bodyParser, guard globalFilter entry⟩
          ⟨built.value.map (route :: ·), addedLine name entry :: built.lines⟩

/-- The name that log lines start with unless another one is given. -/
def standardName : String := "ferrite"

def build (name : String) (globalFilter : Option (Filter σ))
    (entries : List (RouteEntry σ)) :
    Logged (Except PatternError (Router σ)) :=
  let built := buildRoutes name globalFilter entries
  ⟨built.value.map (⟨·⟩), built.lines⟩

end Router

end HttpEngine
