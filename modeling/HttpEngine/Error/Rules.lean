import HttpEngine.Handler

/-!
# Rules for errors

A list of rules translates the errors of a handler.  A rule matches a kind with
all kinds under it, or one error type of the application.  The closest match
wins, the earliest rule among equals; an application error sits one step below
its kind, so that its type is closer than the kind.
-/

namespace HttpEngine

inductive ErrorMatcher where
  | kind (kind : ErrorKind)
  | type (name : String)
  deriving DecidableEq, Repr

/-- How far an error is from a matcher, `none` when it does not match. -/
def ErrorMatcher.distance? (matcher : ErrorMatcher) (error : Error) :
    Option Nat :=
  match matcher with
  | .type name => if (error.ofType? name).isSome then some 0 else none
  | .kind ancestor =>
      (error.kind.distance? ancestor).map fun steps =>
        if error.kind = .application then steps + 1 else steps

structure ErrorRule (σ : Type) where
  matcher : ErrorMatcher
  handle : Request → Error → Action σ Response

namespace ErrorRule

variable {σ : Type}

/-- Handles every error of a kind or of one under it. -/
def onKind (kind : ErrorKind) (handle : Request → Error → Action σ Response) :
    ErrorRule σ :=
  ⟨.kind kind, handle⟩

/-- Handles the application errors of a type. -/
def onType (name : String)
    (handle : Request → ApplicationError → Action σ Response) :
    ErrorRule σ :=
  ⟨.type name, fun request error =>
    match error.ofType? name with
    | some fault => handle request fault
    | none => Action.fail error⟩

end ErrorRule

namespace ErrorRules

variable {σ : Type}

/-- The closer of the best rule so far and the next one; the earlier one on a
tie. -/
def closer (error : Error) (best : Option (Nat × ErrorRule σ))
    (rule : ErrorRule σ) :
    Option (Nat × ErrorRule σ) :=
  match rule.matcher.distance? error with
  | none => best
  | some distance =>
      match best with
      | none => some (distance, rule)
      | some (least, _) =>
          if distance < least then some (distance, rule) else best

/-- The rule that translates an error. -/
def resolve? (rules : List (ErrorRule σ)) (error : Error) :
    Option (ErrorRule σ) :=
  (rules.foldl (closer error) none).map (·.2)

/-- Translates the cause of an error by the rule for it, or by default. -/
def translate (rules : List (ErrorRule σ)) (request : Request) (error : Error) :
    Action σ Response :=
  let cause := error.cause
  match resolve? rules cause with
  | some rule => rule.handle request cause
  | none => Action.ofLogged cause.defaultResponse

/-- Passes responses on and translates errors.  A panic is no error here and
passes as well. -/
def filter (rules : List (ErrorRule σ)) : Filter σ := fun request next =>
  tryCatch (next request) fun
    | .error error => translate rules request error
    | .panic payload => Action.panic payload

end ErrorRules

end HttpEngine
