import HttpEngine.Error.Basic
import HttpEngine.Request

/-!
# Handlers and filters

A handler turns a request into a response.  It may write log lines, change the
state of the application, fail with an error, or panic.  A filter stands in
front of a handler and decides whether, how often and with which request the
handler runs.  Both are functions, so that whatever is said about all of them
holds for every application.
-/

namespace HttpEngine

/-! ## Effects -/

/-- What a panic carries: a message, or a value that is no text. -/
inductive PanicPayload where
  | text (message : String)
  | other
  deriving DecidableEq, Repr

def PanicPayload.message : PanicPayload → String
  | .text message => message
  | .other => "unknown panic"

/-- Why a computation has no result. -/
inductive Failure where
  | error (error : Error)
  | panic (payload : PanicPayload)
  deriving Repr

/-- The log and the state of the application. -/
structure World (σ : Type) where
  log : Array LogLine
  state : σ

abbrev Action (σ α : Type) : Type := ExceptT Failure (StateM (World σ)) α

namespace Action

variable {σ α : Type}

/-- Runs an action and gives its end and the world after it. -/
def runIn (action : Action σ α) (world : World σ) :
    Except Failure α × World σ :=
  StateT.run (ExceptT.run action) world

def writeLog (lines : List LogLine) : Action σ Unit :=
  modify fun world => { world with log := world.log ++ lines }

def ofLogged (logged : Logged α) : Action σ α := do
  writeLog logged.lines
  pure logged.value

def fail (error : Error) : Action σ α := throw (.error error)

def panic (payload : PanicPayload) : Action σ α := throw (.panic payload)

def ofExcept {ε : Type} (toError : ε → Error) : Except ε α → Action σ α
  | .ok value => pure value
  | .error fault => fail (toError fault)

def changeState (change : σ → σ) : Action σ Unit :=
  modify fun world => { world with state := change world.state }

/-! ### Running an action -/

theorem runIn_ofLogged (value : α) (world : World σ) :
    (ofLogged ⟨value, []⟩).runIn world = (.ok value, world) := by
  change (Except.ok value, (⟨world.log ++ [], world.state⟩ : World σ)) = _
  rw [Array.appendList_nil]

theorem runIn_bind {β : Type} (action : Action σ α) (next : α → Action σ β)
    (world : World σ) :
    (action >>= next).runIn world =
      match action.runIn world with
      | (.ok value, after) => (next value).runIn after
      | (.error failure, after) => (.error failure, after) := by
  rw [runIn, ExceptT.run_bind, StateT.run_bind]
  simp only [runIn]
  rcases StateT.run (ExceptT.run action) world with
    ⟨value | failure, after⟩ <;> rfl

theorem runIn_tryCatch (action : Action σ α) (rescue : Failure → Action σ α)
    (world : World σ) :
    (tryCatch action rescue).runIn world =
      match action.runIn world with
      | (.ok value, after) => (.ok value, after)
      | (.error failure, after) => (rescue failure).runIn after := by
  rw [runIn, ExceptT.run_tryCatch, StateT.run_bind]
  simp only [runIn]
  rcases StateT.run (ExceptT.run action) world with
    ⟨failure | value, after⟩ <;> rfl

end Action

/-! ## Handlers -/

abbrev Handler (σ : Type) : Type := Request → Action σ Response

abbrev Filter (σ : Type) : Type := Request → Handler σ → Action σ Response

variable {σ : Type}

/-- A handler behind a filter. -/
def filtered (filter : Filter σ) (handler : Handler σ) : Handler σ :=
  fun request => filter request handler

/-! ## Chains -/

/-- Calls the handlers in order until one answers other than 404, remembering
the last 404. -/
def chainFrom (last : Response) : List (Handler σ) → Handler σ
  | [], _ => pure last
  | handler :: rest, request => do
      let response ← handler request
      if response.status = 404 then chainFrom response rest request
      else pure response

/-- The first answer other than 404, or the last 404. -/
def chain (handlers : List (Handler σ)) : Handler σ :=
  chainFrom .notFound handlers

/-! ## Composite filters -/

/-- The handler behind all filters, the first of them outermost. -/
def behindAll (filters : List (Filter σ)) (handler : Handler σ) : Handler σ :=
  filters.foldr filtered handler

theorem behindAll_append (outer inner : List (Filter σ)) (handler : Handler σ) :
    behindAll (outer ++ inner) handler =
      behindAll outer (behindAll inner handler) :=
  List.foldr_append

def composite (filters : List (Filter σ)) : Filter σ :=
  fun request next => behindAll filters next request

end HttpEngine
