import HttpEngine.Proofs.Error.Closest
import HttpEngine.Proofs.Service.Exchange

/-!
# Failures behind rules

An error reaches the filter that translates errors as the end of what is behind
it.  A panic goes past every filter and is answered where the connection ends
it, whether or not a rule is for it.  `settles_behindAll` says which failures
are answered by the rules for them.
-/

namespace HttpEngine

variable {σ : Type}

/-! ## What is sent -/

/-- The error that stands for a failure. -/
def Failure.asError : Failure → Error
  | .error fault => fault
  | .panic payload => .panic payload.message

namespace Service

/-- The response that is sent for the end of an action, and the world
after it. -/
def sent (action : Action σ Response) (world : World σ) : Response × World σ :=
  let (ended, after) := action.runIn world
  ((answerOf ended).value, after.note (answerOf ended).lines)

/-- An exchange writes what is sent for the end of the handler. -/
theorem serves_iff_sent {service : Service σ} {head : RequestHead}
    {world : World σ} {body : Body}
    {outcome : Except TransportError Written × World σ} :
    service.Serves head world body outcome ↔
      let (response, after) :=
        sent ((service.routing head).handler
          (head.request (service.routing head).params body))
          (service.routed head world)
      ∃ written,
        Writes (head.writeContext service.capacity) head.upgrade?
          response written ∧
        outcome = (.ok written.value, after.note written.lines) := by
  constructor
  · rintro ⟨answer, written, htranslates, hwrites, rfl⟩
    obtain rfl := translates_iff.1 htranslates
    exact ⟨written, hwrites, by rw [World.note_append]⟩
  · rintro ⟨written, hwrites, rfl⟩
    exact ⟨_, written, translates_iff.2 rfl, hwrites, by rw [World.note_append]⟩

end Service

namespace ErrorRules

open Service (sent)

variable {next : Handler σ} {request : Request} {world after : World σ}

/-! ## The filter -/

section

variable (rules : List (ErrorRule σ))

theorem runIn_filter_of_ok {response : Response}
    (hended : (next request).runIn world = (.ok response, after)) :
    (filtered (filter rules) next request).runIn world =
      (.ok response, after) := by
  rw [filtered, filter, Action.runIn_tryCatch, hended]

theorem runIn_filter_of_error {error : Error}
    (hended : (next request).runIn world = (.error (.error error), after)) :
    (filtered (filter rules) next request).runIn world =
      (translate rules request error).runIn after := by
  rw [filtered, filter, Action.runIn_tryCatch, hended]

theorem runIn_filter_of_panic {payload : PanicPayload}
    (hended : (next request).runIn world = (.error (.panic payload), after)) :
    (filtered (filter rules) next request).runIn world =
      (.error (.panic payload), after) := by
  rw [filtered, filter, Action.runIn_tryCatch, hended]
  rfl

end

/-! ## What the rules give -/

/-- The default answer to a panic. -/
def panicAnswer (payload : PanicPayload) (world : World σ) :
    Response × World σ :=
  (.internalServerError,
    world.note [⟨.error, "Request failed: handler panicked: " ++
      payload.message⟩])

theorem sent_of_panic {action : Action σ Response} {payload : PanicPayload}
    (hended : action.runIn world = (.error (.panic payload), after)) :
    sent action world = panicAnswer payload after := by
  rw [sent, hended]
  rfl

theorem sent_ofLogged (answer : Logged Response) (world : World σ) :
    sent (Action.ofLogged answer) world =
      (answer.value, world.note answer.lines) := by
  have hnothing :
      (world.note answer.lines).note [] = world.note answer.lines := by
    simp [World.note]
  exact congrArg (Prod.mk answer.value) hnothing

/-- What the rules give for a failure. -/
def IsGiven (rules : List (ErrorRule σ)) (request : Request) (failure : Failure)
    (world : World σ) (answer : Response × World σ) : Prop :=
  ∃ action, Translates rules request failure.asError action ∧
    answer = sent action world

variable {rules : List (ErrorRule σ)}

theorem isGiven_iff {failure : Failure} {answer : Response × World σ} :
    IsGiven rules request failure world answer ↔
      answer = sent (translate rules request failure.asError) world := by
  constructor
  · rintro ⟨action, htranslates, rfl⟩
    rw [translates_iff_eq.1 htranslates]
  · rintro rfl
    exact ⟨_, translates_iff_eq.2 rfl, rfl⟩

/-- A panic for which there is no rule has its default answer from the rules as
well. -/
theorem isGiven_panicAnswer_iff {payload : PanicPayload} :
    IsGiven rules request (.panic payload) world (panicAnswer payload world) ↔
      ∀ rule, IsClosest rules (.panic payload.message) rule →
        panicAnswer payload world =
          sent (rule.handle request (.panic payload.message)) world := by
  rw [isGiven_iff, translate]
  have hcause :
      (Failure.asError (.panic payload)).cause = .panic payload.message := rfl
  rw [hcause]
  cases hresolved : resolve? rules (.panic payload.message) with
  | none =>
      have hunmatched :
          ∀ rule, ¬ IsClosest rules (.panic payload.message) rule := by
        intro rule hclosest
        rw [resolve?_eq_some_iff.2 hclosest] at hresolved
        contradiction
      refine iff_of_true ?_ fun rule hclosest =>
        absurd hclosest (hunmatched rule)
      rw [sent_ofLogged]
      rfl
  | some rule =>
      have hclosest := resolve?_eq_some_iff.1 hresolved
      constructor
      · intro hsame other hamong
        rw [← hclosest.unique hamong]
        exact hsame
      · intro hsame
        exact hsame rule hclosest

/-! ## Stacks with rules -/

/-- What becomes of the end of the handlers behind a filter with rules. -/
structure Settles (rules : List (ErrorRule σ)) (next : Handler σ)
    (request : Request) (world : World σ) : Prop where
  passes :
    ∀ response after, (next request).runIn world = (.ok response, after) →
    (filtered (filter rules) next request).runIn world = (.ok response, after)
  /-- An error ends here: the action of the closest rule, or the default
  translation where no rule matches, goes on in its place. -/
  translates :
    ∀ error after, (next request).runIn world = (.error (.error error), after) →
    ∃ action, Translates rules request error action ∧
      (filtered (filter rules) next request).runIn world = action.runIn after
  /-- A panic goes on to the filters in front and is answered by default. -/
  overlooks : ∀ payload after,
    (next request).runIn world = (.error (.panic payload), after) →
    (filtered (filter rules) next request).runIn world =
      (.error (.panic payload), after) ∧
      sent (filtered (filter rules) next request) world =
        panicAnswer payload after
  /-- What is sent is what the rules give unless the failure is a panic for
  which there is a rule with an answer of its own. -/
  given_iff :
    ∀ failure after, (next request).runIn world = (.error failure, after) →
    (IsGiven rules request failure after
      (sent (filtered (filter rules) next request) world) ↔
      ∀ payload rule, failure = .panic payload →
        IsClosest rules (.panic payload.message) rule →
        panicAnswer payload after =
          sent (rule.handle request (.panic payload.message)) after)

/-- In any stack of filters and for any handler, the rules answer every error,
and of the panics those for which the default is their answer. -/
theorem settles_behindAll (rules : List (ErrorRule σ))
    (outer inner : List (Filter σ)) (handler : Handler σ) (request : Request)
    (world : World σ) :
    behindAll (outer ++ filter rules :: inner) handler =
        behindAll outer (filtered (filter rules) (behindAll inner handler)) ∧
      Settles rules (behindAll inner handler) request world := by
  refine ⟨behindAll_append outer (filter rules :: inner) handler, ?_⟩
  constructor
  case passes => exact fun response after hended =>
    runIn_filter_of_ok rules hended
  case translates =>
    intro error after hended
    exact ⟨_, translates_iff_eq.2 rfl, runIn_filter_of_error rules hended⟩
  case overlooks =>
    intro payload after hended
    have hpassed := runIn_filter_of_panic rules hended
    exact ⟨hpassed, sent_of_panic hpassed⟩
  case given_iff =>
    intro failure after hended
    cases failure with
    | error error =>
        have htranslated := runIn_filter_of_error rules hended
        refine iff_of_true (isGiven_iff.2 ?_) nofun
        rw [sent, htranslated]
        rfl
    | panic payload =>
        rw [sent_of_panic (runIn_filter_of_panic rules hended),
          isGiven_panicAnswer_iff]
        constructor
        · rintro hgiven _ rule ⟨⟩
          exact hgiven rule
        · intro hgiven rule
          exact hgiven payload rule rfl

/-- A rule that makes a panic known as an outage. -/
def outage : ErrorRule Unit := answering (.kind .panic) 503

def exploding : Service Unit where
  router := ⟨[⟨.get, ⟨"/", [.literal []]⟩, none,
    behindAll [filter [outage]] fun _ => Action.panic (.text "boom")⟩]⟩
  limits := .standard
  capacity := 1024

/-- The rule is for the panic, and the default answer is written. -/
theorem handle_exploding :
    IsClosest [outage] (.panic "boom") outage ∧
      (∀ request world,
        (sent (outage.handle request (.panic "boom")) world).1.status = 503) ∧
      ∃ written,
        ((exploding.handle (Service.rootHead .get) ⟨[], none⟩).run
          ⟨#[], ()⟩).1 =
        .ok written ∧ written.status = 500 := by
  have hclosest : IsClosest [outage] (.panic "boom") outage := by
    have hdistance : outage.matcher.distance? (.panic "boom") = some 0 :=
      ErrorMatcher.distance?_kind_eq_some_iff.2 ⟨0, rfl, rfl⟩
    exact ⟨[], [], 0, rfl, hdistance, by simp, by simp⟩
  exact ⟨hclosest, fun _ _ => rfl, _, rfl, rfl⟩

end ErrorRules

end HttpEngine
