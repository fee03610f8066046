import HttpEngine.Proofs.Service.Failures

/-!
# Wrapped errors

An error that passes through layers of an application may be wrapped in each of
them.  Its cause is what is left without the wrappers, and whatever answers an
error goes by the cause: neither the default answer nor the rules can tell how
often an error was wrapped.
-/

namespace HttpEngine

variable {σ : Type}

namespace Error

variable {error inner : Error}

/-! ## Causes -/

def IsWrapper (error : Error) : Prop := ∃ carried, error = .wrapped carried

theorem cause_wrap (times : Nat) (error : Error) :
    (wrap times error).cause = error.cause := by
  induction times with
  | zero => rfl
  | succ times ih => exact ih

theorem not_isWrapper_cause (error : Error) : ¬ error.cause.IsWrapper := by
  induction error with
  | wrapped carried ih => exact ih
  | _ =>
      rintro ⟨carried, h⟩
      simp [cause] at h

theorem cause_of_not_isWrapper (h : ¬ error.IsWrapper) :
    error.cause = error := by
  cases error with
  | wrapped carried => exact absurd ⟨carried, rfl⟩ h
  | _ => rfl

theorem exists_eq_wrap_cause (error : Error) :
    ∃ depth, error = wrap depth error.cause := by
  induction error with
  | wrapped carried ih =>
      obtain ⟨depth, h⟩ := ih
      exact ⟨depth + 1, congrArg Error.wrapped h⟩
  | _ => exact ⟨0, rfl⟩

/-- The cause is the one error without a wrapper that the error is a wrapping
of. -/
theorem cause_eq_iff :
    error.cause = inner ↔
      ¬ inner.IsWrapper ∧ ∃ depth, error = wrap depth inner := by
  constructor
  · rintro rfl
    exact ⟨error.not_isWrapper_cause, error.exists_eq_wrap_cause⟩
  · rintro ⟨hplain, depth, rfl⟩
    rw [cause_wrap, cause_of_not_isWrapper hplain]

theorem message_cause (error : Error) :
    error.cause.message = error.message := by
  induction error with
  | wrapped carried ih => exact ih
  | _ => rfl

theorem message_wrap (times : Nat) (error : Error) :
    (wrap times error).message = error.message := by
  rw [← message_cause, cause_wrap, message_cause]

theorem defaultResponse_wrap (times : Nat) (error : Error) :
    (wrap times error).defaultResponse = error.defaultResponse := by
  rw [defaultResponse, defaultResponse, cause_wrap]

/-! ## Handlers whose errors come wrapped -/

/-- Every error of the handler is wrapped, as often as `depth` says. -/
def wrapping (depth : Error → Nat) (next : Handler σ) : Handler σ :=
  fun request =>
  tryCatch (next request) fun
    | .error error => Action.fail (wrap (depth error) error)
    | .panic payload => Action.panic payload

variable (depth : Error → Nat) {next : Handler σ} {request : Request}
  {world after : World σ}

theorem runIn_wrapping_of_ok {response : Response}
    (hended : (next request).runIn world = (.ok response, after)) :
    (wrapping depth next request).runIn world = (.ok response, after) := by
  rw [wrapping, Action.runIn_tryCatch, hended]

theorem runIn_wrapping_of_error {error : Error}
    (hended : (next request).runIn world = (.error (.error error), after)) :
    (wrapping depth next request).runIn world =
      (.error (.error (wrap (depth error) error)), after) := by
  rw [wrapping, Action.runIn_tryCatch, hended]
  rfl

theorem runIn_wrapping_of_panic {payload : PanicPayload}
    (hended : (next request).runIn world = (.error (.panic payload), after)) :
    (wrapping depth next request).runIn world =
      (.error (.panic payload), after) := by
  rw [wrapping, Action.runIn_tryCatch, hended]
  rfl

/-- What is sent without rules for a handler does not show how its errors are
wrapped. -/
theorem sent_wrapping (next : Handler σ) (request : Request) (world : World σ) :
    Service.sent (wrapping depth next request) world =
      Service.sent (next request) world := by
  rw [Service.sent, Service.sent]
  rcases hended : (next request).runIn world with
    ⟨(error | payload) | response, after⟩
  · rw [runIn_wrapping_of_error depth hended]
    simp only [Service.answerOf, defaultResponse_wrap]
  · rw [runIn_wrapping_of_panic depth hended]
  · rw [runIn_wrapping_of_ok depth hended]

end Error

namespace ErrorRules

open Error (wrap wrapping)

theorem translate_wrap (rules : List (ErrorRule σ)) (request : Request)
    (times : Nat) (error : Error) :
    translate rules request (wrap times error) =
      translate rules request error := by
  rw [translate, translate, Error.cause_wrap]

/-- Rules in front of a handler do not see how its errors are wrapped. -/
theorem filtered_wrapping (rules : List (ErrorRule σ)) (depth : Error → Nat)
    (next : Handler σ) :
    filtered (filter rules) (wrapping depth next) =
      filtered (filter rules) next := by
  funext request world
  change (filtered (filter rules) (wrapping depth next) request).runIn world =
    (filtered (filter rules) next request).runIn world
  rcases hended : (next request).runIn world with
    ⟨(error | payload) | response, after⟩
  · rw [runIn_filter_of_error rules hended,
      runIn_filter_of_error rules (Error.runIn_wrapping_of_error depth hended),
      translate_wrap]
  · rw [runIn_filter_of_panic rules hended,
      runIn_filter_of_panic rules (Error.runIn_wrapping_of_panic depth hended)]
  · rw [runIn_filter_of_ok rules hended,
      runIn_filter_of_ok rules (Error.runIn_wrapping_of_ok depth hended)]

/-- However often an error is wrapped, its cause, its message and its default
answer stay as they are, and so does the action of the rules: it is that of the
closest rule for the cause, which is what the rule is given. -/
theorem wrap_indistinguishable (rules : List (ErrorRule σ)) (request : Request)
    (times : Nat) (error : Error) :
    ((wrap times error).cause = error.cause ∧
        (∀ inner, error.cause = inner ↔
          ¬ inner.IsWrapper ∧ ∃ depth, error = wrap depth inner) ∧
        error.cause.cause = error.cause) ∧
      (wrap times error).message = error.message ∧
      (wrap times error).defaultResponse = error.defaultResponse ∧
      (translate rules request (wrap times error) =
        translate rules request error ∧
        ∀ action, translate rules request (wrap times error) = action ↔
          Translates rules request error action) ∧
      ∀ (depth : Error → Nat) (next : Handler σ),
        filtered (filter rules) (wrapping depth next) =
          filtered (filter rules) next ∧
          ∀ world, Service.sent (wrapping depth next request) world =
            Service.sent (next request) world := by
  have hsame := translate_wrap rules request times error
  refine ⟨⟨Error.cause_wrap times error, fun _ => Error.cause_eq_iff, ?_⟩,
    Error.message_wrap times error, Error.defaultResponse_wrap times error,
    ⟨hsame, ?_⟩, ?_⟩
  · exact Error.cause_of_not_isWrapper error.not_isWrapper_cause
  · intro action
    rw [hsame]
    exact translates_iff_eq.symm
  · intro depth next
    exact ⟨filtered_wrapping rules depth next,
      Error.sent_wrapping depth next request⟩

end ErrorRules

end HttpEngine
