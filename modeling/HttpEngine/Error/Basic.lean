import HttpEngine.Body.Content
import HttpEngine.Error.Kind
import HttpEngine.Response

/-!
# Errors of handlers and filters

An error is a response to send, a fault of the request, or a failure inside.
Applications have error types of their own, and an application error may be
nothing but a wrapper around another error; what counts for the answer is the
innermost cause.
-/

namespace HttpEngine

/-- An error of the application, told apart by the name of its type. -/
structure ApplicationError where
  type : String
  message : String
  deriving DecidableEq, Repr

/-- A failure of the stream from which a body is read. -/
structure TransportError where
  cause : String
  deriving DecidableEq, Repr

def TransportError.message (error : TransportError) : String :=
  "error reading a body from connection: " ++ error.cause

inductive Error where
  | response (response : Response)
  | invalidParameter (fault : InvalidParameter)
  | body (fault : BodyError)
  | io (message : String)
  | transport (fault : TransportError)
  | application (fault : ApplicationError)
  | wrapped (inner : Error)
  | panic (message : String)
  deriving Repr

namespace Error

def kind : Error → ErrorKind
  | .response _ => .response
  | .invalidParameter _ => .invalidParameter
  | .body _ => .body
  | .io _ => .io
  | .transport _ => .transport
  | .application _ => .application
  | .wrapped _ => .application
  | .panic _ => .panic

def message : Error → String
  | .response answer =>
      "request answered with status " ++ toString answer.status
  | .invalidParameter fault => fault.message
  | .body fault => fault.message
  | .io message => "io error: " ++ message
  | .transport fault => "transport error: " ++ fault.message
  | .application fault => fault.message
  | .wrapped inner => inner.message
  | .panic message => "handler panicked: " ++ message

/-- The innermost error. -/
def cause : Error → Error
  | .wrapped inner => inner.cause
  | error => error

/-- The application error of the given type that this error carries. -/
def ofType? (type : String) : Error → Option ApplicationError
  | .application fault => if fault.type = type then some fault else none
  | _ => none

/-- Wraps an error a number of times. -/
def wrap : Nat → Error → Error
  | 0, error => error
  | times + 1, error => .wrapped (wrap times error)

/-! ## The default answer -/

/-- Errors that the client is to blame for. -/
def isRejection : Error → Bool
  | .invalidParameter _ => true
  | .body (.malformed _) => true
  | _ => false

/-- The response to an error that no rule handles. -/
def defaultResponse (error : Error) : Logged Response :=
  let cause := error.cause
  match cause with
  | .response answer =>
      ⟨answer, if 500 ≤ answer.status then
        [⟨.error, "Request answered with status " ++ toString answer.status⟩]
          else []⟩
  | _ =>
      if cause.isRejection then
        ⟨Response.badRequest.text (Utf8.ofString cause.message),
          [⟨.debug, "Rejecting request: " ++ cause.message⟩]⟩
      else ⟨Response.internalServerError,
        [⟨.error, "Request failed: " ++ cause.message⟩]⟩

end Error

end HttpEngine
