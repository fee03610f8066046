import HttpEngine.Body.Form

/-!
# Request bodies

A body has been received in full: it is empty, raw, a form, or something that
could not be decoded.  Each accessor works on the representations it fits; an
empty body reads as no bytes, and a body that could not be decoded says so on
every access.
-/

namespace HttpEngine

/-- Why an accessor of a body has no answer. -/
inductive BodyError where
  | unsupported (parser requested : String)
  | malformed (reason : String)
  | io (message : String)
  deriving DecidableEq, Repr

def BodyError.message : BodyError → String
  | .unsupported parser requested =>
      parser ++ " body does not support " ++ requested
  | .malformed reason => "malformed request body: " ++ reason
  | .io message => "io error: " ++ message

inductive Body where
  | empty
  | raw (bytes : Bytes)
  | form (form : Form)
  | malformed (reason : String)
  deriving DecidableEq, Repr

namespace Body

def kindName : Body → String
  | .empty => "empty"
  | .raw _ => "raw"
  | .form _ => "form"
  | .malformed _ => "malformed"

def isEmpty : Body → Bool
  | .empty => true
  | _ => false

/-- Raw bytes are not empty. -/
def ofBytes (bytes : Bytes) : Body :=
  if bytes.isEmpty then .empty else .raw bytes

/-- The bytes of the body, for an accessor of the given name. -/
def rawFor (body : Body) (requested : String) : Except BodyError Bytes :=
  match body with
  | .empty => .ok []
  | .raw bytes => .ok bytes
  | .malformed reason => .error (.malformed reason)
  | .form _ => .error (.unsupported body.kindName requested)

def asBytes (body : Body) : Except BodyError Bytes := body.rawFor "bytes"

def asText (body : Body) : Except BodyError String :=
  (body.rawFor "text").map Utf8.toStringLossy

/-- All that a stream over the body yields. -/
def asStream (body : Body) : Except BodyError Bytes := body.rawFor "stream"

/-- Decodes the raw bytes with the caller's reader, whose fault is an input
fault of the body. -/
def readWith {α : Type} (body : Body) (reader : Bytes → Except String α) :
    Except BodyError α := do
  let bytes ← body.rawFor "reader"
  match reader bytes with
  | .ok value => .ok value
  | .error message => .error (.io message)

def asForm (body : Body) : Except BodyError Form :=
  match body with
  | .form decoded => .ok decoded
  | .malformed reason => .error (.malformed reason)
  | _ => .error (.unsupported body.kindName "form")

/-- The reader of strict UTF-8 texts. -/
def readUtf8 (bytes : Bytes) : Except String String :=
  match Utf8.toString? bytes with
  | some text => .ok text
  | none => .error "stream did not contain valid UTF-8"

end Body

end HttpEngine
