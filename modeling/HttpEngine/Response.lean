import HttpEngine.Calendar
import HttpEngine.Cookie
import HttpEngine.Header
import HttpEngine.Journal
import HttpEngine.Stream.Producer
import HttpEngine.WebSocket.Script

/-!
# Responses

A response is a status, header fields and the way in which its body is
transferred.  Building one never fails: a field with an invalid name or value is
left out, and a line is logged.
-/

namespace HttpEngine

/-! ## Bodies -/

/-- A file as it is found when the response is written; it may be gone
by then. -/
structure StoredFile where
  path : String
  content : Option Bytes
  deriving DecidableEq, Repr

/-- An asynchronous source of chunks. -/
inductive ChunkSource where
  | items (chunks : List Bytes)
  /-- The events of a broadcast for one subscriber. -/
  | subscription (subscriber : Nat)
  deriving DecidableEq, Repr

inductive ResponseBody where
  | empty
  | fixed (bytes : Bytes)
  | chunked (producer : Producer)
  | file (file : StoredFile)
  | stream (source : ChunkSource)
  | webSocket (script : WebSocket.Script)
  deriving Repr

def ResponseBody.describe : ResponseBody → String
  | .empty => "Empty"
  | .fixed bytes => "Fixed(" ++ toString bytes.length ++ " bytes)"
  | .chunked _ => "Chunked"
  | .file _ => "File"
  | .stream _ => "Stream"
  | .webSocket _ => "WebSocket"

structure Response where
  status : Nat
  headers : HeaderMap
  body : ResponseBody
  deriving Repr

namespace Response

/-! ## Construction -/

def ofStatus (status : Nat) : Response := ⟨status, .empty, .empty⟩

/-- A status outside 100 to 999 counts as an internal error. -/
def withStatus (status : Nat) : Response :=
  ofStatus (if 100 ≤ status ∧ status ≤ 999 then status else 500)

def ok : Response := ofStatus 200
def created : Response := ofStatus 201
def accepted : Response := ofStatus 202
def noContent : Response := ofStatus 204
def seeOther : Response := ofStatus 303
def notModified : Response := ofStatus 304
def temporaryRedirect : Response := ofStatus 307
def badRequest : Response := ofStatus 400
def unauthorized : Response := ofStatus 401
def forbidden : Response := ofStatus 403
def notFound : Response := ofStatus 404
def methodNotAllowed : Response := ofStatus 405
def notAcceptable : Response := ofStatus 406
def conflict : Response := ofStatus 409
def payloadTooLarge : Response := ofStatus 413
def unsupportedMediaType : Response := ofStatus 415
def upgradeRequired : Response := ofStatus 426
def internalServerError : Response := ofStatus 500
def notImplemented : Response := ofStatus 501

/-! ## Fields -/

def ignored : LogLine := ⟨.warn, "Ignoring invalid response header"⟩

/-- Changes the fields by a valid pair of name and value. -/
def withField (response : Response)
    (change : HeaderMap → String → Bytes → HeaderMap) (name value : Bytes) :
    Logged Response :=
  match Header.parseName? name with
  | some name =>
      if Header.isValue value then
        ⟨{ response with headers := change response.headers name value }, []⟩
      else ⟨response, [ignored]⟩
  | none => ⟨response, [ignored]⟩

/-- Adds a value to those the field has. -/
def header (response : Response) (name value : Bytes) : Logged Response :=
  response.withField HeaderMap.append name value

/-- Replaces every value of a field. -/
def setHeader (response : Response) (name value : Bytes) : Logged Response :=
  response.withField HeaderMap.insert name value

def removeHeader (response : Response) (name : String) : Response :=
  { response with headers := response.headers.remove name }

def location (response : Response) (value : Bytes) : Logged Response :=
  response.setHeader (Utf8.ofString "location") value

def language (response : Response) (value : Bytes) : Logged Response :=
  response.setHeader (Utf8.ofString "content-language") value

def contentType (response : Response) (value : Bytes) : Logged Response :=
  response.setHeader (Utf8.ofString "content-type") value

def lastModified (response : Response) (seconds : Nat) : Logged Response :=
  response.setHeader (Utf8.ofString "last-modified")
    (Utf8.ofString (Calendar.ofSeconds seconds).render)

def cookie (response : Response) (cookie : Cookie) : Logged Response :=
  response.header (Utf8.ofString "set-cookie") cookie.render

def headerValue? (response : Response) (name : String) : Option String :=
  response.headers.getText? name

/-! ## Bodies of a response -/

def withBody (response : Response) (body : ResponseBody) : Response :=
  { response with body := body }

def fixed (response : Response) (bytes : Bytes) : Response :=
  response.withBody (.fixed bytes)

/-- A field whose name and value are known to be valid is set without a log
line. -/
def withType (response : Response) (type : String) : Response :=
  { response with
    headers := response.headers.insert "content-type" (Utf8.ofString type) }

def text (response : Response) (bytes : Bytes) : Response :=
  (response.withType "text/plain; charset=utf-8").fixed bytes

def html (response : Response) (bytes : Bytes) : Response :=
  (response.withType "text/html; charset=utf-8").fixed bytes

/-- A body written by a script whose failure cuts it short. -/
def stream (response : Response) (steps : List ProducerStep) : Response :=
  response.withBody (.chunked ⟨steps, .closeOnSuccess⟩)

/-- A body that stays open until its sink is closed or dropped. -/
def chunks (response : Response) (steps : List ProducerStep)
    (ending : ProducerEnd) : Response :=
  response.withBody (.chunked ⟨steps, ending⟩)

end Response

end HttpEngine
