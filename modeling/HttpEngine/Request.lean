import HttpEngine.Address
import HttpEngine.Body.Content
import HttpEngine.Calendar
import HttpEngine.Cookie
import HttpEngine.Header
import HttpEngine.Journal
import HttpEngine.Method
import HttpEngine.Uri.Query
import HttpEngine.Uri.Target

/-!
# Requests

A request carries its head, the decoded path, the parameters of path, query and
cookies, and the body received in full.  Filters pass data on by attributes: a
request with an attribute is a new request that agrees with the old one in all
else.
-/

namespace HttpEngine

/-- A value that a filter attaches to a request. -/
inductive AttributeValue where
  | text (value : String)
  | number (value : Int)
  deriving DecidableEq, Repr

structure Request where
  method : Method
  target : Target
  path : String
  version : Version
  headers : HeaderMap
  query : Params
  pathParams : Params
  cookies : Params
  remote : Option SocketAddress
  body : Body
  attributes : List (String × AttributeValue)
  deriving DecidableEq, Repr

namespace Request

/-! ## Attributes -/

def withAttribute (request : Request) (key : String) (value : AttributeValue) :
    Request :=
  { request with
    attributes := (key, value) :: request.attributes.filter (·.1 != key) }

def attribute? (request : Request) (key : String) : Option AttributeValue :=
  request.attributes.lookup key

def textAttribute? (request : Request) (key : String) : Option String :=
  match request.attribute? key with
  | some (.text value) => some value
  | _ => none

def numberAttribute? (request : Request) (key : String) : Option Int :=
  match request.attribute? key with
  | some (.number value) => some value
  | _ => none

/-! ## Parameters -/

/-- The parameters from a source; those of a form are in the body, and header
fields are none. -/
def params (request : Request) : ParamSource → Except BodyError Params
  | .path => .ok request.pathParams
  | .query => .ok request.query
  | .header => .ok (.empty .header)
  | .cookie => .ok request.cookies
  | .form => request.body.asForm.map (·.fields)

/-! ## Header fields -/

def headerAs {α : Type} (request : Request) (parse : String → Except String α)
    (name : String) :
    Except InvalidParameter (Option α) :=
  match request.headers.getText? name with
  | none => .ok none
  | some value => (Params.parseValue .header parse name value).map some

def headerDate (request : Request) (name : String) :
    Except InvalidParameter (Option Calendar.Date) :=
  request.headerAs Calendar.parse name

/-! ## Description -/

def describeBody : Body → String
  | .empty => "Empty"
  | .raw bytes => "Raw(" ++ Text.quoteBytes bytes ++ ")"
  | .form form => "Form(" ++ form.describe ++ ")"
  | .malformed reason => "Malformed(" ++ Text.quote reason ++ ")"

def describe (request : Request) : String :=
  "Request \x7b method: " ++ request.method.name ++ ", uri: " ++
    request.target.render ++
    ", version: " ++ request.version.render ++ ", body: " ++
      describeBody request.body ++ " \x7d"

end Request

/-! ## Assembly -/

/-- What a request is assembled from. -/
structure RequestDraft where
  method : Method
  target : Target
  path : Option String
  version : Version
  headers : HeaderMap
  pathParams : Params
  remote : Option SocketAddress
  body : Body
  deriving DecidableEq, Repr

namespace RequestDraft

def empty : RequestDraft :=
  ⟨.get, .root, none, .http11, .empty, .empty .path, none, .empty⟩

/-- A target that does not parse leaves the draft as it is. -/
def withTarget (draft : RequestDraft) (target : Bytes) : RequestDraft :=
  match Target.parse? target with
  | some target => { draft with target := target }
  | none => draft

/-- Adds a header field; an invalid one is left out and logged. -/
def header (draft : RequestDraft) (name : String) (value : Bytes) :
    Logged RequestDraft :=
  match Header.parseName? (Utf8.ofString name) with
  | some field =>
      if Header.isValue value then
        ⟨{ draft with headers := draft.headers.append field value }, []⟩
      else ⟨draft, [ignored name]⟩
  | none => ⟨draft, [ignored name]⟩
where
  ignored (name : String) : LogLine :=
    ⟨.warn, "Ignoring invalid request header " ++ Text.quote name⟩

def cookies (headers : HeaderMap) : Params :=
  ⟨.cookie, (headers.getTexts "cookie").flatMap Cookie.parseHeader⟩

def build (draft : RequestDraft) : Request where
  method := draft.method
  target := draft.target
  path := draft.path.getD (Percent.decodePath draft.target.path)
  version := draft.version
  headers := draft.headers
  query := ⟨.query, Query.decode (Utf8.ofString (draft.target.query.getD ""))⟩
  pathParams := draft.pathParams
  cookies := cookies draft.headers
  remote := draft.remote
  body := draft.body
  attributes := []

end RequestDraft

end HttpEngine
