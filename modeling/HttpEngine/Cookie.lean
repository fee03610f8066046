import HttpEngine.Text.Blank
import HttpEngine.Uri.Percent

/-!
# Cookies

A request lists cookies as names and values, both percent-encoded; a response
sets one cookie with its attributes.
-/

namespace HttpEngine

/-- To which requests of other sites a cookie is sent along. -/
inductive SameSite where
  | strict
  | lax
  | none
  deriving DecidableEq, Repr

structure Cookie where
  name : String
  value : String
  path : Option String
  domain : Option String
  httpOnly : Bool
  secure : Option Bool
  sameSite : Option SameSite
  maxAge : Option Int
  deriving DecidableEq, Repr

namespace Cookie

/-! ## Reading -/

/-- The name and value that a piece of a cookie header carries: it has an equals
sign, a name that is not empty, and decodes to UTF-8. -/
def parsePiece? (piece : List Char) : Option (String × String) := do
  let (name, value) ← Sequence.cutAt? '=' piece
  let name := Text.trim name
  if name.isEmpty then none
  else
    let name ← Utf8.toString? (Percent.decode (Utf8.encode name))
    let value ← Utf8.toString? (Percent.decode (Utf8.encode (Text.trim value)))
    some (name, value)

def parseHeader (header : String) : List (String × String) :=
  (header.toList.splitOn ';').filterMap parsePiece?

/-! ## Writing -/

def mustEscape (byte : UInt8) : Bool :=
  let point := byte.toNat
  decide (point ≤ 0x20) || decide (0x7F ≤ point) ||
    [0x22, 0x23, 0x25, 0x28, 0x29, 0x2C, 0x2F, 0x3A, 0x3B, 0x3C, 0x3D, 0x3E,
      0x3F, 0x40, 0x5B, 0x5C, 0x5D, 0x5E, 0x60, 0x7B, 0x7C, 0x7D].contains point

def encodePart (text : String) : Bytes :=
  Percent.encode mustEscape (Utf8.ofString text)

def SameSite.render : SameSite → String
  | .strict => "Strict"
  | .lax => "Lax"
  | .none => "None"

/-- A domain is written without the dot it may start with. -/
def renderDomain (domain : String) : String :=
  match domain.toList with
  | '.' :: rest => String.ofList rest
  | _ => domain

/-- The attributes in the order in which they are written.  A cookie for other
sites has to be secure and says so unless that was denied explicitly. -/
def attributes (cookie : Cookie) : List String :=
  (if cookie.httpOnly then ["HttpOnly"] else []) ++
    (match cookie.sameSite with
    | .none => []
    | .some sameSite => ["SameSite=" ++ SameSite.render sameSite]) ++
    (if cookie.sameSite = some .none ∧ cookie.secure = none
      then ["Secure"] else []) ++
    (if cookie.secure = some true then ["Secure"] else []) ++
    (cookie.path.map ("Path=" ++ ·)).toList ++
    (cookie.domain.map fun domain => "Domain=" ++ renderDomain domain).toList ++
    (cookie.maxAge.map fun seconds => "Max-Age=" ++ toString seconds).toList

/-- The value of the header that sets the cookie. -/
def render (cookie : Cookie) : Bytes :=
  encodePart cookie.name ++ [61] ++ encodePart cookie.value ++
    cookie.attributes.flatMap fun text => Utf8.ofString ("; " ++ text)

end Cookie

end HttpEngine
