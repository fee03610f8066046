import HttpEngine.Text.Blank
import HttpEngine.Uri.Percent

/-!
# Request targets

A target is a path with an optional query, an asterisk, an authority, or an
absolute address made of scheme, authority, path and query.  A fragment is
dropped.  Every part of a target that parses is ASCII.
-/

namespace HttpEngine

structure Target where
  scheme : Option String
  authority : Option String
  path : String
  query : Option String
  deriving DecidableEq, Repr

namespace Target

/-- The target of a request that names none. -/
def root : Target := ⟨none, none, "/", none⟩

/-- Targets beyond this many bytes are refused. -/
def maxLength : Nat := 65534

def asciiString (bytes : Bytes) : String :=
  String.ofList (bytes.map fun byte => Char.ofNat byte.toNat)

def isAlphanumeric (point : Nat) : Bool :=
  decide (48 ≤ point ∧ point ≤ 57) || decide (65 ≤ point ∧ point ≤ 90) ||
    decide (97 ≤ point ∧ point ≤ 122)

/-! ## Path and query -/

def isPathByte (byte : UInt8) : Bool :=
  let point := byte.toNat
  point == 0x21 || point == 0x22 || decide (0x24 ≤ point ∧ point ≤ 0x3B) ||
    point == 0x3D ||
    decide (0x40 ≤ point ∧ point ≤ 0x5F) || decide (0x61 ≤ point ∧ point ≤ 0x7E)

def isQueryByte (byte : UInt8) : Bool :=
  let point := byte.toNat
  point == 0x21 || decide (0x24 ≤ point ∧ point ≤ 0x3B) || point == 0x3D ||
    decide (0x3F ≤ point ∧ point ≤ 0x7E)

def questionMark : UInt8 := 63
def numberSign : UInt8 := 35

/-- Path and query up to the fragment, `none` when one of them holds a byte it
must not. -/
def parsePath? (bytes : Bytes) : Option (Bytes × Option Bytes) :=
  let path :=
    bytes.takeWhile fun byte => byte != questionMark && byte != numberSign
  let rest := bytes.drop path.length
  if !path.all isPathByte then none
  else
    match rest with
    | mark :: rest =>
        if mark = questionMark then
          let query := rest.takeWhile (· != numberSign)
          if query.all isQueryByte then some (path, some query) else none
        else some (path, none)
    | [] => some (path, none)

/-! ## Authority -/

/-- The bytes an authority may hold, apart from the percent sign. -/
def isAuthorityByte (byte : UInt8) : Bool :=
  let point := byte.toNat
  isAlphanumeric point ||
    [0x21, 0x24, 0x26, 0x27, 0x28, 0x29, 0x2A, 0x2B, 0x2C, 0x2D, 0x2E, 0x3A,
      0x3B, 0x3D, 0x40, 0x5B, 0x5D, 0x5F, 0x7E].contains point

/-- More colons than these may not follow without a closing bracket or an `@`
between them. -/
def maxColons : Nat := 8

/-- What has been seen of an authority: colons and a percent sign since the last
`@` or closing bracket, brackets, and whether the last byte was an `@`. -/
structure AuthorityScan where
  colons : Nat
  hasPercent : Bool
  opened : Bool
  closed : Bool
  endsWithAt : Bool
  deriving DecidableEq, Repr

def AuthorityScan.start : AuthorityScan := ⟨0, false, false, false, false⟩

def AuthorityScan.step? (state : AuthorityScan) (byte : UInt8) :
    Option AuthorityScan :=
  let point := byte.toNat
  let state := { state with endsWithAt := false }
  if point = 0x25 then some { state with hasPercent := true }
  else if !isAuthorityByte byte then none
  else if point = 0x3A then
    if maxColons ≤ state.colons then none
    else some { state with colons := state.colons + 1 }
  else if point = 0x5B then
    if state.hasPercent || state.opened then none
    else some { state with opened := true }
  else if point = 0x5D then
    if !state.opened || state.closed then none
    else some { state with closed := true, colons := 0, hasPercent := false }
  else if point = 0x40 then
    some { state with colons := 0, hasPercent := false, endsWithAt := true }
  else some state

def AuthorityScan.accepted (state : AuthorityScan) : Bool :=
  state.opened == state.closed && decide (state.colons ≤ 1) &&
    !state.endsWithAt && !state.hasPercent

def isAuthorityEnd (byte : UInt8) : Bool :=
  byte == 47 || byte == questionMark || byte == numberSign

/-- The authority at the front and what follows it. -/
def parseAuthority? (bytes : Bytes) : Option (Bytes × Bytes) := do
  let authority := bytes.takeWhile (!isAuthorityEnd ·)
  let state ← authority.foldlM AuthorityScan.step? AuthorityScan.start
  if state.accepted then some (authority, bytes.drop authority.length) else none

/-! ## Scheme -/

def isSchemeByte (byte : UInt8) : Bool :=
  let point := byte.toNat
  isAlphanumeric point || [0x2B, 0x2D, 0x2E, 0x7E].contains point

/-- Colon and two slashes. -/
def schemeMark : Bytes := [58, 47, 47]

/-- Schemes beyond this many bytes are refused. -/
def maxScheme : Nat := 64

/-- The scheme before `://` and what follows; the two schemes of the web are
written in lower case, any other one as given. -/
def parseScheme (bytes : Bytes) : Except Unit (Option String × Bytes) :=
  let scheme := bytes.takeWhile isSchemeByte
  let name := asciiString scheme
  match Sequence.dropPrefix? schemeMark (bytes.drop scheme.length) with
  | none => .ok (none, bytes)
  | some rest =>
      let lowered := String.ofList (Text.lower name.toList)
      if lowered = "http" ∨ lowered = "https" then .ok (some lowered, rest)
      else if bytes.length ≤ 3 then .ok (none, bytes)
      else if maxScheme < scheme.length then .error ()
      else .ok (some name, rest)

/-! ## Targets -/

def parseAbsolute? (bytes : Bytes) : Option Target :=
  match parseScheme bytes with
  | .error () => none
  | .ok (scheme, rest) => do
      let (authority, rest) ← parseAuthority? rest
      match scheme with
      | none =>
          if rest.isEmpty then
            some ⟨none, some (asciiString authority), "", none⟩ else none
      | some scheme =>
          if authority.isEmpty then none
          else
            let (path, query) ← parsePath? rest
            some ⟨some scheme, some (asciiString authority),
              if path.isEmpty then "/"
              else asciiString path, query.map asciiString⟩

def parse? (bytes : Bytes) : Option Target :=
  if maxLength < bytes.length then none
  else
    match bytes with
    | [] => none
    | [42] => some ⟨none, none, "*", none⟩
    | 47 :: _ => do
        let (path, query) ← parsePath? bytes
        some ⟨none, none, asciiString path, query.map asciiString⟩
    | _ => parseAbsolute? bytes

def render (target : Target) : String :=
  (target.scheme.map (· ++ "://")).getD "" ++ target.authority.getD "" ++
    target.path ++ (target.query.map ("?" ++ ·)).getD ""

end Target

end HttpEngine
