import HttpEngine.Text.Blank
import HttpEngine.Text.Utf8

/-!
# Header fields

A name is a token of 1 to 65535 bytes and is kept in lower case; a value is any
run of bytes without controls other than the tab.  A map holds fields in the
order of their arrival, and the values of one name keep that order.  A value
counts as text when it is visible ASCII.
-/

namespace HttpEngine

/-! ## Names and values -/

def isTokenChar (character : Char) : Bool :=
  character.isAlphanum || "!#$%&'*+-.^_|~".toList.contains character ||
    character == Char.ofNat 96

namespace Header

def maxNameLength : Nat := 65535

/-- The name that the bytes spell, in lower case. -/
def parseName? (bytes : Bytes) : Option String :=
  let text := bytes.map fun byte => Char.ofNat byte.toNat
  if bytes.isEmpty || decide (maxNameLength < bytes.length) ||
    !text.all isTokenChar then none
  else some (String.ofList (Text.lower text))

def isValueByte (byte : UInt8) : Bool :=
  byte.toNat == 9 || decide (32 ≤ byte.toNat ∧ byte.toNat ≠ 127)

def isValue (value : Bytes) : Bool := value.all isValueByte

def isVisibleByte (byte : UInt8) : Bool :=
  byte.toNat == 9 || decide (32 ≤ byte.toNat ∧ byte.toNat < 127)

/-- A value as text, when it is visible ASCII. -/
def text? (value : Bytes) : Option String :=
  if value.all isVisibleByte then
    some (String.ofList (value.map fun byte => Char.ofNat byte.toNat))
  else none

/-- A name as it is looked up: letter case does not matter. -/
def normalizeName (name : String) : String :=
  String.ofList (Text.lower name.toList)

/-! ## Lists of tokens -/

/-- The elements of a comma-separated value, without the blanks around them. -/
def listElements (value : String) : List (List Char) :=
  (value.toList.splitOn ',').map Text.trim

def listsToken (token : String) (value : Bytes) : Bool :=
  match text? value with
  | none => false
  | some text => (listElements text).any (Text.sameLetters · token.toList)

end Header

/-! ## Maps -/

structure HeaderMap where
  fields : List (String × Bytes)
  deriving DecidableEq, Repr

namespace HeaderMap

def empty : HeaderMap := ⟨[]⟩

def getAll (headers : HeaderMap) (name : String) : List Bytes :=
  (headers.fields.filter (·.1 == Header.normalizeName name)).map (·.2)

def get? (headers : HeaderMap) (name : String) : Option Bytes :=
  (headers.getAll name).head?

def contains (headers : HeaderMap) (name : String) : Bool :=
  (headers.get? name).isSome

/-- Adds a value after those the name already has. -/
def append (headers : HeaderMap) (name : String) (value : Bytes) : HeaderMap :=
  ⟨headers.fields ++ [(name, value)]⟩

def remove (headers : HeaderMap) (name : String) : HeaderMap :=
  ⟨headers.fields.filter (·.1 != Header.normalizeName name)⟩

/-- Replaces every value of the name by one. -/
def insert (headers : HeaderMap) (name : String) (value : Bytes) : HeaderMap :=
  (headers.remove name).append name value

/-- The first value of the name, when it is text. -/
def getText? (headers : HeaderMap) (name : String) : Option String :=
  (headers.get? name).bind Header.text?

/-- The values of the name that are text. -/
def getTexts (headers : HeaderMap) (name : String) : List String :=
  (headers.getAll name).filterMap Header.text?

/-- Some value of the name lists the token. -/
def hasToken (headers : HeaderMap) (name token : String) : Bool :=
  (headers.getAll name).any (Header.listsToken token)

end HeaderMap

end HttpEngine
