import HttpEngine.Text.Numeral
import HttpEngine.Text.Quoted

/-!
# Parameters

Parameters are named values in the order of their arrival; a name may have
several values.  They come from a path, a query, a header, a cookie or a form,
and a value that is not of the requested type is reported with its source.
-/

namespace HttpEngine

inductive ParamSource where
  | path
  | query
  | header
  | cookie
  | form
  deriving DecidableEq, Repr

def ParamSource.name : ParamSource → String
  | .path => "path"
  | .query => "query"
  | .header => "header"
  | .cookie => "cookie"
  | .form => "form"

/-- The source as it is named in descriptions. -/
def ParamSource.label : ParamSource → String
  | .path => "Path"
  | .query => "Query"
  | .header => "Header"
  | .cookie => "Cookie"
  | .form => "Form"

/-- A value that is not of the requested type. -/
structure InvalidParameter where
  source : ParamSource
  name : String
  value : String
  reason : String
  deriving DecidableEq, Repr

def InvalidParameter.message (invalid : InvalidParameter) : String :=
  "invalid " ++ invalid.source.name ++ " parameter '" ++ invalid.name ++
    "' with value '" ++ invalid.value ++ "': " ++ invalid.reason

/-- The elements of a list without those that occurred before, in order. -/
def distinct {α : Type} [BEq α] (items : List α) : List α :=
  items.foldl
    (fun seen item => if seen.contains item then seen else seen ++ [item]) []

structure Params where
  source : ParamSource
  entries : List (String × String)
  deriving DecidableEq, Repr

namespace Params

def empty (source : ParamSource) : Params := ⟨source, []⟩

/-! ## Values as text -/

def getAll (params : Params) (name : String) : List String :=
  (params.entries.filter (·.1 == name)).map (·.2)

def get? (params : Params) (name : String) : Option String :=
  (params.getAll name).head?

def contains (params : Params) (name : String) : Bool :=
  params.entries.any (·.1 == name)

/-- The distinct names in the order in which they first occur. -/
def keys (params : Params) : List String := distinct (params.entries.map (·.1))

def size (params : Params) : Nat := params.entries.length

def isEmpty (params : Params) : Bool := params.entries.isEmpty

def describeEntry (entry : String × String) : String :=
  "(" ++ Text.quote entry.1 ++ ", " ++ Text.quote entry.2 ++ ")"

def describe (params : Params) : String :=
  "Params \x7b kind: " ++ params.source.label ++ ", entries: [" ++
    ", ".intercalate (params.entries.map describeEntry) ++ "] \x7d"

/-! ## Values of a type -/

/-- Reads a value; the fault of a value that does not parse names where it came
from. -/
def parseValue {α : Type} (source : ParamSource)
    (parse : String → Except String α) (name value : String) :
    Except InvalidParameter α :=
  match parse value with
  | .ok result => .ok result
  | .error reason => .error ⟨source, name, value, reason⟩

/-- The first value of the name, if there is one. -/
def getAs {α : Type} (params : Params) (parse : String → Except String α)
    (name : String) :
    Except InvalidParameter (Option α) :=
  match params.get? name with
  | none => .ok none
  | some value => (parseValue params.source parse name value).map some

/-- All values of the name, or the fault of the first one that does
not parse. -/
def getAllAs {α : Type} (params : Params) (parse : String → Except String α)
    (name : String) :
    Except InvalidParameter (List α) :=
  (params.getAll name).mapM (parseValue params.source parse name)

end Params

end HttpEngine
