import HttpEngine.Double
import HttpEngine.Text.Blank
import HttpEngine.Text.Numeral
import HttpEngine.Text.Utf8

/-!
# Configuration values

A configuration value is written as JSON or comes as text from the environment.
Values convert to what a setting wants: words for truth values count as numbers,
numbers as truth values, and both as texts.  A number that is no integer of 64
bits is a binary fraction; as an integer it is rounded and kept within the
range.
-/

namespace HttpEngine

inductive ConfigValue where
  | null
  | truth (value : Bool)
  /-- A number of 64 bits with a sign. -/
  | integer (value : Int)
  | fraction (value : Double)
  | text (value : String)
  /-- As many values, of which those at some places are known and all others are
  null. -/
  | array (size : Nat) (places : List (Nat × ConfigValue))
  /-- Values under names; the first entry of a name counts. -/
  | table (entries : List (String × ConfigValue))
  deriving Repr, Inhabited

namespace ConfigValue

/-- The entries of a table; no other value has any. -/
def entries : ConfigValue → List (String × ConfigValue)
  | .table entries => entries
  | _ => []

/-- The size of an array and what is known of its places; any other value counts
as an empty one. -/
def places : ConfigValue → Nat × List (Nat × ConfigValue)
  | .array size places => (size, places)
  | _ => (0, [])

def int64 : Text.IntegerRange := .signed 64
def word64 : Text.IntegerRange := .unsigned 64

/-- The number that a word for a truth value stands for. -/
def wordValue? (text : String) : Option Int :=
  let word := String.ofList (Text.lower text.toList)
  if ["true", "on", "yes"].contains word then some 1
  else if ["false", "off", "no"].contains word then some 0
  else none

def clamp (range : Text.IntegerRange) (value : Int) : Int :=
  max range.low (min range.high value)

/-- The value as an integer of the range. -/
def toInteger? (range : Text.IntegerRange) : ConfigValue → Option Int
  | .integer value =>
      if range.low ≤ value ∧ value ≤ range.high then some value else none
  | .truth value => some (if value then 1 else 0)
  | .fraction value => some (clamp range value.toInt)
  | .text value =>
      match wordValue? value with
      | some number => some number
      | none => (Text.parseInteger range value.toList).toOption
  | _ => none

def toTruth? : ConfigValue → Option Bool
  | .truth value => some value
  | .integer value => some (value != 0)
  | .fraction value => some (!value.isZero)
  | .text value =>
      let word := String.ofList (Text.lower value.toList)
      if ["1", "true", "on", "yes"].contains word then some true
      else if ["0", "false", "off", "no"].contains word then some false
      else none
  | _ => none

def toText? : ConfigValue → Option String
  | .text value => some value
  | .truth value => some (toString value)
  | .integer value => some (toString value)
  | .fraction value => some value.render
  | _ => none

end ConfigValue

end HttpEngine
