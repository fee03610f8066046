import HttpEngine.Text.Numeral

/-!
# Values of a type

The types that a parameter can be asked for, and the values of each.
-/

namespace HttpEngine.Text

inductive ScalarType where
  | unsigned (bits : Nat)
  | signed (bits : Nat)
  | truth
  | character
  | text
  deriving DecidableEq, Repr

inductive Scalar where
  | number (value : Int)
  | truth (value : Bool)
  | character (value : Char)
  | text (value : String)
  deriving DecidableEq, Repr

def Scalar.render : Scalar → String
  | .number value => toString value
  | .truth value => toString value
  | .character value => String.singleton value
  | .text value => value

def readNumber (range : IntegerRange) (text : String) : Except String Scalar :=
  match parseInteger range text.toList with
  | .ok value => .ok (.number value)
  | .error fault => .error fault.message

/-- The value that a text spells in a type; a fault is described by
its reason. -/
def ScalarType.parse : ScalarType → String → Except String Scalar
  | .unsigned bits, written => readNumber (.unsigned bits) written
  | .signed bits, written => readNumber (.signed bits) written
  | .truth, written => (parseTruth written).map .truth
  | .character, written => (parseCharacter written).map .character
  | .text, written => .ok (.text written)

end HttpEngine.Text
