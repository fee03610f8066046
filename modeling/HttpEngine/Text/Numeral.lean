/-!
# Values written as text

Decimal integers of a fixed width, truth values and single characters, and the
reasons why a text is none.  An integer is read from the left and the first
fault ends the reading, so a number that has already left its range is too large
whatever follows.
-/

namespace HttpEngine.Text

/-! ## Integers -/

inductive NumeralError where
  | empty
  | invalidDigit
  | tooLarge
  | tooSmall
  deriving DecidableEq, Repr

def NumeralError.message : NumeralError → String
  | .empty => "cannot parse integer from empty string"
  | .invalidDigit => "invalid digit found in string"
  | .tooLarge => "number too large to fit in target type"
  | .tooSmall => "number too small to fit in target type"

/-- The least and the greatest value of an integer type. -/
structure IntegerRange where
  low : Int
  high : Int
  deriving DecidableEq, Repr

/-- How many words there are of so many bits. -/
def wordCount (bits : Nat) : Nat := Nat.pow 2 bits

def IntegerRange.unsigned (bits : Nat) : IntegerRange := ⟨0, wordCount bits - 1⟩

def IntegerRange.signed (bits : Nat) : IntegerRange :=
  ⟨-wordCount (bits - 1), wordCount (bits - 1) - 1⟩

def digitValue? (character : Char) : Option Nat :=
  if '0' ≤ character ∧ character ≤ '9' then
    some (character.toNat - 48) else none

/-- The value of a hexadecimal digit in either case. -/
def hexValue? (character : Char) : Option Nat :=
  let point := character.toNat
  if 48 ≤ point ∧ point ≤ 57 then some (point - 48)
  else if 97 ≤ point ∧ point ≤ 102 then some (point - 87)
  else if 65 ≤ point ∧ point ≤ 70 then some (point - 55)
  else none

/-- Reads digits on the positive side, never leaving the range. -/
def readUpward (range : IntegerRange) :
    Int → List Char → Except NumeralError Int
  | value, [] => .ok value
  | value, character :: rest =>
      match digitValue? character with
      | none => .error .invalidDigit
      | some digit =>
          let next := value * 10 + digit
          if next ≤ range.high then readUpward range next rest
          else .error .tooLarge

/-- Reads digits on the negative side, never leaving the range. -/
def readDownward (range : IntegerRange) :
    Int → List Char → Except NumeralError Int
  | value, [] => .ok value
  | value, character :: rest =>
      match digitValue? character with
      | none => .error .invalidDigit
      | some digit =>
          let next := value * 10 - digit
          if range.low ≤ next then readDownward range next rest
          else .error .tooSmall

/-- An integer with an optional sign; a minus sign is one only where the range
has negatives. -/
def parseInteger (range : IntegerRange) : List Char → Except NumeralError Int
  | [] => .error .empty
  | ['+'] => .error .invalidDigit
  | ['-'] => .error .invalidDigit
  | '+' :: digits => readUpward range 0 digits
  | '-' :: digits =>
      if range.low < 0 then readDownward range 0 digits
      else .error .invalidDigit
  | digits => readUpward range 0 digits

/-! ## Truth values and characters -/

def parseTruth (text : String) : Except String Bool :=
  if text = "true" then .ok true
  else if text = "false" then .ok false
  else .error ("provided string was not " ++ tick ++ "true" ++ tick ++ " or " ++
    tick ++ "false" ++ tick)
where
  tick : String := String.ofList [Char.ofNat 96]

def parseCharacter (text : String) : Except String Char :=
  match text.toList with
  | [] => .error "cannot parse char from empty string"
  | [character] => .ok character
  | _ => .error "too many characters in string"

end HttpEngine.Text
