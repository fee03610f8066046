import HttpEngine.Config.Value

/-!
# Paths into configuration values

The name of an entry may lead into a value: to an entry of a table after a full
stop, or to a place of an array in brackets.  Setting a value at the end of a
path makes the tables and arrays on the way to it, and a value of another kind
on the way gives way to one of them.
-/

namespace HttpEngine

inductive PathStep where
  | entry (name : String)
  /-- A place counted from the first one, or from behind the last one when it is
  negative. -/
  | place (index : Int)
  deriving DecidableEq, Repr

namespace PathStep

/-! ## Names -/

def isNameChar (character : Char) : Bool :=
  character.isAlphanum || " _-".toList.contains character

def isSpace (character : Char) : Bool := character == ' ' || character == '\t'

def parseName? (text : List Char) : Option (String × List Char) :=
  let name := text.takeWhile isNameChar
  if name.isEmpty then none
  else some (String.ofList name, text.drop name.length)

/-- Digits after an optional minus sign, which spell a number of 64 bits. -/
def parseIndex? (text : List Char) : Option (Int × List Char) :=
  let sign := text.takeWhile (· == '-')
  let digits := (text.drop sign.length).takeWhile Char.isDigit
  if digits.isEmpty then none
  else do
    let index ← (Text.parseInteger ConfigValue.int64 (sign ++ digits)).toOption
    some (index, text.drop (sign.length + digits.length))

/-- A step at the front of a text, and what follows it. -/
def parse? (text : List Char) : Option (PathStep × List Char) :=
  match text with
  | '.' :: rest => (parseName? rest).map fun (name, rest) => (.entry name, rest)
  | '[' :: rest => do
      let (index, rest) ← parseIndex? (rest.dropWhile isSpace)
      match rest.dropWhile isSpace with
      | ']' :: rest => some (.place index, rest)
      | _ => none
  | _ => none

/-- The steps of which a text consists; `fuel` bounds their number. -/
def parseAll? : Nat → List Char → Option (List PathStep)
  | 0, text => if text.isEmpty then some [] else none
  | fuel + 1, text =>
      if text.isEmpty then some []
      else do
        let (step, rest) ← parse? text
        let steps ← parseAll? fuel rest
        some (step :: steps)

/-- The path that a name spells.  A name that spells none is the name of an
entry itself. -/
def ofName (name : String) : List PathStep :=
  let path : Option (List PathStep) := do
    let (setting, rest) ← parseName? name.toList
    let steps ← parseAll? rest.length rest
    some (.entry setting :: steps)
  path.getD [.entry name]

end PathStep

/-! ## Setting values -/

namespace ConfigValue

/-- No array has as many places. -/
def maxSize : Nat := Text.wordCount 63 / 96

/-- The place that an index names in an array of some size, which may grow up to
it. -/
def position? (size : Nat) (index : Int) : Option Nat :=
  let position := if index < 0 then size + index else index
  if 0 ≤ position ∧ position < maxSize then some position.toNat else none

/-- The root with a value at the end of a path, `none` when the path leads to no
place. -/
def set? (value : ConfigValue) :
    List PathStep → ConfigValue → Option ConfigValue
  | [], _ => some value
  | .entry name :: steps, root => do
      let entry ← set? value steps ((root.entries.lookup name).getD .null)
      some (.table ((name, entry) :: root.entries))
  | .place index :: steps, root => do
      let (size, places) := root.places
      let position ← position? size index
      let element ← set? value steps ((places.lookup position).getD .null)
      some (.array (max size (position + 1)) ((position, element) :: places))

end ConfigValue

end HttpEngine
