import HttpEngine.Config.Value

/-!
# Configuration files

A configuration file is one JSON value with blanks around it.  Values nest at
most 127 deep.  Of two entries with the same name the later one counts.
-/

namespace HttpEngine.Json

def isBlank (character : Char) : Bool :=
  character == ' ' || character == '\t' || character == '\n' ||
    character == '\r'

def skipBlanks (text : List Char) : List Char := text.dropWhile isBlank

/-! ## Strings -/

def parseHex? (text : List Char) : Option (Nat × List Char) :=
  match text with
  | first :: second :: third :: fourth :: rest => do
      let digits ← [first, second, third, fourth].mapM Text.hexValue?
      some (digits.foldl (fun value digit => value * 16 + digit) 0, rest)
  | _ => none

def simpleEscape? (character : Char) : Option Char :=
  match character.toNat with
  | 34 => some '"'
  | 92 => some (Char.ofNat 92)
  | 47 => some '/'
  | 98 => some (Char.ofNat 8)
  | 102 => some (Char.ofNat 12)
  | 110 => some '\n'
  | 114 => some '\r'
  | 116 => some '\t'
  | _ => none

/-- A code point by number; two surrogates make one character, a lone one is
refused. -/
def parseEscapedPoint? (text : List Char) : Option (Char × List Char) := do
  let (high, rest) ← parseHex? text
  if 0xDC00 ≤ high ∧ high ≤ 0xDFFF then none
  else if 0xD800 ≤ high ∧ high ≤ 0xDBFF then
    match rest with
    | first :: 'u' :: rest =>
        if first.toNat = 92 then do
          let (low, rest) ← parseHex? rest
          if 0xDC00 ≤ low ∧ low ≤ 0xDFFF then
            some (Char.ofNat (0x10000 + (high - 0xD800) * 0x400 +
              (low - 0xDC00)), rest)
          else none
        else none
    | _ => none
  else some (Char.ofNat high, rest)

/-- The rest of a string after its opening quotation mark; `fuel` bounds its
characters. -/
def parseString? : Nat → List Char → Option (List Char × List Char)
  | 0, _ => none
  | _ + 1, [] => none
  | fuel + 1, character :: rest =>
      if character = '"' then some ([], rest)
      else if character.toNat < 0x20 then none
      else if character.toNat = 92 then
        match rest with
        | 'u' :: rest => do
            let (point, rest) ← parseEscapedPoint? rest
            let (text, rest) ← parseString? fuel rest
            some (point :: text, rest)
        | escape :: rest => do
            let point ← simpleEscape? escape
            let (text, rest) ← parseString? fuel rest
            some (point :: text, rest)
        | [] => none
      else do
        let (text, rest) ← parseString? fuel rest
        some (character :: text, rest)

/-! ## Numbers -/

/-- Digits at the front of a text that are added to a number as long as it stays
below a limit, how many they are, and what follows them. -/
def readDigits (limit : Nat) : Nat → Nat → List Char → Nat × Nat × List Char
  | number, count, [] => (number, count, [])
  | number, count, character :: rest =>
      match Text.digitValue? character with
      | none => (number, count, character :: rest)
      | some digit =>
          let next := number * 10 + digit
          if next < limit then readDigits limit next (count + 1) rest
          else (number, count, character :: rest)

/-- The digits of a number make an integer below this limit; those that do not
fit are left out. -/
def significandLimit : Nat := Text.wordCount 64

def dropDigits (text : List Char) : List Char := text.dropWhile Char.isDigit

/-- An exponent with more than this behind it is as good as this one. -/
def maxExponent : Nat := Text.wordCount 31

/-- The exponent after its mark. -/
def parseExponent? (text : List Char) : Option (Int × List Char) :=
  let (negative, text) :=
    match text with
    | '-' :: rest => (true, rest)
    | '+' :: rest => (false, rest)
    | _ => (false, text)
  let digits := text.takeWhile Char.isDigit
  if digits.isEmpty then none
  else
    let value : Int := digits.foldl (fun value digit =>
      min maxExponent (value * 10 + (digit.toNat - 48))) 0
    some (if negative then -value else value, text.drop digits.length)

/-- What may follow the digits of a number: a fraction and an exponent. -/
structure Tail where
  significand : Nat
  exponent : Int
  /-- The number has neither. -/
  whole : Bool
  deriving DecidableEq, Repr

/-- The fraction of a number, of which each digit lowers the exponent. -/
def parseFraction? (tail : Tail) (text : List Char) :
    Option (Tail × List Char) :=
  match text with
  | '.' :: text =>
      let (significand, count, rest) :=
        readDigits significandLimit tail.significand 0 text
      if (text.takeWhile Char.isDigit).isEmpty then none
      else some (⟨significand, tail.exponent - count, false⟩, dropDigits rest)
  | _ => some (tail, text)

def parseScale? (tail : Tail) (text : List Char) : Option (Tail × List Char) :=
  match text with
  | mark :: rest =>
      if mark = 'e' ∨ mark = 'E' then do
        let (exponent, rest) ← parseExponent? rest
        some (⟨tail.significand, tail.exponent + exponent, false⟩, rest)
      else some (tail, text)
  | [] => some (tail, [])

/-- The value of a number.  An integer that is none of 64 bits with a sign is a
fraction, and so is zero with a minus sign. -/
def numberValue? (negative : Bool) (tail : Tail) : Option ConfigValue :=
  let value : Int := if negative then -tail.significand else tail.significand
  if tail.whole &&
    decide (ConfigValue.int64.low ≤ value ∧ value ≤ ConfigValue.int64.high) &&
      !(negative && value == 0) then
    some (.integer value)
  else (Double.ofDecimal? negative tail.significand tail.exponent).map .fraction

/-- A number at the front of a text.  Digits that do not fit into the
significand raise the exponent before the point and are left out after it. -/
def parseNumber? (text : List Char) : Option (ConfigValue × List Char) := do
  let (negative, text) :=
    match text with
    | '-' :: rest => (true, rest)
    | _ => (false, text)
  let digits := text.takeWhile Char.isDigit
  if digits.isEmpty ∨ (digits.head? = some '0' ∧ 1 < digits.length) then none
  else do
    let (significand, count, _) := readDigits significandLimit 0 0 text
    let left := digits.length - count
    let (tail, rest) ← parseFraction? ⟨significand, left, left == 0⟩
      (text.drop digits.length)
    let (tail, rest) ← parseScale? tail rest
    let value ← numberValue? negative tail
    some (value, rest)

/-! ## Values -/

def maxDepth : Nat := 127

def parseWord? (word : String) (value : ConfigValue) (text : List Char) :
    Option (ConfigValue × List Char) :=
  (Sequence.dropPrefix? word.toList text).map fun rest => (value, rest)

mutual

/-- A value at the front of a text.  `fuel` bounds the steps and `depth` the
nesting. -/
def parseValue? (fuel depth : Nat) (text : List Char) :
    Option (ConfigValue × List Char) :=
  match fuel with
  | 0 => none
  | fuel + 1 =>
      match skipBlanks text with
      | 'n' :: rest => parseWord? "ull" .null rest
      | 't' :: rest => parseWord? "rue" (.truth true) rest
      | 'f' :: rest => parseWord? "alse" (.truth false) rest
      | '"' :: rest => do
          let (value, rest) ← parseString? (rest.length + 1) rest
          some (.text (String.ofList value), rest)
      | '[' :: rest =>
          match depth with
          | 0 => none
          | depth + 1 =>
              match skipBlanks rest with
              | ']' :: rest => some (.array 0 [], rest)
              | rest =>
                  (parseElements? fuel depth rest).map fun (elements, rest) =>
                  (.array elements.length
                    ((List.range elements.length).zip elements), rest)
      | character :: rest =>
          if character = Char.ofNat 0x7B then
            match depth with
            | 0 => none
            | depth + 1 =>
                match skipBlanks rest with
                | [] => none
                | closing :: after =>
                    if closing = Char.ofNat 0x7D then some (.table [], after)
                    else (parseEntries? fuel depth (closing :: after)).map
                      fun (entries, rest) =>
                      (.table entries.reverse, rest)
          else parseNumber? (character :: rest)
      | [] => none

/-- The elements of an array and its closing bracket. -/
def parseElements? (fuel depth : Nat) (text : List Char) :
    Option (List ConfigValue × List Char) :=
  match fuel with
  | 0 => none
  | fuel + 1 => do
      let (value, rest) ← parseValue? fuel depth text
      match skipBlanks rest with
      | ',' :: rest => do
          let (elements, rest) ← parseElements? fuel depth rest
          some (value :: elements, rest)
      | ']' :: rest => some ([value], rest)
      | _ => none

/-- The entries of an object and its closing brace. -/
def parseEntries? (fuel depth : Nat) (text : List Char) :
    Option (List (String × ConfigValue) × List Char) :=
  match fuel with
  | 0 => none
  | fuel + 1 =>
      match skipBlanks text with
      | '"' :: rest => do
          let (name, rest) ← parseString? (rest.length + 1) rest
          match skipBlanks rest with
          | ':' :: rest => do
              let (value, rest) ← parseValue? fuel depth rest
              match skipBlanks rest with
              | ',' :: rest => do
                  let (entries, rest) ← parseEntries? fuel depth rest
                  some ((String.ofList name, value) :: entries, rest)
              | closing :: rest =>
                  if closing = Char.ofNat 0x7D then
                    some ([(String.ofList name, value)], rest)
                  else none
              | [] => none
          | _ => none
      | _ => none

end

/-- The value that the whole text spells. -/
def parse? (text : String) : Option ConfigValue :=
  match parseValue? (2 * text.length + 2) maxDepth text.toList with
  | some (value, rest) => if (skipBlanks rest).isEmpty then some value else none
  | none => none

end HttpEngine.Json
