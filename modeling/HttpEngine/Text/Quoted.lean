import HttpEngine.Bytes
import HttpEngine.Text.Printable

/-!
# Quoted texts

The form in which names, templates and raw bodies appear in diagnostics: between
double quotes, with a backslash before what would otherwise be misread.  A text
spells unprintable characters by their number in braces, a byte string spells
every byte outside printable ASCII by two digits.
-/

namespace HttpEngine.Text

def hexDigit (value : Nat) : Char :=
  Char.ofNat (if value < 10 then 48 + value else 87 + value)

/-- The lower-case hexadecimal digits of a number, without leading zeros. -/
def hexDigits (value : Nat) : List Char := Nat.toDigits 16 value

def backslash : Char := Char.ofNat 92

/-! ## Texts -/

def escapeChar (character : Char) : List Char :=
  if character = Char.ofNat 0 then [backslash, '0']
  else if character = '\t' then [backslash, 't']
  else if character = '\r' then [backslash, 'r']
  else if character = '\n' then [backslash, 'n']
  else if character = backslash then [backslash, backslash]
  else if character = '"' then [backslash, '"']
  else if isPrintable character then [character]
  else [backslash, 'u', '{'] ++ hexDigits character.toNat ++ ['}']

def quote (text : String) : String :=
  String.ofList ('"' :: text.toList.flatMap escapeChar ++ ['"'])

/-- An optional text, as `None` or a quoted text. -/
def quoteOption : Option String → String
  | none => "None"
  | some text => "Some(" ++ quote text ++ ")"

/-! ## Byte strings -/

def escapeByte (byte : UInt8) : List Char :=
  let point := byte.toNat
  if point = 0 then [backslash, '0']
  else if point = 9 then [backslash, 't']
  else if point = 10 then [backslash, 'n']
  else if point = 13 then [backslash, 'r']
  else if point = 92 then [backslash, backslash]
  else if point = 34 then [backslash, '"']
  else if 0x20 ≤ point ∧ point < 0x7F then [Char.ofNat point]
  else [backslash, 'x', hexDigit (point / 16), hexDigit (point % 16)]

def quoteBytes (bytes : Bytes) : String :=
  String.ofList ('b' :: '"' :: bytes.flatMap escapeByte ++ ['"'])

end HttpEngine.Text
