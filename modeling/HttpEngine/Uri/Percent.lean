import HttpEngine.Text.Utf8

/-!
# Percent-encoding

A percent sign before two hexadecimal digits stands for one byte; any other
percent sign stands for itself.
-/

namespace HttpEngine.Percent

def hexValue? (byte : UInt8) : Option Nat :=
  let point := byte.toNat
  if 48 ≤ point ∧ point ≤ 57 then some (point - 48)
  else if 97 ≤ point ∧ point ≤ 102 then some (point - 87)
  else if 65 ≤ point ∧ point ≤ 70 then some (point - 55)
  else none

def percentSign : UInt8 := 37

/-- The byte that two hexadecimal digits spell. -/
def joinHex? (high low : UInt8) : Option UInt8 :=
  match hexValue? high, hexValue? low with
  | some highValue, some lowValue =>
      some (UInt8.ofNat (highValue * 16 + lowValue))
  | _, _ => none

def decode : Bytes → Bytes
  | byte :: high :: low :: rest =>
      if byte = percentSign then
        match joinHex? high low with
        | some value => value :: decode rest
        | none => byte :: decode (high :: low :: rest)
      else byte :: decode (high :: low :: rest)
  | bytes => bytes

/-- The text a request path stands for; a path that does not decode to UTF-8
stays as written. -/
def decodePath (path : String) : String :=
  (Utf8.toString? (decode (Utf8.ofString path))).getD path

/-! ## Writing -/

def upperHexDigit (value : Nat) : UInt8 :=
  UInt8.ofNat (if value < 10 then 48 + value else 55 + value)

def spell (byte : UInt8) : Bytes :=
  [percentSign, upperHexDigit (byte.toNat / 16),
    upperHexDigit (byte.toNat % 16)]

/-- Spells out the bytes that `mustEscape` selects. -/
def encode (mustEscape : UInt8 → Bool) (bytes : Bytes) : Bytes :=
  bytes.flatMap fun byte => if mustEscape byte then spell byte else [byte]

end HttpEngine.Percent
