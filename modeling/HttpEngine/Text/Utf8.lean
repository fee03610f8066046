import HttpEngine.Bytes

/-!
# UTF-8

A text is a list of characters, its written form a list of bytes.  `scan` reads
bytes from the left into characters and faults; one fault covers the longest
prefix that could still have become a character, so a truncated character counts
once.  `decode?` refuses faults and `decodeLossy` puts the replacement character
in their place.
-/

namespace HttpEngine.Utf8

def encode (text : List Char) : Bytes := text.flatMap String.utf8EncodeChar

/-! ## Reading one character -/

/-- What a first byte announces. -/
inductive Lead where
  | ascii
  | pair
  | triple
  | quadruple
  | stray
  deriving DecidableEq, Repr

def leadOf (byte : UInt8) : Lead :=
  if byte.toNat < 0x80 then .ascii
  else if 0xC2 ≤ byte.toNat ∧ byte.toNat ≤ 0xDF then .pair
  else if 0xE0 ≤ byte.toNat ∧ byte.toNat ≤ 0xEF then .triple
  else if 0xF0 ≤ byte.toNat ∧ byte.toNat ≤ 0xF4 then .quadruple
  else .stray

def isTail (byte : UInt8) : Bool :=
  decide (0x80 ≤ byte.toNat ∧ byte.toNat ≤ 0xBF)

/-- The second byte of a longer character is a tail that keeps the character
shortest, outside the surrogates and within the code space. -/
def isSecond (lead second : UInt8) : Bool :=
  let low := if lead.toNat = 0xE0 then 0xA0 else if lead.toNat = 0xF0 then
    0x90 else 0x80
  let high := if lead.toNat = 0xED then 0x9F else if lead.toNat = 0xF4 then
    0x8F else 0xBF
  decide (low ≤ second.toNat ∧ second.toNat ≤ high)

def joinTwo (lead second : UInt8) : Char :=
  Char.ofNat (lead.toNat % 32 * 64 + second.toNat % 64)

def joinThree (lead second third : UInt8) : Char :=
  Char.ofNat (lead.toNat % 16 * 4096 + second.toNat % 64 * 64 +
    third.toNat % 64)

def joinFour (lead second third fourth : UInt8) : Char :=
  Char.ofNat (lead.toNat % 8 * 262144 + second.toNat % 64 * 4096 +
    third.toNat % 64 * 64 + fourth.toNat % 64)

/-! ## Reading a text -/

/-- The characters of `bytes` from the left, `none` standing for a fault. -/
def scan : Bytes → List (Option Char)
  | [] => []
  | lead :: rest =>
      match leadOf lead with
      | .ascii => some (Char.ofNat lead.toNat) :: scan rest
      | .stray => none :: scan rest
      | .pair =>
          match rest with
          | [] => [none]
          | second :: rest =>
              if isTail second then some (joinTwo lead second) :: scan rest
              else none :: scan (second :: rest)
      | .triple =>
          match rest with
          | [] => [none]
          | second :: rest =>
              if isSecond lead second then
                match rest with
                | [] => [none]
                | third :: rest =>
                    if isTail third then
                      some (joinThree lead second third) :: scan rest
                    else none :: scan (third :: rest)
              else none :: scan (second :: rest)
      | .quadruple =>
          match rest with
          | [] => [none]
          | second :: rest =>
              if isSecond lead second then
                match rest with
                | [] => [none]
                | third :: rest =>
                    if isTail third then
                      match rest with
                      | [] => [none]
                      | fourth :: rest =>
                          if isTail fourth then
                            some (joinFour lead second third fourth) ::
                              scan rest
                          else none :: scan (fourth :: rest)
                    else none :: scan (third :: rest)
              else none :: scan (second :: rest)

def replacement : Char := Char.ofNat 0xFFFD

def decodeLossy (bytes : Bytes) : List Char :=
  (scan bytes).map (·.getD replacement)

def decode? (bytes : Bytes) : Option (List Char) :=
  (scan bytes).mapM id

/-! ## Strings -/

def ofString (text : String) : Bytes := encode text.toList

def toStringLossy (bytes : Bytes) : String := String.ofList (decodeLossy bytes)

def toString? (bytes : Bytes) : Option String :=
  (decode? bytes).map String.ofList

end HttpEngine.Utf8
