import HttpEngine.Bytes
import HttpEngine.Text.Utf8

/-!
# Digests

The secure hash algorithm with 160 bits and the base-64 alphabet, as far as the
opening handshake needs them.
-/

namespace HttpEngine.WebSocket

/-! ## SHA-1 -/

def rotateLeft (word : UInt32) (count : UInt32) : UInt32 :=
  (word <<< count) ||| (word >>> (32 - count))

def joinWord (bytes : Bytes) : UInt32 :=
  bytes.foldl (fun word byte => (word <<< 8) ||| byte.toUInt32) 0

/-- The message, a one bit, zeros up to 56 bytes modulo 64, and the length in
bits. -/
def padMessage (message : Bytes) : Bytes :=
  let zeros := (119 - message.length % 64) % 64
  message ++ [0x80] ++ List.replicate zeros 0 ++
    BigEndian.encode 8 (message.length * 8)

/-- The state of the hash, and of one round of it. -/
structure HashState where
  a : UInt32
  b : UInt32
  c : UInt32
  d : UInt32
  e : UInt32
  deriving DecidableEq, Repr

def HashState.initial : HashState :=
  ⟨0x67452301, 0xEFCDAB89, 0x98BADCFE, 0x10325476, 0xC3D2E1F0⟩

def HashState.add (first second : HashState) : HashState :=
  ⟨first.a + second.a, first.b + second.b, first.c + second.c,
    first.d + second.d,
    first.e + second.e⟩

/-- Prepends the next word of the schedule; the words so far are kept latest
first. -/
def extendSchedule (latest : List UInt32) : List UInt32 :=
  rotateLeft
    (latest.getD 2 0 ^^^ latest.getD 7 0 ^^^ latest.getD 13 0 ^^^
      latest.getD 15 0) 1 :: latest

def schedule (block : Bytes) : List UInt32 :=
  let words := (Sequence.pieces 4 block).map joinWord
  ((List.range 64).foldl (fun latest _ => extendSchedule latest)
    words.reverse).reverse

def roundWord (index : Nat) (state : HashState) : UInt32 :=
  if index < 20 then
    ((state.b &&& state.c) ||| (state.b.complement &&& state.d)) + 0x5A827999
  else if index < 40 then (state.b ^^^ state.c ^^^ state.d) + 0x6ED9EBA1
  else if index < 60 then
    ((state.b &&& state.c) ||| (state.b &&& state.d) |||
      (state.c &&& state.d)) + 0x8F1BBCDC
  else (state.b ^^^ state.c ^^^ state.d) + 0xCA62C1D6

def round (state : HashState) (item : UInt32 × Nat) : HashState :=
  ⟨rotateLeft state.a 5 + roundWord item.2 state + state.e + item.1, state.a,
    rotateLeft state.b 30, state.c, state.d⟩

def absorb (state : HashState) (block : Bytes) : HashState :=
  state.add ((schedule block).zipIdx.foldl round state)

def sha1 (message : Bytes) : Bytes :=
  let state := (Sequence.pieces 64 (padMessage message)).foldl absorb .initial
  [state.a, state.b, state.c, state.d, state.e].flatMap fun word =>
    BigEndian.encode 4 word.toNat

/-! ## Base 64 -/

def base64Alphabet : List Char :=
  "ABCDEFGHIJKLMNOPQRSTUVWXYZabcdefghijklmnopqrstuvwxyz0123456789+/".toList

/-- The digits of a group of up to three bytes, filled up with equals signs. -/
def base64Group (group : Bytes) : List Char :=
  let filled := group ++ List.replicate (3 - group.length) 0
  let value :=
    filled.foldl (fun value (byte : UInt8) => value * 256 + byte.toNat) 0
  let digits := [18, 12, 6, 0].map fun shift =>
    base64Alphabet.getD ((value >>> shift) % 64) 'A'
  digits.take (group.length + 1) ++ List.replicate (3 - group.length) '='

def base64 (bytes : Bytes) : String :=
  String.ofList ((Sequence.pieces 3 bytes).flatMap base64Group)

end HttpEngine.WebSocket
