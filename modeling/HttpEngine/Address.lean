import HttpEngine.Bytes
import HttpEngine.Text.Numeral

/-!
# Network addresses

An address is four bytes, written as decimal numbers between full stops, or
eight groups of 16 bits, written in hexadecimal between colons, where two colons
stand for a run of zeros.  The address of a socket has a port, and an address of
groups then stands in brackets and may have a scope.
-/

namespace HttpEngine

inductive IpAddress where
  | bytes (values : List Nat)
  | groups (values : List Nat)
  deriving DecidableEq, Repr

namespace IpAddress

/-! ## Reading -/

/-- A number of at least one digit, all of them below the base. -/
def parseDigits? (base : Nat) (text : List Char) : Option Nat := do
  let digits ← text.mapM Text.hexValue?
  if digits.isEmpty || digits.any (base ≤ ·) then none
  else some (digits.foldl (fun value digit => value * base + digit) 0)

/-- A decimal number of one byte without leading zeros. -/
def parseByte? (text : List Char) : Option Nat := do
  let byte ← parseDigits? 10 text
  if 255 < byte ∨ (text.head? = some '0' ∧ 1 < text.length) then none
  else some byte

def parseBytes? (text : List Char) : Option (List Nat) := do
  let bytes ← (text.splitOn '.').mapM parseByte?
  if bytes.length = 4 then some bytes else none

/-- The two groups that four bytes make. -/
def pairs : List Nat → List Nat
  | high :: low :: rest => (high * 256 + low) :: pairs rest
  | _ => []

def parseGroup? (text : List Char) : Option Nat :=
  if 4 < text.length then none else parseDigits? 16 text

/-- Groups between colons, in place of the last two of which four bytes may
stand. -/
def parseRun? (text : List Char) : Option (List Nat) :=
  if text.isEmpty then some []
  else do
    let parts := text.splitOn ':'
    let last := parts.getLastD []
    let groups ← parts.dropLast.mapM parseGroup?
    let ending ← ((parseGroup? last).map ([·])).or
      ((parseBytes? last).map pairs)
    some (groups ++ ending)

def parseGroups? (text : List Char) : Option (List Nat) :=
  match Sequence.cut? [':', ':'] text with
  | none => do
      let groups ← parseRun? text
      if groups.length = 8 then some groups else none
  | some (before, after) => do
      let front ← if before.contains '.' then none else parseRun? before
      let back ← parseRun? after
      let given := front.length + back.length
      if 7 < given then none
      else some (front ++ List.replicate (8 - given) 0 ++ back)

/-! ## Writing -/

def renderBytes (bytes : List Nat) : String :=
  ".".intercalate (bytes.map toString)

/-- Start and length of the first among the longest runs of zeros; `place` is
that of the next group, and the run before it is given. -/
def longestZeros (place start length : Nat) : List Nat → Nat × Nat
  | [] => (start, length)
  | group :: rest =>
      if group = 0 then longestZeros (place + 1) start (length + 1) rest
      else
        let found := longestZeros (place + 1) (place + 1) 0 rest
        if found.2 ≤ length then (start, length) else found

def renderRun (groups : List Nat) : String :=
  ":".intercalate (groups.map fun group =>
    String.ofList (Nat.toDigits 16 group))

/-- The first among the longest runs of at least two zeros is left out.  An
address that stands for one of four bytes ends with them. -/
def renderGroups (groups : List Nat) : String :=
  match groups with
  | [0, 0, 0, 0, 0, 0xFFFF, high, low] =>
      "::ffff:" ++ renderBytes [high / 256, high % 256, low / 256, low % 256]
  | _ =>
      let (start, length) := longestZeros 0 0 0 groups
      if length < 2 then renderRun groups
      else renderRun (groups.take start) ++ "::" ++
        renderRun (groups.drop (start + length))

end IpAddress

/-! ## Addresses of sockets -/

structure SocketAddress where
  ip : IpAddress
  scope : Nat
  port : Nat
  deriving DecidableEq, Repr

namespace SocketAddress

/-- Decimal digits of a number below a limit. -/
def parseBelow? (limit : Nat) (text : List Char) : Option Nat := do
  let number ← IpAddress.parseDigits? 10 text
  if number < limit then some number else none

/-- An address of groups with the scope that may follow it. -/
def parseScoped? (text : List Char) : Option (IpAddress × Nat) :=
  match Sequence.cutAt? '%' text with
  | none => (IpAddress.parseGroups? text).map fun groups => (.groups groups, 0)
  | some (address, scope) => do
      let groups ← IpAddress.parseGroups? address
      some (.groups groups, ← parseBelow? (Text.wordCount 32) scope)

def parse? (text : String) : Option SocketAddress :=
  match text.toList with
  | '[' :: rest => do
      let (address, rest) ← Sequence.cutAt? ']' rest
      let (ip, scope) ← parseScoped? address
      match rest with
      | ':' :: port => some ⟨ip, scope, ← parseBelow? (Text.wordCount 16) port⟩
      | _ => none
  | text => do
      let (address, port) ← Sequence.cutAt? ':' text
      some ⟨.bytes (← IpAddress.parseBytes? address), 0,
        ← parseBelow? (Text.wordCount 16) port⟩

def render (address : SocketAddress) : String :=
  match address.ip with
  | .bytes bytes => IpAddress.renderBytes bytes ++ ":" ++ toString address.port
  | .groups groups =>
      "[" ++ IpAddress.renderGroups groups ++
        (if address.scope = 0 then "" else "%" ++ toString address.scope) ++
          "]:" ++
        toString address.port

end SocketAddress

end HttpEngine
