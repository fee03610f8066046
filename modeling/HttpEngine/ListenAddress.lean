import HttpEngine.Address
import HttpEngine.Text.Blank

/-!
# Addresses to listen on

A server listens on the address of a socket, or on a host with a port behind the
last colon.  A host is a name, an address of groups, or four bytes written as up
to four numbers in one of three bases.
-/

namespace HttpEngine

structure ListenAddress where
  host : String
  port : Nat
  deriving DecidableEq, Repr

namespace ListenAddress

/-! ## Hosts -/

/-- A number with the base that its front tells: ten, eight after a zero,
sixteen after `0x`. -/
def parsePart? (text : List Char) : Option Nat :=
  match text with
  | ['0'] => some 0
  | '0' :: mark :: digits =>
      if mark = 'x' ∨ mark = 'X' then IpAddress.parseDigits? 16 digits
      else IpAddress.parseDigits? 8 (mark :: digits)
  | digits => IpAddress.parseDigits? 10 digits

/-- The value of up to four numbers between full stops.  Each is a byte, and the
last one fills all bytes that the others leave. -/
def parseParts? (host : List Char) : Option Nat := do
  let parts ← (host.splitOn '.').mapM parsePart?
  let bytes := parts.dropLast
  let last := parts.getLastD 0
  let width := 8 * (4 - bytes.length)
  if 3 < bytes.length ∨ bytes.any (255 < ·) ∨ Text.wordCount width ≤ last then
    none
  else some (bytes.foldl (fun value byte => value * 256 + byte) 0 *
    Text.wordCount width + last)

/-- A loopback address of four bytes, or the one that stands for all. -/
def isLocalValue (value : Nat) : Bool := value >>> 24 == 127 || value == 0

/-- A loopback address of groups, the one that stands for all, or such an
address of four bytes. -/
def isLocalGroups (groups : List Nat) : Bool :=
  let value := groups.foldl (fun value group => value * 65536 + group) 0
  value == 0 || value == 1 ||
    (value >>> 32 == 0xFFFF && isLocalValue (value % Text.wordCount 32))

/-! ## Addresses -/

def portRange : Text.IntegerRange := .unsigned 16

/-- The host before the last colon and the port after it.  The brackets of the
address of a socket do not belong to the host. -/
def parse (text : String) : Except String ListenAddress :=
  match SocketAddress.parse? text with
  | some ⟨.groups groups, _, port⟩ => .ok ⟨IpAddress.renderGroups groups, port⟩
  | some ⟨.bytes bytes, _, port⟩ => .ok ⟨IpAddress.renderBytes bytes, port⟩
  | none =>
      match Sequence.cutAt? ':' text.toList.reverse with
      | none => .error "invalid socket address"
      | some (port, host) =>
          match Text.parseInteger portRange port.reverse with
          | .ok port => .ok ⟨String.ofList host.reverse, port.toNat⟩
          | .error _ => .error "invalid port value"

/-- Names and addresses by which every host knows itself. -/
def isLocal (address : ListenAddress) : Bool :=
  let host := address.host.toList
  Text.sameLetters host "localhost".toList ||
    ((parseParts? host).map isLocalValue).getD false ||
    ((IpAddress.parseGroups? host).map isLocalGroups).getD false

end ListenAddress

end HttpEngine
