import HttpEngine.Text.Utf8
import HttpEngine.WebSocket.Script

/-!
# Frames

The bytes of a client are masked frames.  Fragments are joined to messages;
control frames may stand between them.  A frame that breaks the rules ends the
session.
-/

namespace HttpEngine.WebSocket

/-! ## Reading frames -/

structure Frame where
  final : Bool
  reserved : Bool
  opcode : Nat
  masked : Bool
  payload : Bytes
  deriving DecidableEq, Repr

/-- What stands at the front of the bytes received. -/
inductive FrameRead where
  /-- The frame is not complete. -/
  | partly
  | violation
  | frame (frame : Frame) (rest : Bytes)
  deriving DecidableEq, Repr

def isKnownOpcode (opcode : Nat) : Bool := [0, 1, 2, 8, 9, 10].contains opcode

/-- Frames that announce more bytes than this are refused. -/
def maxFrameSize : Nat := 16777216

/-- Applies a mask of four bytes to a payload. -/
def applyMask (mask payload : Bytes) : Bytes :=
  payload.zipIdx.map fun (byte, index) => byte ^^^ mask.getD (index % 4) 0

/-- The width of the extended length that a short length announces. -/
def extendedWidth (short : Nat) : Nat :=
  if short = 126 then 2 else if short = 127 then 8 else 0

def readFrame (bytes : Bytes) : FrameRead :=
  match bytes with
  | first :: second :: rest =>
      let opcode := first.toNat % 16
      let masked := decide (128 ≤ second.toNat)
      let short := second.toNat % 128
      let width := extendedWidth short
      let maskWidth := if masked then 4 else 0
      if rest.length < width + maskWidth then .partly
      else
        let length :=
          if width = 0 then short else BigEndian.decode (rest.take width)
        let mask := (rest.drop width).take maskWidth
        let rest := rest.drop (width + maskWidth)
        if !isKnownOpcode opcode || decide (maxFrameSize < length) then
          .violation
        else if rest.length < length then .partly
        else
          .frame
            { final := decide (128 ≤ first.toNat)
              reserved := first.toNat / 16 % 8 != 0
              opcode := opcode
              masked := masked
              payload :=
                if masked then applyMask mask (rest.take length)
                else rest.take length }
            (rest.drop length)
  | _ => .partly

/-! ## Writing frames -/

/-- The second byte of a masked frame and the extended length after it. -/
def writeLength (length : Nat) : Bytes :=
  if length < 126 then [UInt8.ofNat (128 + length)]
  else if length < 65536 then 254 :: BigEndian.encode 2 length
  else 255 :: BigEndian.encode 8 length

/-- A frame of its own as a peer sends it, under a mask of zeros. -/
def writeFrame (opcode : Nat) (payload : Bytes) : Bytes :=
  UInt8.ofNat (128 + opcode) :: writeLength payload.length ++
    [0, 0, 0, 0] ++ payload

/-! ## Joining messages -/

/-- What has come from the peer. -/
inductive Incoming where
  | message (message : Message)
  | ping (payload : Bytes)
  | pong (payload : Bytes)
  | close
  /-- The peer broke the rules or went away. -/
  | failure
  deriving DecidableEq, Repr

/-- A message of which some fragments have arrived. -/
structure Fragments where
  isText : Bool
  payload : Bytes
  deriving DecidableEq, Repr

structure Assembly where
  buffer : Bytes
  fragments : Option Fragments
  deriving DecidableEq, Repr

namespace Assembly

def start : Assembly := ⟨[], none⟩

/-- The bytes are the beginning of a text, perhaps up to within a character. -/
def isTextPrefix (bytes : Bytes) : Bool :=
  let ends : List Bytes :=
    [[], [0x80], [0x90], [0xA0], [0x80, 0x80], [0x90, 0x80], [0xA0, 0x80],
      [0x80, 0x80, 0x80], [0x90, 0x80, 0x80]]
  ends.any fun rest => (Utf8.decode? (bytes ++ rest)).isSome

def messageOf (isText : Bool) (payload : Bytes) : Incoming :=
  if isText then
    match Utf8.toString? payload with
    | some text => .message (.text text)
    | none => .failure
  else .message (.binary payload)

/-- A fragment after which the message goes on, or which ends it. -/
def joinFragment (assembly : Assembly) (fragments : Fragments) (final : Bool) :
    Assembly × Option Incoming :=
  if final then
    ({ assembly with fragments := none },
      some (messageOf fragments.isText fragments.payload))
  else if fragments.isText && !isTextPrefix fragments.payload then
    (assembly, some .failure)
  else ({ assembly with fragments := some fragments }, none)

/-- A close frame carries nothing, or a code of two bytes and a text. -/
def closeOf (payload : Bytes) : Incoming :=
  match payload with
  | [] => .close
  | _ :: _ :: reason =>
      if (Utf8.decode? reason).isSome then .close else .failure
  | _ => .failure

def acceptControl (assembly : Assembly) (frame : Frame) :
    Assembly × Option Incoming :=
  if !frame.final || decide (125 < frame.payload.length) then
    (assembly, some .failure)
  else if frame.opcode = 8 then (assembly, some (closeOf frame.payload))
  else if frame.opcode = 9 then (assembly, some (.ping frame.payload))
  else (assembly, some (.pong frame.payload))

def acceptData (assembly : Assembly) (frame : Frame) :
    Assembly × Option Incoming :=
  match assembly.fragments with
  | some fragments =>
      if frame.opcode = 0 then
        assembly.joinFragment
          { fragments with
            payload := fragments.payload ++ frame.payload } frame.final
      else (assembly, some .failure)
  | none =>
      if frame.opcode = 0 then (assembly, some .failure)
      else assembly.joinFragment ⟨frame.opcode == 1, frame.payload⟩ frame.final

/-- Takes in a frame; it may complete something. -/
def accept (assembly : Assembly) (frame : Frame) : Assembly × Option Incoming :=
  if !frame.masked || frame.reserved then (assembly, some .failure)
  else if 8 ≤ frame.opcode then assembly.acceptControl frame
  else assembly.acceptData frame

/-- Takes frames off the buffer; `fuel` bounds their number. -/
def drain : Nat → Assembly → Assembly × List Incoming
  | 0, assembly => (assembly, [])
  | fuel + 1, assembly =>
      match readFrame assembly.buffer with
      | .partly => (assembly, [])
      | .violation => (assembly, [.failure])
      | .frame frame rest =>
          let (next, item) := { assembly with buffer := rest }.accept frame
          let (last, items) := drain fuel next
          (last, item.toList ++ items)

/-- Takes in bytes of the peer. -/
def receive (assembly : Assembly) (bytes : Bytes) : Assembly × List Incoming :=
  let buffer := assembly.buffer ++ bytes
  drain (buffer.length + 1) { assembly with buffer := buffer }

end Assembly

end HttpEngine.WebSocket
