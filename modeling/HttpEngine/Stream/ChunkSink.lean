import HttpEngine.Bytes

/-!
# Chunk sinks

A producer writes its bytes into a sink.  The sink collects them up to its
capacity and hands each full buffer to the peer as one chunk; a flush hands over
what has been collected.  The peer may go away at any time: the first chunk it
does not take disconnects the sink for good, and the listeners registered until
then are notified, each once and in the order of registration.

`Outlet` is a sink together with the peer at its other end and the listeners
notified so far.
-/

namespace HttpEngine

/-! ## The peer -/

structure Peer where
  /-- How many more chunks the peer takes; `none` stands for any number. -/
  patience : Option Nat
  received : Array Bytes
  deriving DecidableEq, Repr

namespace Peer

def attentive : Peer := ⟨none, #[]⟩

/-- The peer with one more chunk, unless it has gone. -/
def take? (peer : Peer) (chunk : Bytes) : Option Peer :=
  match peer.patience with
  | none => some { peer with received := peer.received.push chunk }
  | some 0 => none
  | some (count + 1) => some ⟨some count, peer.received.push chunk⟩

def leave (peer : Peer) : Peer := { peer with patience := some 0 }

end Peer

/-! ## The sink -/

structure Outlet (ι : Type) where
  connected : Bool
  buffer : Bytes
  capacity : Nat
  listeners : List ι
  notified : List ι
  peer : Peer
  deriving DecidableEq, Repr

namespace Outlet

variable {ι : Type}

/-- A chunk has at least one byte, whatever the capacity asked for. -/
def new (capacity : Nat) (peer : Peer) : Outlet ι :=
  ⟨true, [], max capacity 1, [], [], peer⟩

def isDisconnected (outlet : Outlet ι) : Bool := !outlet.connected

/-- A listener of a disconnected sink is notified at once. -/
def onDisconnect (outlet : Outlet ι) (listener : ι) : Outlet ι :=
  if outlet.connected then
    { outlet with listeners := outlet.listeners ++ [listener] }
  else { outlet with notified := outlet.notified ++ [listener] }

def disconnect (outlet : Outlet ι) : Outlet ι :=
  { outlet with
    connected := false
    buffer := []
    listeners := []
    notified := outlet.notified ++ outlet.listeners }

/-- Hands a chunk to the peer and says whether it was taken. -/
def send (outlet : Outlet ι) (chunk : Bytes) : Outlet ι × Bool :=
  if !outlet.connected then (outlet, false)
  else
    match outlet.peer.take? chunk with
    | some peer => ({ outlet with peer := peer }, true)
    | none => (outlet.disconnect, false)

/-- Hands over chunks until one is not taken. -/
def sendAll (outlet : Outlet ι) : List Bytes → Outlet ι × Bool
  | [] => (outlet, true)
  | chunk :: rest =>
      match outlet.send chunk with
      | (outlet, true) => outlet.sendAll rest
      | (outlet, false) => (outlet, false)

/-- Whole buffers of the given size, and what is left. -/
def fullPieces (size : Nat) (bytes : Bytes) : List Bytes × Bytes :=
  let whole := bytes.length / size * size
  (Sequence.pieces size (bytes.take whole), bytes.drop whole)

/-- Takes bytes into the buffer and hands over every full one. -/
def write (outlet : Outlet ι) (bytes : Bytes) : Outlet ι × Bool :=
  if !outlet.connected then (outlet, false)
  else
    let (chunks, rest) := fullPieces outlet.capacity (outlet.buffer ++ bytes)
    { outlet with buffer := rest }.sendAll chunks

/-- Writes bytes if there are any. -/
def writeAll (outlet : Outlet ι) (bytes : Bytes) : Outlet ι × Bool :=
  if bytes.isEmpty then (outlet, true) else outlet.write bytes

/-- Hands over what the buffer holds. -/
def flush (outlet : Outlet ι) : Outlet ι × Bool :=
  if outlet.buffer.isEmpty then (outlet, outlet.connected)
  else { outlet with buffer := [] }.send outlet.buffer

/-- Ends the body on the way out: what is left in the buffer is handed over if
it can be. -/
def drop (outlet : Outlet ι) : Outlet ι :=
  if outlet.connected && !outlet.buffer.isEmpty then outlet.flush.1 else outlet

/-- Flushes and ends the body. -/
def close (outlet : Outlet ι) : Outlet ι × Bool :=
  let (outlet, taken) := outlet.flush
  (outlet.drop, taken)

def describe (outlet : Outlet ι) : String :=
  "ChunkSink \x7b buffered: " ++ toString outlet.buffer.length ++
    ", capacity: " ++
    toString outlet.capacity ++ ", disconnected: " ++
      toString outlet.isDisconnected ++ " \x7d"

/-- What a sink answers to an operation after its peer has gone. -/
def disconnectedMessage : String := "client disconnected"

end Outlet

end HttpEngine
