import HttpEngine.Event.Basic

/-!
# Event emitters

An emitter writes events to one client through the sink of a response.  All its
clones share that sink; closing the emitter takes the sink away for good.
-/

namespace HttpEngine

/-- Why an operation on a stream has failed. -/
inductive StreamFault where
  /-- The peer has gone. -/
  | disconnected
  /-- The emitter was closed before. -/
  | closed
  deriving DecidableEq, Repr

def StreamFault.message : StreamFault → String
  | .disconnected => Outlet.disconnectedMessage
  | .closed => "event stream closed"

structure Emitter (ι : Type) where
  outlet : Outlet ι
  /-- The sink has not been taken away. -/
  hasSink : Bool
  deriving DecidableEq, Repr

namespace Emitter

variable {ι : Type}

def new (capacity : Nat) (peer : Peer) : Emitter ι := ⟨.new capacity peer, true⟩

def ofTaken (taken : Bool) : Except StreamFault Unit :=
  if taken then .ok () else .error .disconnected

/-- Writes one event and flushes it. -/
def send (emitter : Emitter ι) (event : Event) :
    Emitter ι × Except StreamFault Unit :=
  if !emitter.hasSink then (emitter, .error .closed)
  else
    match emitter.outlet.write event.wireBytes with
    | (outlet, false) =>
        ({ emitter with outlet := outlet }, .error .disconnected)
    | (outlet, true) =>
        let (outlet, taken) := outlet.flush
        ({ emitter with outlet := outlet }, ofTaken taken)

/-- Registers a listener with the sink; without a sink it is notified
at once. -/
def onDisconnect (emitter : Emitter ι) (listener : ι) : Emitter ι :=
  if emitter.hasSink then
    { emitter with outlet := emitter.outlet.onDisconnect listener }
  else
    { emitter with
      outlet :=
        { emitter.outlet with
          notified := emitter.outlet.notified ++ [listener] } }

def isDisconnected (emitter : Emitter ι) : Bool :=
  !emitter.hasSink || emitter.outlet.isDisconnected

/-- Takes the sink away and closes it; its listeners go with it. -/
def close (emitter : Emitter ι) : Emitter ι × Except StreamFault Unit :=
  if !emitter.hasSink then (emitter, .ok ())
  else
    let (outlet, taken) := emitter.outlet.close
    (⟨{ outlet with listeners := [] }, false⟩, ofTaken taken)

/-- The peer goes away. -/
def peerLeaves (emitter : Emitter ι) : Emitter ι :=
  { emitter with
    outlet := { emitter.outlet with peer := emitter.outlet.peer.leave } }

/-- Ends the stream when the last clone goes away. -/
def drop (emitter : Emitter ι) : Emitter ι :=
  if emitter.hasSink then ⟨{ emitter.outlet.drop with listeners := [] }, false⟩
  else emitter

def describe (emitter : Emitter ι) : String :=
  "EventEmitter \x7b disconnected: " ++
    toString emitter.isDisconnected ++ " \x7d"

/-- The response whose body an emitter writes. -/
def response : Response := Event.streamResponse.chunks [] .drop

end Emitter

end HttpEngine
