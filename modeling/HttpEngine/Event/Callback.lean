import HttpEngine.Event.Emitter

/-!
# Emitters used by their own listeners

A listener of an emitter may call the emitter again.  The emitter has one lock,
which no call can take twice: sending and registering hold it until they return,
closing only while it takes the sink away.  A call that wants the lock while a
call further up holds it waits for ever.
-/

namespace HttpEngine

/-- A call of an emitter; a listener is the calls that it makes. -/
inductive EmitterCall where
  | send (event : Event)
  | close
  | isDisconnected
  | onDisconnect (listener : List EmitterCall)
  deriving Repr

namespace EmitterCall

abbrev Listener : Type := List EmitterCall

inductive Instruction where
  | call (call : EmitterCall)
  /-- The call that holds the lock returns. -/
  | release
  deriving Repr

structure State where
  emitter : Emitter Listener
  locked : Bool
  /-- What is left to do, the innermost call first. -/
  rest : List Instruction
  deriving Repr

namespace State

def start (capacity : Nat) (peer : Peer) (calls : List EmitterCall) : State :=
  ⟨.new capacity peer, false, calls.map .call⟩

/-- What a call makes of the emitter, and whether its listeners run while it
holds the lock. -/
def perform (emitter : Emitter Listener) : EmitterCall → Emitter Listener × Bool
  | .send event => ((emitter.send event).1, true)
  | .close => (emitter.close.1, false)
  | .isDisconnected => (emitter, true)
  | .onDisconnect listener => (emitter.onDisconnect listener, true)

/-- The calls of the listeners that have been notified since an
earlier state. -/
def reactions (before after : Emitter Listener) : List Instruction :=
  (after.outlet.notified.drop before.outlet.notified.length).flatten.map .call

/-- The next step; a call that has to wait for the lock does nothing. -/
def step (state : State) : State :=
  match state.rest with
  | [] => state
  | .release :: rest => { state with locked := false, rest := rest }
  | .call call :: rest =>
      if state.locked then state
      else
        let (emitter, holds) := perform state.emitter call
        let calls := reactions state.emitter emitter
        ⟨emitter, holds,
          if holds then calls ++ .release :: rest else calls ++ rest⟩

def run : Nat → State → State
  | 0, state => state
  | steps + 1, state => run steps state.step

def isOver (state : State) : Bool := state.rest.isEmpty

/-- A call waits for the lock that a call further up holds. -/
def isStuck (state : State) : Bool :=
  match state.rest with
  | .call _ :: _ => state.locked
  | _ => false

end State

end EmitterCall

end HttpEngine
