/-!
# Disconnecting while listeners are registered

Listeners for the end of a session are registered from any thread while the
session may be ending in another.  A registration looks at a flag and then adds
its listener to a list, or notifies it when the session has ended; the end of
the session sets the flag, takes the list, and notifies the listeners on it.
Each instruction is one atomic step on what the threads share.
-/

namespace HttpEngine.WebSocket.Disconnection

inductive Instruction (ι : Type) where
  /-- Looks at the flag. -/
  | check (listener : ι)
  /-- Adds a listener to the list. -/
  | add (listener : ι)
  | notify (listener : ι)
  /-- Sets the flag; goes on only if it was not set. -/
  | disconnect
  /-- Takes the list and leaves an empty one. -/
  | takeListeners
  deriving DecidableEq, Repr

abbrev Thread (ι : Type) : Type := List (Instruction ι)

structure State (ι : Type) where
  disconnected : Bool
  listeners : List ι
  /-- The listeners that have been notified, in order. -/
  notified : List ι
  threads : List (Thread ι)
  deriving DecidableEq, Repr

namespace State

variable {ι : Type}

/-- A session with one registration a listener, and as many ends as
asked for. -/
def start (listeners : List ι) (ends : Nat) : State ι :=
  ⟨false, [], [],
    listeners.map ([.check ·]) ++ List.replicate ends [.disconnect]⟩

/-- One instruction: what its thread does instead, and the state after it. -/
def perform (state : State ι) : Instruction ι → Thread ι × State ι
  | .check listener =>
      (if state.disconnected then [.notify listener] else [.add listener],
        state)
  | .add listener =>
      ([], { state with listeners := state.listeners ++ [listener] })
  | .notify listener =>
      ([], { state with notified := state.notified ++ [listener] })
  | .disconnect =>
      (if state.disconnected then [] else [.takeListeners],
        { state with disconnected := true })
  | .takeListeners =>
      (state.listeners.map .notify, { state with listeners := [] })

/-- The next step of the thread at a position; a thread that is over or missing
does nothing. -/
def step (state : State ι) (index : Nat) : State ι :=
  match state.threads[index]? with
  | some (instruction :: rest) =>
      let (before, next) := state.perform instruction
      { next with threads := next.threads.set index (before ++ rest) }
  | _ => state

def runSchedule (state : State ι) (steps : List Nat) : State ι :=
  steps.foldl step state

/-- Every registration and every end of the session has returned. -/
def isSettled (state : State ι) : Bool := state.threads.all List.isEmpty

end State

end HttpEngine.WebSocket.Disconnection
