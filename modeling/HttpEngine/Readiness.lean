/-!
# Readiness of a socket

A task reads or writes one direction of a socket that does not block, and an
event loop tells it when the socket has become ready.  The two share a flag, set
by the loop and cleared by the task when the socket turns out not to be ready,
and a place for the waker of the task, which a lock guards.  The socket reports
each change to ready once.

Each move is one atomic step of the task, of the loop, or of the socket.
-/

namespace HttpEngine.Readiness

/-! ## The two parties -/

inductive TaskPhase where
  /-- No transfer is under way. -/
  | idle
  /-- About to look at the flag. -/
  | check
  /-- About to leave the waker. -/
  | register
  /-- About to look at the flag once more. -/
  | recheck
  /-- About to read or write. -/
  | transfer
  /-- About to clear the flag, as the socket was not ready. -/
  | clear
  /-- Waits to be woken. -/
  | pending
  deriving DecidableEq, Repr

inductive LoopPhase where
  | watching
  /-- Has taken out the waker, if there was one, and still holds the lock. -/
  | marking (waker : Bool)
  /-- About to wake the task. -/
  | waking
  deriving DecidableEq, Repr

structure State where
  /-- The socket is ready. -/
  ready : Bool
  /-- The changes to ready that the loop has not handled yet. -/
  events : Nat
  /-- The flag. -/
  triggered : Bool
  /-- The waker of the task is in its place. -/
  registered : Bool
  /-- The task has been woken since it last went on. -/
  woken : Bool
  task : TaskPhase
  loop : LoopPhase
  deriving DecidableEq, Repr

inductive Move where
  /-- The socket becomes ready. -/
  | arrive
  | loop
  /-- The task goes on; a transfer may use up the readiness of the socket. -/
  | task (drains : Bool)
  deriving DecidableEq, Repr

namespace State

/-! ## Steps -/

/-- The flag is set at first, as a change to ready may have gone by before the
first look. -/
def start (ready : Bool) : State :=
  { ready := ready
    events := ready.toNat
    triggered := true
    registered := false
    woken := false
    task := .idle
    loop := .watching }

/-- A socket that is ready already has nothing to report. -/
def arrive (state : State) : State :=
  if state.ready then state
  else { state with ready := true, events := state.events + 1 }

def stepLoop (state : State) : State :=
  match state.loop with
  | .watching =>
      match state.events with
      | 0 => state
      | events + 1 =>
          { state with
            events := events, registered := false, loop :=
              .marking state.registered }
  | .marking waker =>
      { state with
        triggered := true, loop := if waker then .waking else .watching }
  | .waking => { state with woken := true, loop := .watching }

/-- The loop holds the lock of the place for the waker. -/
def isLocked (state : State) : Bool :=
  match state.loop with
  | .marking _ => true
  | _ => false

def stepTask (state : State) (drains : Bool) : State :=
  match state.task with
  | .idle => { state with task := .check }
  | .check =>
      { state with task := if state.triggered then .transfer else .register }
  | .register =>
      if state.isLocked then state
      else { state with registered := true, task := .recheck }
  | .recheck =>
      { state with task := if state.triggered then .transfer else .pending }
  | .transfer =>
      if state.ready then { state with ready := !drains, task := .idle }
      else { state with task := .clear }
  | .clear => { state with triggered := false, task := .check }
  | .pending =>
      if state.woken then { state with woken := false, task := .check }
      else state

def step (state : State) : Move → State
  | .arrive => state.arrive
  | .loop => state.stepLoop
  | .task drains => state.stepTask drains

def run (state : State) (moves : List Move) : State := moves.foldl step state

/-- The task waits for a socket that is ready, and nothing is on the way to tell
it. -/
def isForgotten (state : State) : Bool :=
  state.task == .pending && state.ready && !state.woken && state.events == 0 &&
    state.loop == .watching

end State

end HttpEngine.Readiness
