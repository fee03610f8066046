/-!
# Worker pools

A pool keeps a queue of tasks and a limited number of workers.  A worker runs
queued tasks until none is left, then waits to be woken and goes after a while.
Everything but the running of a task happens under the lock of the pool, so a
run of the pool is a list of moves, each of which is one such step: which worker
is reached by a wake-up and when a wait ends is up to the move.
-/

namespace HttpEngine.WorkerPool

/-! ## Workers -/

inductive Phase (τ : Type) where
  /-- About to look into the queue. -/
  | looking
  | running (task : τ)
  /-- Waiting; a woken worker has been reached by a wake-up and has not gone on
  yet. -/
  | waiting (woken : Bool)
  | gone
  deriving DecidableEq, Repr

namespace Phase

variable {τ : Type}

def isWaiting : Phase τ → Bool
  | .waiting _ => true
  | _ => false

/-- A wake-up can reach the worker. -/
def isAsleep : Phase τ → Bool
  | .waiting woken => !woken
  | _ => false

/-- The worker will look into the queue without another wake-up. -/
def isActive : Phase τ → Bool
  | .looking | .running _ | .waiting true => true
  | .waiting false | .gone => false

end Phase

/-! ## States -/

structure State (τ : Type) where
  /-- The most workers that the pool counts. -/
  limit : Nat
  queue : List τ
  /-- The workers that the pool counts. -/
  workers : Int
  /-- The workers that it counts as waiting. -/
  idle : Int
  /-- The wake-ups that no worker has taken yet. -/
  notified : Int
  phases : List (Phase τ)
  deriving DecidableEq, Repr

inductive Move (τ : Type) where
  /-- Queues a task; the position is that of the worker which a wake-up reaches
  if it can. -/
  | spawn (task : τ) (sleeper : Nat)
  | look (worker : Nat)
  | finish (worker : Nat)
  /-- The task of a worker panics and takes the worker with it. -/
  | panic (worker : Nat)
  /-- A wait ends: by a wake-up, by itself, or because its time is over. -/
  | resume (worker : Nat) (timedOut : Bool)
  deriving DecidableEq, Repr

namespace State

variable {τ : Type}

/-- A pool has room for at least one worker, whatever the limit asked for. -/
def start (limit : Nat) : State τ := ⟨max limit 1, [], 0, 0, 0, []⟩

def setPhase (state : State τ) (worker : Nat) (phase : Phase τ) : State τ :=
  { state with phases := state.phases.set worker phase }

/-- Wakes the preferred worker if it is asleep, and else the first one
that is. -/
def wake (state : State τ) (sleeper : Nat) : State τ :=
  let prefers := (state.phases[sleeper]?.map Phase.isAsleep).getD false
  let reached? :=
    if prefers then some sleeper else state.phases.findIdx? Phase.isAsleep
  match reached? with
  | some worker => state.setPhase worker (.waiting true)
  | none => state

/-- Queues a task and wakes a worker, or starts one if none waits and there is
room. -/
def spawn (state : State τ) (task : τ) (sleeper : Nat) : State τ :=
  let state := { state with queue := state.queue ++ [task] }
  if state.idle = 0 ∧ state.workers < state.limit then
    { state with
      workers := state.workers + 1, phases := state.phases ++ [.looking] }
  else if 0 < state.idle then
    wake { state with
      idle := state.idle - 1, notified := state.notified + 1 } sleeper
  else state

/-- A worker takes the next task, or starts to wait. -/
def look (state : State τ) (worker : Nat) : State τ :=
  match state.queue with
  | task :: queue =>
      { state with queue := queue }.setPhase worker (.running task)
  | [] => { state with idle := state.idle + 1 }.setPhase worker (.waiting false)

/-- A worker whose wait has ended takes a wake-up if there is one, whosever it
is. -/
def resume (state : State τ) (worker : Nat) (timedOut : Bool) : State τ :=
  if state.notified ≠ 0 then
    { state with notified := state.notified - 1 }.look worker
  else if timedOut then
    { state with workers := state.workers - 1, idle := state.idle - 1 }.setPhase
      worker .gone
  else state.setPhase worker (.waiting false)

/-- One move; a move of a worker that is not in the phase for it
does nothing. -/
def step (state : State τ) : Move τ → State τ
  | .spawn task sleeper => state.spawn task sleeper
  | .look worker =>
      match state.phases[worker]? with
      | some .looking => state.look worker
      | _ => state
  | .finish worker =>
      match state.phases[worker]? with
      | some (.running _) => state.setPhase worker .looking
      | _ => state
  | .panic worker =>
      match state.phases[worker]? with
      | some (.running _) => state.setPhase worker .gone
      | _ => state
  | .resume worker timedOut =>
      match state.phases[worker]? with
      | some (.waiting _) => state.resume worker timedOut
      | _ => state

def run (state : State τ) (moves : List (Move τ)) : State τ :=
  moves.foldl step state

/-! ## What a pool has to keep -/

/-- The workers inside a wait, woken ones included. -/
def waitingCount (state : State τ) : Nat := state.phases.countP Phase.isWaiting

/-- There is work in the queue that no worker is going to look at. -/
def isStranded (state : State τ) : Bool :=
  !state.queue.isEmpty && !state.phases.any Phase.isActive

end State

end HttpEngine.WorkerPool
