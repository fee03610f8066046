/-!
# Dispatching tasks in order

Any number of parties enqueue tasks at the same time; at most one worker runs
them, in batches, in the order in which they were enqueued.  The parties and
workers are threads of instructions, each of which is one atomic step on the
shared state, and a schedule says which thread steps next.
-/

namespace HttpEngine.Dispatch

/-! ## Tasks and instructions -/

/-- A task leaves a note and dispatches more tasks, or panics, or does the one
and then the other. -/
inductive Task where
  | work (label : String) (next : List Task)
  | panic (message : String)
  | breakdown (label : String) (next : List Task) (message : String)
  deriving Repr, Inhabited

inductive Instruction where
  | enqueue (task : Task)
  /-- Counts a task that was enqueued. -/
  | increment
  /-- Goes on only if a task is counted. -/
  | load
  /-- Starts a worker unless one is running. -/
  | acquire
  /-- Takes the next task, or ends the batch when none is left or the batch is
  full. -/
  | take (left : Nat)
  /-- Counts a task that was taken. -/
  | decrement
  | run (task : Task)
  /-- The running task panics, which ends the task and nothing else. -/
  | fail (message : String)
  /-- The worker is no longer running. -/
  | release
  deriving Repr

abbrev Thread : Type := List Instruction

/-- Tasks that a worker runs before it lets go. -/
def batchSize : Nat := 25

def schedule : Thread := [.load, .acquire]

def dispatch (task : Task) : Thread := .enqueue task :: .increment :: schedule

def dispatchAll (tasks : List Task) : Thread := tasks.flatMap dispatch

def worker : Thread := [.take batchSize]

/-! ## Steps -/

structure State where
  queue : List Task
  pending : Int
  running : Bool
  threads : List Thread
  /-- The labels of the tasks that have run, in order. -/
  notes : List String
  /-- The messages of the tasks that have panicked. -/
  panics : List String
  deriving Repr

namespace State

def start (threads : List Thread) : State := ⟨[], 0, false, threads, [], []⟩

/-- One instruction of a thread: the rest of that thread, and the state without
it. -/
def perform (state : State) (rest : Thread) : Instruction → Thread × State
  | .enqueue task => (rest, { state with queue := state.queue ++ [task] })
  | .increment => (rest, { state with pending := state.pending + 1 })
  | .load => (if state.pending ≤ 0 then rest.drop 1 else rest, state)
  | .acquire =>
      if state.running then (rest, state)
      else (rest,
        { state with running := true, threads := state.threads ++ [worker] })
  | .take left =>
      match left, state.queue with
      | left + 1, task :: queue =>
          (.decrement :: .run task :: .take left :: rest,
            { state with queue := queue })
      | _, _ => (.release :: schedule ++ rest, state)
  | .decrement => (rest, { state with pending := state.pending - 1 })
  | .run (.work label next) =>
      (dispatchAll next ++ rest, { state with notes := state.notes ++ [label] })
  | .run (.panic message) =>
      (rest, { state with panics := state.panics ++ [message] })
  | .run (.breakdown label next message) =>
      (dispatchAll next ++ .fail message :: rest,
        { state with notes := state.notes ++ [label] })
  | .fail message => (rest, { state with panics := state.panics ++ [message] })
  | .release => (rest, { state with running := false })

/-- The next step of the thread at a position; a thread that is over or missing
does nothing. -/
def step (state : State) (index : Nat) : State :=
  match state.threads[index]? with
  | some (instruction :: rest) =>
      let (thread, next) := state.perform rest instruction
      { next with threads := next.threads.set index thread }
  | _ => state

def runSchedule (state : State) (steps : List Nat) : State :=
  steps.foldl step state

def isSettled (state : State) : Bool := state.threads.all List.isEmpty

/-- Steps the first thread that is not over, at most `fuel` times. -/
def settle : Nat → State → State
  | 0, state => state
  | fuel + 1, state =>
      match state.threads.findIdx? (!·.isEmpty) with
      | none => state
      | some index => settle fuel (state.step index)

def describe (state : State) : String :=
  "Dispatcher \x7b pending: " ++ toString state.pending ++ " \x7d"

end State

/-! ## Running all tasks -/

mutual

/-- The number of tasks that a task stands for. -/
def Task.weight : Task → Nat
  | .work _ next => 1 + weightAll next
  | .panic _ => 1
  | .breakdown _ next _ => 1 + weightAll next

def weightAll : List Task → Nat
  | [] => 0
  | task :: rest => task.weight + weightAll rest

end

/-- Dispatches tasks from one thread and lets everything run. -/
def runAll (tasks : List Task) : State :=
  .settle (16 * weightAll tasks + 16) (.start [dispatchAll tasks])

end HttpEngine.Dispatch
