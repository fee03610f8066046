import HttpEngine.Event.Dispatcher
import HttpEngine.Proofs.Sequence.Position

/-!
# What the threads of a dispatcher do

A thread is between two calls of `dispatch`, at some place within a call, or is
a worker at some place of its batch; `Shaped` lists these.  A step changes one
thread and, when a worker is started, adds another one.
-/

namespace HttpEngine.Dispatch

/-! ## Shapes -/

/-- Between two calls: what is left are whole calls, then the rest of a batch if
there is one. -/
inductive Resting : Thread → Prop
  | over : Resting []
  | batch (left : Nat) : Resting [.take left]
  | failing (message : String) (left : Nat) :
      Resting [.fail message, .take left]
  | call (task : Task) {rest : Thread} (hresting : Resting rest) :
      Resting (.enqueue task :: .increment :: .load :: .acquire :: rest)

inductive Shaped : Thread → Prop
  | resting {thread : Thread} (hresting : Resting thread) : Shaped thread
  | counting {rest : Thread} (hresting : Resting rest) :
      Shaped (.increment :: .load :: .acquire :: rest)
  | looking {rest : Thread} (hresting : Resting rest) :
      Shaped (.load :: .acquire :: rest)
  | claiming {rest : Thread} (hresting : Resting rest) :
      Shaped (.acquire :: rest)
  | taking (task : Task) (left : Nat) :
      Shaped [.decrement, .run task, .take left]
  | starting (task : Task) (left : Nat) : Shaped [.run task, .take left]
  | leaving : Shaped [.release, .load, .acquire]

theorem dispatchAll_cons (task : Task) (tasks : List Task) (rest : Thread) :
    dispatchAll (task :: tasks) ++ rest =
      .enqueue task :: .increment :: .load :: .acquire ::
        (dispatchAll tasks ++ rest) := rfl

theorem Resting.dispatchAll_append {rest : Thread} (hresting : Resting rest)
    (tasks : List Task) :
    Resting (dispatchAll tasks ++ rest) := by
  induction tasks with
  | nil => exact hresting
  | cons task tasks ih =>
      rw [dispatchAll_cons]
      exact .call task ih

theorem shaped_dispatchAll (tasks : List Task) :
    Shaped (dispatchAll tasks) := by
  have hresting := Resting.over.dispatchAll_append tasks
  rw [List.append_nil] at hresting
  exact .resting hresting

/-! ## What a thread has in hand -/

/-- A worker that has won the claim and has not released it. -/
def holdsClaim (thread : Thread) : Bool :=
  thread.any fun
    | .take _ | .release => true
    | _ => false

/-- A task was enqueued and is not counted yet. -/
def isUncounted : Thread → Bool
  | .increment :: _ => true
  | _ => false

/-- A task was taken and is still counted. -/
def isOwing : Thread → Bool
  | .decrement :: _ => true
  | _ => false

/-- About to look for work. -/
def isAlert : Thread → Bool
  | .load :: _ | .acquire :: _ => true
  | _ => false

/-- The task that was taken and has not begun. -/
def inHand : Thread → List Task
  | .decrement :: .run task :: _ => [task]
  | .run task :: _ => [task]
  | _ => []

theorem length_inHand_le (thread : Thread) : (inHand thread).length ≤ 1 := by
  unfold inHand
  split <;> simp

theorem Resting.idle {thread : Thread} (hresting : Resting thread) :
    isUncounted thread = false ∧ isOwing thread = false ∧
      inHand thread = [] := by
  cases hresting <;> exact ⟨rfl, rfl, rfl⟩

theorem holdsClaim_dispatchAll_append (tasks : List Task) (rest : Thread) :
    holdsClaim (dispatchAll tasks ++ rest) = holdsClaim rest := by
  induction tasks with
  | nil => rfl
  | cons task tasks ih =>
      rw [dispatchAll_cons]
      exact ih

/-- A thread that is between two calls outside of a batch. -/
def IsBetweenCalls (thread : Thread) : Prop :=
  ∃ tasks, thread = dispatchAll tasks

theorem IsBetweenCalls.idle {thread : Thread}
    (hbetween : IsBetweenCalls thread) :
    holdsClaim thread = false ∧ isUncounted thread = false ∧
      isOwing thread = false ∧ isAlert thread = false ∧ inHand thread = [] := by
  obtain ⟨tasks, rfl⟩ := hbetween
  have hunclaimed := holdsClaim_dispatchAll_append tasks []
  rw [List.append_nil] at hunclaimed
  refine ⟨hunclaimed, ?_⟩
  cases tasks with
  | nil => exact ⟨rfl, rfl, rfl, rfl⟩
  | cons task tasks => exact ⟨rfl, rfl, rfl, rfl⟩

/-- Who has a task in hand holds the claim. -/
theorem Shaped.inHand_eq_nil {thread : Thread} (hshaped : Shaped thread)
    (hunclaimed : holdsClaim thread = false) : inHand thread = [] := by
  cases hshaped with
  | resting hresting => exact hresting.idle.2.2
  | taking task left => contradiction
  | starting task left => contradiction
  | _ => rfl

/-! ## Steps -/

namespace State

variable {state : State}

/-- The instruction that a thread performs next. -/
def next? (state : State) (index : Nat) : Option Instruction :=
  (state.threads[index]?).bind List.head?

/-- The worker that an instruction starts. -/
def started (state : State) : Instruction → List Thread
  | .acquire => if state.running then [] else [worker]
  | _ => []

theorem threads_perform (state : State) (rest : Thread)
    (instruction : Instruction) :
    (state.perform rest instruction).2.threads =
      state.threads ++ state.started instruction := by
  cases instruction with
  | acquire =>
      cases hrunning : state.running <;> simp [perform, started, hrunning]
  | take left =>
      cases left with
      | zero => simp [perform, started]
      | succ left =>
          cases hqueue : state.queue <;> simp [perform, started, hqueue]
  | run task => cases task <;> simp [perform, started]
  | _ => simp [perform, started]

/-- All that a step can do. -/
inductive Stepped (state : State) : Option Instruction → State → Prop
  | nothing : Stepped state none state
  | performed (before after : List Thread) (instruction : Instruction)
      (rest : Thread)
      (hthreads : state.threads = before ++ (instruction :: rest) :: after) :
      Stepped state (some instruction)
        { (state.perform rest instruction).2 with
          threads := before ++ (state.perform rest instruction).1 ::
            (after ++ state.started instruction) }

theorem stepped_step (state : State) (index : Nat) :
    state.Stepped (state.next? index) (state.step index) := by
  unfold next? step
  split
  · next instruction rest hfound =>
      obtain ⟨before, after, hthreads, hreplaced⟩ :=
        Sequence.exists_around_getElem? hfound
      have hacted := Stepped.performed before after instruction rest hthreads
      rw [hfound]
      simp only [threads_perform, hreplaced]
      exact hacted
  · next hsilent =>
      rw [Sequence.bind_head?_eq_none hsilent]
      exact .nothing

/-- The instructions that a schedule has performed, in order. -/
def performed (state : State) : List Nat → List Instruction
  | [] => []
  | index :: rest =>
      (state.next? index).toList ++ (state.step index).performed rest

theorem performed_snoc (state : State) (steps : List Nat) (index : Nat) :
    state.performed (steps ++ [index]) =
      state.performed steps ++
        ((state.runSchedule steps).next? index).toList := by
  induction steps generalizing state with
  | nil => simp [performed, runSchedule]
  | cons first steps ih => simp [performed, ih, runSchedule, List.append_assoc]

theorem runSchedule_snoc (state : State) (steps : List Nat) (index : Nat) :
    state.runSchedule (steps ++ [index]) =
      (state.runSchedule steps).step index :=
  List.foldl_append

end State

end HttpEngine.Dispatch
