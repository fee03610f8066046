import HttpEngine.Proofs.Dispatch.Threads
import Mathlib.Data.List.Induction

/-!
# Tasks run one at a time and in order

However the steps of callers and workers fall between each other, one worker at
most holds the claim, tasks begin in the order in which they were enqueued, and
no task is left in the queue once nobody is at work.
-/

namespace HttpEngine.Dispatch

/-! ## What has happened -/

def Instruction.enqueued? : Instruction → Option Task
  | .enqueue task => some task
  | _ => none

def Instruction.begun? : Instruction → Option Task
  | .run task => some task
  | _ => none

def Task.label? : Task → Option String
  | .work label _ | .breakdown label _ _ => some label
  | .panic _ => none

/-- The tasks that were enqueued, in order. -/
def enqueued (done : List Instruction) : List Task :=
  done.filterMap Instruction.enqueued?

/-- The tasks that a worker began to run, in order. -/
def begun (done : List Instruction) : List Task :=
  done.filterMap Instruction.begun?

@[simp] theorem enqueued_snoc (done : List Instruction)
    (instruction : Instruction) :
    enqueued (done ++ [instruction]) =
      enqueued done ++ instruction.enqueued?.toList := by
  rw [enqueued, List.filterMap_append]
  cases hfound : instruction.enqueued? <;> simp [enqueued, hfound]

@[simp] theorem begun_snoc (done : List Instruction)
    (instruction : Instruction) :
    begun (done ++ [instruction]) =
      begun done ++ instruction.begun?.toList := by
  rw [begun, List.filterMap_append]
  cases hfound : instruction.begun? <;> simp [begun, hfound]

/-! ## The invariant -/

/-- The tasks that were taken and have not begun. -/
def handsOf (threads : List Thread) : List Task := threads.flatMap inHand

/-- Only a worker that holds the claim has a task in hand. -/
theorem length_handsOf_le {threads : List Thread}
    (hshaped : ∀ thread ∈ threads, Shaped thread) :
    (handsOf threads).length ≤ threads.countP holdsClaim := by
  induction threads with
  | nil => exact Nat.le_refl 0
  | cons thread threads ih =>
      rw [List.forall_mem_cons] at hshaped
      have hothers := ih hshaped.2
      have hown :
          (inHand thread).length ≤ if holdsClaim thread then 1 else 0 := by
        cases hholds : holdsClaim thread with
        | false => simp [hshaped.1.inHand_eq_nil hholds]
        | true => exact length_inHand_le thread
      simp only [handsOf, List.flatMap_cons, List.length_append,
        List.countP_cons] at hothers ⊢
      omega

structure Sound (done : List Instruction) (state : State) : Prop where
  shaped : ∀ thread ∈ state.threads, Shaped thread
  claim : state.threads.countP holdsClaim = if state.running then 1 else 0
  /-- The counter lags behind the queue by the tasks that are not counted yet,
  and is ahead of it by those that were taken. -/
  balance : state.pending + state.threads.countP isUncounted =
    state.queue.length + state.threads.countP isOwing
  /-- Where no worker is at work, somebody is about to look for the tasks that
  are counted. -/
  alert : state.running = false → 0 < state.pending →
    ∃ thread ∈ state.threads, isAlert thread = true
  inOrder : begun done ++ handsOf state.threads ++ state.queue = enqueued done
  notes : state.notes = (begun done).filterMap Task.label?

/-! ### What one thread does -/

/-- What a thread sees to when it performs an instruction, so that all stays
sound. -/
structure Turn (state : State) (instruction : Instruction)
    (rest thread : Thread) (next : State) : Prop where
  shaped : Shaped thread
  claim :
    (if holdsClaim thread then 1 else 0) + (state.started instruction).length +
      (if state.running then 1 else 0) =
    (if holdsClaim (instruction :: rest) then 1 else 0) +
      if next.running then 1 else 0
  balance : next.pending + (if isUncounted thread then 1 else 0 : Nat) +
      (state.queue.length +
        (if isOwing (instruction :: rest) then 1 else 0) : Nat) =
    state.pending + (if isUncounted (instruction :: rest) then 1 else 0 : Nat) +
      (next.queue.length + (if isOwing thread then 1 else 0) : Nat)
  alert : next.running = false → 0 < next.pending → isAlert thread = true ∨
    state.running = false ∧ 0 < state.pending ∧
    isAlert (instruction :: rest) = false
  inOrder :
    (instruction.begun? = none ∧ inHand thread = inHand (instruction :: rest) ∧
      next.queue = state.queue ++ instruction.enqueued?.toList) ∨
    (holdsClaim (instruction :: rest) = true ∧
      instruction.begun?.toList ++ inHand thread ++ next.queue =
        inHand (instruction :: rest) ++ state.queue ++
          instruction.enqueued?.toList)
  notes :
    next.notes = state.notes ++ instruction.begun?.toList.filterMap Task.label?

namespace Turn

variable {state : State} {rest : Thread}

theorem call (task : Task) (hresting : Resting rest) :
    Turn state (.enqueue task) (.increment :: .load :: .acquire :: rest)
      (.increment :: .load :: .acquire :: rest) { state with
        queue := state.queue ++ [task] } where
  shaped := .counting hresting
  claim := by simp [State.started, holdsClaim]
  balance := by simp [isUncounted, isOwing]; omega
  alert hreleased hcounted := .inr ⟨hreleased, hcounted, rfl⟩
  inOrder := .inl ⟨rfl, rfl, rfl⟩
  notes := by simp [Instruction.begun?]

theorem increment (hresting : Resting rest) :
    Turn state .increment (.load :: .acquire :: rest)
      (.load :: .acquire :: rest)
      { state with pending := state.pending + 1 } where
  shaped := .looking hresting
  claim := by simp [State.started, holdsClaim]
  balance := by simp [isUncounted, isOwing]
  alert _ _ := .inl rfl
  inOrder := .inl ⟨rfl, rfl, by simp [Instruction.enqueued?]⟩
  notes := by simp [Instruction.begun?]

/-- The call ends here unless a task is counted. -/
theorem load (hresting : Resting rest) : Turn state .load (.acquire :: rest)
    (if state.pending ≤ 0 then rest else .acquire :: rest) state := by
  obtain ⟨huncounted, howing, hhand⟩ := hresting.idle
  split
  · next hnone =>
      exact {
        shaped := .resting hresting
        claim := by simp [State.started, holdsClaim]
        balance := by rw [huncounted, howing]; simp [isUncounted, isOwing]
        alert := fun _ hcounted => absurd hcounted (by omega)
        inOrder := .inl ⟨rfl, hhand, by simp [Instruction.enqueued?]⟩
        notes := by simp [Instruction.begun?]
      }
  · exact {
      shaped := .claiming hresting
      claim := by simp [State.started, holdsClaim]
      balance := by simp [isUncounted, isOwing]
      alert := fun _ _ => .inl rfl
      inOrder := .inl ⟨rfl, rfl, by simp [Instruction.enqueued?]⟩
      notes := by simp [Instruction.begun?]
    }

theorem acquire (hresting : Resting rest) (threads : List Thread) :
    Turn state .acquire rest rest { state with
      running := true, threads := threads } := by
  obtain ⟨huncounted, howing, hhand⟩ := hresting.idle
  exact {
    shaped := .resting hresting
    claim := by
      cases hrunning :
        state.running <;> simp [State.started, holdsClaim, hrunning]
    balance := by rw [huncounted, howing]; simp [isUncounted, isOwing]
    alert := nofun
    inOrder := .inl ⟨rfl, hhand, by simp [Instruction.enqueued?]⟩
    notes := by simp [Instruction.begun?]
  }

theorem take_end (left : Nat) (hrunning : state.running = true) :
    Turn state (.take left) [] [.release, .load, .acquire] state where
  shaped := .leaving
  claim := by simp [State.started, holdsClaim]
  balance := by simp [isUncounted, isOwing]
  alert hreleased := by simp [hrunning] at hreleased
  inOrder := .inl ⟨rfl, rfl, by simp [Instruction.enqueued?]⟩
  notes := by simp [Instruction.begun?]

theorem take_next {task : Task} {tasks : List Task} (left : Nat)
    (hrunning : state.running = true) (hqueue : state.queue = task :: tasks) :
    Turn state (.take (left + 1)) [] [.decrement, .run task, .take left]
      { state with queue := tasks } where
  shaped := .taking task left
  claim := by simp [State.started, holdsClaim]
  balance := by simp [isUncounted, isOwing, hqueue]
  alert hreleased := by simp [hrunning] at hreleased
  inOrder :=
    .inr ⟨rfl,
      by simp [Instruction.begun?, Instruction.enqueued?, inHand, hqueue]⟩
  notes := by simp [Instruction.begun?]

theorem decrement (task : Task) (left : Nat) (hrunning : state.running = true) :
    Turn state .decrement [.run task, .take left] [.run task, .take left]
      { state with pending := state.pending - 1 } where
  shaped := .starting task left
  claim := by simp [State.started, holdsClaim]
  balance := by
    simp only [isUncounted, isOwing, Bool.false_eq_true, if_false, if_true]
    omega
  alert hreleased := by simp [hrunning] at hreleased
  inOrder := .inl ⟨rfl, rfl, by simp [Instruction.enqueued?]⟩
  notes := by simp [Instruction.begun?]

/-- A task begins; it goes on with the calls of its own, if there are any. -/
theorem run {thread : Thread} {notes : List String} (task : Task) (left : Nat)
    (panics : List String) (hrunning : state.running = true)
    (hresting : Resting thread) (hholds : holdsClaim thread = true)
    (hnoted : notes = state.notes ++ task.label?.toList) :
    Turn state (.run task) [.take left] thread
      { state with notes := notes, panics := panics } := by
  obtain ⟨huncounted, howing, hhand⟩ := hresting.idle
  exact {
    shaped := .resting hresting
    claim := by rw [hholds]; simp [State.started, holdsClaim]
    balance := by rw [huncounted, howing]; simp [isUncounted, isOwing]
    alert := fun hreleased => by simp [hrunning] at hreleased
    inOrder :=
      .inr ⟨rfl,
        by rw [hhand]; simp [Instruction.begun?, Instruction.enqueued?, inHand]⟩
    notes := by
      cases hlabel : task.label? <;> simp [Instruction.begun?, hnoted, hlabel]
  }

theorem fail (message : String) (left : Nat) (hrunning : state.running = true) :
    Turn state (.fail message) [.take left] [.take left]
      { state with panics := state.panics ++ [message] } where
  shaped := .resting (.batch left)
  claim := by simp [State.started, holdsClaim]
  balance := by simp [isUncounted, isOwing]
  alert hreleased := by simp [hrunning] at hreleased
  inOrder := .inl ⟨rfl, rfl, by simp [Instruction.enqueued?]⟩
  notes := by simp [Instruction.begun?]

theorem release (hrunning : state.running = true) :
    Turn state .release [.load, .acquire] [.load, .acquire]
      { state with running := false } where
  shaped := .looking .over
  claim := by simp [State.started, holdsClaim, hrunning]
  balance := by simp [isUncounted, isOwing]
  alert _ _ := .inl rfl
  inOrder := .inl ⟨rfl, rfl, by simp [Instruction.enqueued?]⟩
  notes := by simp [Instruction.begun?]

end Turn

theorem Shaped.turn {state : State} {instruction : Instruction} {rest : Thread}
    (hshaped : Shaped (instruction :: rest))
    (hclaimed : holdsClaim (instruction :: rest) = true →
      state.running = true) :
    Turn state instruction rest (state.perform rest instruction).1
      (state.perform rest instruction).2 := by
  cases hshaped with
  | resting hresting =>
      cases hresting with
      | batch left =>
          cases left with
          | zero => exact .take_end 0 (hclaimed rfl)
          | succ left =>
              cases hqueue : state.queue with
              | nil =>
                  have hended : state.perform [] (.take (left + 1)) =
                      ([.release, .load, .acquire], state) := by
                    simp [State.perform, hqueue, schedule]
                  rw [hended]
                  exact .take_end (left + 1) (hclaimed rfl)
              | cons task tasks =>
                  have htaken : state.perform [] (.take (left + 1)) =
                      ([.decrement, .run task, .take left],
                        { state with queue := tasks }) := by
                    simp [State.perform, hqueue]
                  rw [htaken]
                  exact .take_next left (hclaimed rfl) hqueue
      | failing message left => exact .fail message left (hclaimed rfl)
      | call task hresting => exact .call task hresting
  | counting hresting => exact .increment hresting
  | looking hresting => exact .load hresting
  | claiming hresting =>
      cases hrunning : state.running with
      | true =>
          have hkept :
              state.perform rest .acquire =
                (rest, { state with running := true }) := by
            simp [State.perform, ← hrunning]
          rw [hkept]
          exact .acquire hresting state.threads
      | false =>
          have hwon : state.perform rest .acquire =
              (rest, { state with
                running := true, threads := state.threads ++ [worker] }) := by
            simp [State.perform, hrunning]
          rw [hwon]
          exact .acquire hresting (state.threads ++ [worker])
  | taking task left => exact .decrement task left (hclaimed rfl)
  | starting task left =>
      have hrunning := hclaimed rfl
      cases task with
      | work label next =>
          refine .run _ left state.panics hrunning ?_ ?_ rfl
          · exact (Resting.batch left).dispatchAll_append next
          · exact holdsClaim_dispatchAll_append next _
      | panic message =>
          exact .run _ left _ hrunning (.batch left) rfl
            (List.append_nil _).symm
      | breakdown label next message =>
          refine .run _ left state.panics hrunning ?_ ?_ rfl
          · exact (Resting.failing message left).dispatchAll_append next
          · exact holdsClaim_dispatchAll_append next _
  | leaving => exact .release (hclaimed rfl)

namespace Sound

variable {done : List Instruction} {state : State} {before after : List Thread}
  {rest : Thread} {instruction : Instruction}

theorem start (parties : List (List Task)) :
    Sound [] (.start (parties.map dispatchAll)) := by
  have hbetween :
      ∀ thread ∈ parties.map dispatchAll, IsBetweenCalls thread := by
    intro thread hamong
    obtain ⟨tasks, -, rfl⟩ := List.mem_map.1 hamong
    exact ⟨tasks, rfl⟩
  have hnone (holds : Thread → Bool)
      (hidle : ∀ thread, IsBetweenCalls thread → holds thread = false) :
      (parties.map dispatchAll).countP holds = 0 :=
    List.countP_eq_zero.2 fun thread hamong => by
      simp [hidle thread (hbetween thread hamong)]
  constructor
  case shaped =>
    intro thread hamong
    obtain ⟨tasks, rfl⟩ := hbetween thread hamong
    exact shaped_dispatchAll tasks
  case claim => exact hnone holdsClaim fun thread hidle => hidle.idle.1
  case balance =>
    have huncounted := hnone isUncounted fun thread hidle => hidle.idle.2.1
    have howing := hnone isOwing fun thread hidle => hidle.idle.2.2.1
    simp [State.start, huncounted, howing]
  case alert => intro _ hcounted; exact absurd hcounted (by simp [State.start])
  case inOrder =>
    have hhands : handsOf (parties.map dispatchAll) = [] :=
      List.flatMap_eq_nil_iff.2 fun thread hamong =>
        (hbetween thread hamong).idle.2.2.2.2
    simp [State.start, hhands, begun, enqueued]
  case notes => rfl

variable (hsound : Sound done state)
  (hthreads : state.threads = before ++ (instruction :: rest) :: after)
include hsound hthreads

theorem shaped_others : ∀ thread ∈ before ++ after, Shaped thread := by
  intro thread hamong
  apply hsound.shaped
  rw [hthreads]
  simp only [List.mem_append, List.mem_cons] at hamong ⊢
  tauto

theorem claim_others :
    before.countP holdsClaim + after.countP holdsClaim +
      (if holdsClaim (instruction :: rest) then 1 else 0) =
        if state.running then 1 else 0 := by
  have hclaim := hsound.claim
  rw [hthreads, List.countP_append, List.countP_cons] at hclaim
  omega

theorem running_of_holdsClaim
    (hholds : holdsClaim (instruction :: rest) = true) :
    state.running = true ∧ before.countP holdsClaim = 0 ∧
      after.countP holdsClaim = 0 := by
  have hclaim := hsound.claim_others hthreads
  rw [if_pos hholds] at hclaim
  cases hrunning : state.running with
  | true =>
      rw [hrunning, if_pos rfl] at hclaim
      exact ⟨rfl, by omega, by omega⟩
  | false => simp [hrunning] at hclaim

/-- While a worker holds the claim, nobody else has a task in hand. -/
theorem hands_others (hholds : holdsClaim (instruction :: rest) = true) :
    handsOf before = [] ∧ handsOf after = [] := by
  obtain ⟨-, hfirst, hsecond⟩ := hsound.running_of_holdsClaim hthreads hholds
  have hothers := hsound.shaped_others hthreads
  simp only [handsOf, List.flatMap_eq_nil_iff]
  constructor
  · intro thread hamong
    refine (hothers thread (List.mem_append_left _ hamong)).inHand_eq_nil ?_
    simpa using List.countP_eq_zero.1 hfirst thread hamong
  · intro thread hamong
    refine (hothers thread (List.mem_append_right _ hamong)).inHand_eq_nil ?_
    simpa using List.countP_eq_zero.1 hsecond thread hamong

theorem turn : Turn state instruction rest (state.perform rest instruction).1
    (state.perform rest instruction).2 := by
  have hshaped : Shaped (instruction :: rest) :=
    hsound.shaped _ (by rw [hthreads]; simp)
  exact hshaped.turn fun hholds =>
    (hsound.running_of_holdsClaim hthreads hholds).1

theorem perform : Sound (done ++ [instruction])
    { (state.perform rest instruction).2 with
      threads := before ++ (state.perform rest instruction).1 ::
        (after ++ state.started instruction) } := by
  have hturn := hsound.turn hthreads
  have hnewcomers : state.started instruction = [] ∨
      state.started instruction = [worker] := by
    cases instruction with
    | acquire =>
        cases hrunning : state.running <;> simp [State.started, hrunning]
    | _ => exact .inl rfl
  generalize (state.perform rest instruction).1 = thread at hturn ⊢
  generalize (state.perform rest instruction).2 = next at hturn ⊢
  constructor
  case shaped =>
    intro other hamong
    simp only [List.mem_append, List.mem_cons] at hamong
    rcases hamong with hearly | rfl | hlate | hnew
    · exact hsound.shaped_others hthreads other (List.mem_append_left _ hearly)
    · exact hturn.shaped
    · exact hsound.shaped_others hthreads other (List.mem_append_right _ hlate)
    · rcases hnewcomers with hnone | hone
      · simp [hnone] at hnew
      · obtain rfl : other = worker := by simpa [hone] using hnew
        exact .resting (.batch batchSize)
  case claim =>
    have hothers := hsound.claim_others hthreads
    have hturned := hturn.claim
    have hcounted : (state.started instruction).countP holdsClaim =
        (state.started instruction).length := by
      rcases hnewcomers with hnone | hone
      · rw [hnone]; rfl
      · rw [hone]; rfl
    simp only [List.countP_append, List.countP_cons, hcounted]
    omega
  case balance =>
    have hbalance := hsound.balance
    have hturned := hturn.balance
    have hquiet : (state.started instruction).countP isUncounted = 0 ∧
        (state.started instruction).countP isOwing = 0 := by
      rcases hnewcomers with hnone | hone
      · rw [hnone]; exact ⟨rfl, rfl⟩
      · rw [hone]; exact ⟨rfl, rfl⟩
    rw [hthreads] at hbalance
    simp only [List.countP_append, List.countP_cons, hquiet] at hbalance ⊢
    omega
  case alert =>
    intro hreleased hcounted
    rcases hturn.alert hreleased hcounted with
      halert | ⟨hunclaimed, hpending, hdull⟩
    · exact ⟨thread, by simp, halert⟩
    · obtain ⟨other, hamong, halert⟩ := hsound.alert hunclaimed hpending
      rw [hthreads, List.mem_append, List.mem_cons] at hamong
      rcases hamong with hearly | rfl | hlate
      · exact ⟨other, by simp [hearly], halert⟩
      · rw [hdull] at halert
        contradiction
      · exact ⟨other, by simp [hlate], halert⟩
  case inOrder =>
    have hinOrder := hsound.inOrder
    have hhandless : handsOf (state.started instruction) = [] := by
      rcases hnewcomers with hnone | hone
      · rw [hnone]; rfl
      · rw [hone]; rfl
    rw [hthreads] at hinOrder
    simp only [handsOf, List.flatMap_append, List.flatMap_cons]
      at hinOrder hhandless ⊢
    rw [begun_snoc, enqueued_snoc, ← hinOrder, hhandless]
    rcases hturn.inOrder with ⟨hsame, hhand, hqueue⟩ | ⟨hholds, hmoved⟩
    · simp [hsame, hhand, hqueue]
    · -- nobody else has a task in hand, so what is taken is the front of what
      -- was enqueued
      obtain ⟨hfirst, hsecond⟩ := hsound.hands_others hthreads hholds
      rw [handsOf] at hfirst hsecond
      simpa [hfirst, hsecond] using hmoved
  case notes =>
    rw [begun_snoc, List.filterMap_append, ← hsound.notes]
    exact hturn.notes

omit hthreads in
theorem step (index : Nat) :
    Sound (done ++ (state.next? index).toList) (state.step index) := by
  have hstepped := state.stepped_step index
  generalize state.next? index = instruction at hstepped ⊢
  generalize state.step index = next at hstepped ⊢
  cases hstepped with
  | nothing => rw [Option.toList_none, List.append_nil]; exact hsound
  | performed before after instruction rest hthreads =>
      exact hsound.perform hthreads

omit hsound hthreads in
theorem run (parties : List (List Task)) (steps : List Nat) :
    Sound ((State.start (parties.map dispatchAll)).performed steps)
      ((State.start (parties.map dispatchAll)).runSchedule steps) := by
  induction steps using List.reverseRecOn with
  | nil => exact .start parties
  | append_singleton steps index ih =>
      rw [State.performed_snoc, State.runSchedule_snoc]
      exact ih.step index

omit hsound hthreads in
/-- Where nobody is within a call and no worker is left, nothing is left
to do. -/
theorem settled (hsound : Sound done state)
    (hbetween : ∀ thread ∈ state.threads, IsBetweenCalls thread) :
    state.queue = [] ∧ state.pending = 0 ∧ begun done = enqueued done := by
  have hnone {holds : Thread → Bool}
      (hidle : ∀ thread, IsBetweenCalls thread → holds thread = false) :
      state.threads.countP holds = 0 :=
    List.countP_eq_zero.2 fun thread hamong => by
      simp [hidle thread (hbetween thread hamong)]
  have hclaim := hsound.claim
  have hbalance := hsound.balance
  rw [hnone fun thread hidle => hidle.idle.1] at hclaim
  rw [hnone fun thread hidle => hidle.idle.2.1,
    hnone fun thread hidle => hidle.idle.2.2.1] at hbalance
  have hreleased : state.running = false := by
    cases hrunning : state.running with
    | false => rfl
    | true => simp [hrunning] at hclaim
  have huncounted : ¬ 0 < state.pending := by
    intro hcounted
    obtain ⟨thread, hamong, halert⟩ := hsound.alert hreleased hcounted
    rw [(hbetween thread hamong).idle.2.2.2.1] at halert
    contradiction
  have hempty : state.queue = [] := List.eq_nil_of_length_eq_zero (by omega)
  have hhands : handsOf state.threads = [] :=
    List.flatMap_eq_nil_iff.2 fun thread hamong =>
      (hbetween thread hamong).idle.2.2.2.2
  have hinOrder := hsound.inOrder
  rw [hhands, hempty, List.append_nil, List.append_nil] at hinOrder
  refine ⟨hempty, ?_, hinOrder⟩
  rw [hempty, List.length_nil] at hbalance
  omega

end Sound

/-- At any time during a run of any number of callers, the claim is held by one
worker or by none, and what was enqueued is what has begun, one task in the
hands of the worker at most, and the queue, in this order; once nobody is within
a call and no worker is left, all tasks have begun. -/
theorem runSchedule_inOrder (parties : List (List Task)) (steps : List Nat) :
    let opening := State.start (parties.map dispatchAll)
    let state := opening.runSchedule steps
    let done := opening.performed steps
    state.threads.countP holdsClaim = (if state.running then 1 else 0) ∧
      (∃ hand, hand.length ≤ 1 ∧ begun done ++ hand ++ state.queue =
        enqueued done) ∧
      state.notes = (begun done).filterMap Task.label? ∧
      ((∀ thread ∈ state.threads, IsBetweenCalls thread) →
        state.queue = [] ∧ state.pending = 0 ∧ begun done = enqueued done) := by
  intro opening state done
  have hsound : Sound done state := .run parties steps
  have halone : state.threads.countP holdsClaim ≤ 1 := by
    rw [hsound.claim]
    split <;> omega
  refine ⟨hsound.claim, ⟨handsOf state.threads, ?_, hsound.inOrder⟩,
    hsound.notes, hsound.settled⟩
  exact Nat.le_trans (length_handsOf_le hsound.shaped) halone

def crossingParties : List (List Task) :=
  [[.work "a" []], [.breakdown "b" [.work "c" []] "lost", .panic "broken"]]

/-- The second caller starts a worker that takes the task of the first one
before it is counted. -/
def crossing : List Nat :=
  [0, 1, 1, 1, 1] ++ List.replicate 6 2 ++ [0, 0] ++ List.replicate 11 2 ++
    List.replicate 4 1 ++ List.replicate 9 3

theorem runSchedule_crossing :
    let opening := State.start (crossingParties.map dispatchAll)
    (opening.runSchedule (crossing.take 11)).pending = -1 ∧
      (∀ thread ∈ (opening.runSchedule crossing).threads,
        IsBetweenCalls thread) ∧
      (opening.runSchedule crossing).queue = [] ∧
      (opening.runSchedule crossing).pending = 0 ∧
      (opening.runSchedule crossing).notes = ["a", "b", "c"] ∧
      (opening.runSchedule crossing).panics = ["lost", "broken"] := by
  intro opening
  have hended : (opening.runSchedule crossing).threads.all List.isEmpty =
      true := by decide +kernel
  have hbetween : ∀ thread ∈ (opening.runSchedule crossing).threads,
      IsBetweenCalls thread := by
    intro thread hamong
    exact ⟨[], List.isEmpty_iff.1 (List.all_eq_true.1 hended thread hamong)⟩
  obtain ⟨hempty, hsettled, -⟩ :=
    (runSchedule_inOrder crossingParties crossing).2.2.2 hbetween
  exact ⟨by decide +kernel, hbetween, hempty, hsettled,
    by decide +kernel, by decide +kernel⟩

end HttpEngine.Dispatch
