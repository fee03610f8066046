import HttpEngine.WorkerPool
import Mathlib.Data.List.Count

/-!
# When a pool strands its work

A worker that a panic takes with it stays counted, so no other is ever started
in its place.  The counters are otherwise in step with the workers: `Accounted`
says how.  A pool strands work only when panics have taken as many workers as it
may have, and then for good.
-/

namespace HttpEngine.WorkerPool

variable {τ : Type}

/-! ## Counting workers -/

namespace Phase

@[simp] def isLooking : Phase τ → Bool
  | .looking => true
  | _ => false

@[simp] def isRunning : Phase τ → Bool
  | .running _ => true
  | _ => false

@[simp] def isLive : Phase τ → Bool
  | .gone => false
  | _ => true

theorem eq_waiting_of_isAsleep {phase : Phase τ}
    (hasleep : phase.isAsleep = true) :
    phase = .waiting false := by
  rcases phase with _ | _ | (_ | _) | _ <;> simp_all [isAsleep]

variable {phases : List (Phase τ)} {worker : Nat} {old : Phase τ}

theorem countP_set_add (p : Phase τ → Bool) (new : Phase τ)
    (hfound : phases[worker]? = some old) :
    (phases.set worker new).countP p + (p old).toNat =
      phases.countP p + (p new).toNat := by
  induction phases generalizing worker with
  | nil => simp at hfound
  | cons phase phases ih =>
      cases worker with
      | zero =>
          obtain rfl : phase = old := by simpa using hfound
          cases hbefore : p phase <;> cases hafter :
            p new <;> simp [hbefore, hafter]
      | succ worker =>
          have hrest := @ih worker (by simpa using hfound)
          simp only [List.set_cons_succ, List.countP_cons]
          omega

theorem counts_set (hfound : phases[worker]? = some old) (new : Phase τ) :
    (phases.set worker new).countP isWaiting + old.isWaiting.toNat =
        phases.countP isWaiting + new.isWaiting.toNat ∧
      (phases.set worker new).countP isAsleep + old.isAsleep.toNat =
        phases.countP isAsleep + new.isAsleep.toNat ∧
      (phases.set worker new).countP isLive + old.isLive.toNat =
        phases.countP isLive + new.isLive.toNat ∧
      (phases.set worker new).countP isLooking + old.isLooking.toNat =
        phases.countP isLooking + new.isLooking.toNat :=
  ⟨countP_set_add _ _ hfound, countP_set_add _ _ hfound,
    countP_set_add _ _ hfound, countP_set_add _ _ hfound⟩

theorem countP_isAsleep_le (phases : List (Phase τ)) :
    phases.countP isAsleep ≤ phases.countP isWaiting :=
  List.countP_mono_left fun _ _ hasleep => by
    rw [eq_waiting_of_isAsleep hasleep, isWaiting]

/-- Whoever lives is active or asleep; those who look are active, as are those
woken in a wait. -/
theorem counts_isActive (phases : List (Phase τ)) :
    phases.countP isLive = phases.countP isActive + phases.countP isAsleep ∧
      phases.countP isLooking ≤ phases.countP isActive ∧
      phases.countP isWaiting ≤ phases.countP isActive +
        phases.countP isAsleep := by
  induction phases with
  | nil => simp
  | cons phase phases ih =>
      rcases phase with _ | _ | (_ | _) | _ <;>
        simp [List.countP_cons, isActive, isAsleep, isWaiting] <;> omega

end Phase

namespace State

open Phase

variable {state : State τ} {worker limit lost : Nat}

/-! ## The account of a pool -/

def loss (state : State τ) : Move τ → Nat
  | .panic worker => ((state.phases[worker]?.map isRunning).getD false).toNat
  | _ => 0

/-- The workers that a run loses to panics. -/
def losses (state : State τ) : List (Move τ) → Nat
  | [] => 0
  | move :: moves => state.loss move + (state.step move).losses moves

/-- The counters of a pool that has lost some workers to panics. -/
structure Accounted (limit lost : Nat) (state : State τ) : Prop where
  limited : state.limit = limit
  waiting : state.idle + state.notified = state.phases.countP isWaiting
  /-- Those counted as notified are among the woken ones. -/
  asleep : state.phases.countP isAsleep ≤ state.idle
  notified : 0 ≤ state.notified
  workers : state.workers = state.phases.countP isLive + lost
  room : state.workers ≤ limit
  /-- While a worker could be woken or started, each task in the queue has a
  worker to come. -/
  attended : 0 < state.idle ∨ state.workers < limit →
    (state.queue.length : Int) ≤ state.phases.countP isLooking + state.notified

namespace Accounted

theorem start (limit : Nat) :
    (start limit : State τ).Accounted (max limit 1) 0 := by
  constructor <;> simp [State.start]

theorem look (haccounted : state.Accounted limit lost)
    (hfound : state.phases[worker]? = some .looking) :
    (state.look worker).Accounted limit lost := by
  obtain ⟨hlimited, hwaiting, hasleep, hnotified, hworkers, hroom, hattended⟩ :=
    haccounted
  rw [State.look]
  split
  · rename_i task queue hqueued
    have hcounts := counts_set hfound (.running task)
    simp [isWaiting, isAsleep] at hcounts
    rw [hqueued, List.length_cons] at hattended
    constructor <;> simp only [setPhase] <;> omega
  · rename_i hqueued
    have hcounts := counts_set hfound (.waiting false)
    simp [isWaiting, isAsleep] at hcounts
    constructor <;> simp only [setPhase, hqueued, List.length_nil] <;> omega

/-- A worker that takes a wake-up goes on as one about to look. -/
theorem taken (haccounted : state.Accounted limit lost) {woken : Bool}
    (hfound : state.phases[worker]? = some (.waiting woken))
    (hpending : state.notified ≠ 0) :
    ({ state with
      notified := state.notified - 1 }.setPhase worker .looking).Accounted limit
      lost := by
  obtain ⟨hlimited, hwaiting, hasleep, hnotified, hworkers, hroom, hattended⟩ :=
    haccounted
  have hcounts := counts_set hfound .looking
  cases woken <;> simp [isWaiting, isAsleep] at hcounts <;>
    constructor <;> simp only [setPhase] <;> omega

theorem look_setPhase (state : State τ) (worker : Nat) (phase : Phase τ) :
    (state.setPhase worker phase).look worker = state.look worker := by
  rcases state with
    ⟨limit, _ | ⟨task, queue⟩, workers, idle, notified, phases⟩ <;>
    simp [State.look, setPhase]

theorem resume (haccounted : state.Accounted limit lost) {woken : Bool}
    (hfound : state.phases[worker]? = some (.waiting woken)) (timedOut : Bool) :
    (state.resume worker timedOut).Accounted limit lost := by
  rw [State.resume]
  split
  · rename_i hpending
    -- taking the wake-up leaves the account in order, and then the worker looks
    rw [← look_setPhase _ _ .looking]
    apply (haccounted.taken hfound hpending).look
    have hinside := (List.getElem?_eq_some_iff.1 hfound).1
    simp [setPhase, hinside]
  · obtain ⟨hlimited, hwaiting, hasleep, hnotified, hworkers, hroom,
      hattended⟩ := haccounted
    split
    · have hcounts := counts_set hfound .gone
      have hamong := countP_isAsleep_le (state.phases.set worker .gone)
      cases woken <;> simp [isWaiting, isAsleep] at hcounts <;>
        constructor <;> simp only [setPhase] <;> omega
    · have hcounts := counts_set hfound (.waiting false)
      have hamong :=
        countP_isAsleep_le (state.phases.set worker (.waiting false))
      cases woken <;> simp [isWaiting, isAsleep] at hcounts <;>
        constructor <;> simp only [setPhase] <;> omega

theorem finish (haccounted : state.Accounted limit lost) {task : τ}
    (hfound : state.phases[worker]? = some (.running task)) :
    (state.setPhase worker .looking).Accounted limit lost := by
  obtain ⟨hlimited, hwaiting, hasleep, hnotified, hworkers, hroom, hattended⟩ :=
    haccounted
  have hcounts := counts_set hfound .looking
  simp [isWaiting, isAsleep] at hcounts
  constructor <;> simp only [setPhase] <;> omega

theorem panic (haccounted : state.Accounted limit lost) {task : τ}
    (hfound : state.phases[worker]? = some (.running task)) :
    (state.setPhase worker .gone).Accounted limit (lost + 1) := by
  obtain ⟨hlimited, hwaiting, hasleep, hnotified, hworkers, hroom, hattended⟩ :=
    haccounted
  have hcounts := counts_set hfound .gone
  simp [isWaiting, isAsleep] at hcounts
  constructor <;> simp only [setPhase] <;> omega

end Accounted

theorem wake_cases (state : State τ) (sleeper : Nat) :
    (∃ worker, state.phases[worker]? = some (.waiting false) ∧
        state.wake sleeper = state.setPhase worker (.waiting true)) ∨
      state.phases.countP isAsleep = 0 ∧ state.wake sleeper = state := by
  by_cases hprefers : (state.phases[sleeper]?.map isAsleep).getD false
  · refine .inl ⟨sleeper, ?_, by rw [wake]; simp [hprefers]⟩
    cases hfound : state.phases[sleeper]? with
    | none => simp [hfound] at hprefers
    | some phase =>
        have hasleep : phase.isAsleep = true := by simpa [hfound] using hprefers
        rw [eq_waiting_of_isAsleep hasleep]
  · cases hreached : state.phases.findIdx? isAsleep with
    | some worker =>
        refine .inl ⟨worker, ?_, by rw [wake]; simp [hprefers, hreached]⟩
        obtain ⟨hinside, hasleep, -⟩ :=
          List.findIdx?_eq_some_iff_getElem.1 hreached
        rw [List.getElem?_eq_getElem hinside, eq_waiting_of_isAsleep hasleep]
    | none =>
        refine .inr ⟨?_, by rw [wake]; simp [hprefers, hreached]⟩
        rw [List.countP_eq_zero]
        simpa using List.findIdx?_eq_none_iff.1 hreached

namespace Accounted

theorem spawn (haccounted : state.Accounted limit lost) (task : τ)
    (sleeper : Nat) :
    (state.spawn task sleeper).Accounted limit lost := by
  obtain ⟨hlimited, hwaiting, hasleep, hnotified, hworkers, hroom, hattended⟩ :=
    haccounted
  have hqueued : (state.queue ++ [task]).length = state.queue.length + 1 :=
    List.length_append
  rw [State.spawn]
  dsimp only
  split
  · constructor <;> simp [isWaiting, isAsleep] <;> omega
  · split
    · rcases wake_cases { state with
          queue := state.queue ++ [task]
          idle := state.idle - 1
          notified := state.notified + 1 } sleeper with
            ⟨worker, hfound, hwoke⟩ | ⟨hnone, hwoke⟩
      · rw [hwoke]
        have hcounts := counts_set hfound (.waiting true)
        simp [isWaiting, isAsleep] at hcounts
        constructor <;> simp only [setPhase] <;> omega
      · -- all who wait are woken, and `idle` counts one of them that no wake-up
        -- was counted for
        rw [hwoke]
        constructor <;> dsimp only at hnone ⊢ <;> omega
    · constructor <;> dsimp only <;> omega

theorem step (haccounted : state.Accounted limit lost) (move : Move τ) :
    (state.step move).Accounted limit (lost + state.loss move) := by
  cases move with
  | spawn task sleeper => exact haccounted.spawn task sleeper
  | look worker =>
      rw [State.step]
      split
      · exact haccounted.look ‹_›
      · exact haccounted
  | finish worker =>
      rw [State.step]
      split
      · exact haccounted.finish ‹_›
      · exact haccounted
  | panic worker =>
      rw [State.step, loss]
      split
      · rename_i hfound
        rw [hfound]
        exact haccounted.panic hfound
      · rename_i hother
        cases hfound : state.phases[worker]? with
        | none => exact haccounted
        | some phase =>
            cases phase with
            | running task => exact absurd hfound (hother task)
            | _ => exact haccounted
  | resume worker timedOut =>
      rw [State.step]
      split
      · exact haccounted.resume ‹_› timedOut
      · exact haccounted

theorem run (haccounted : state.Accounted limit lost) (moves : List (Move τ)) :
    (state.run moves).Accounted limit (lost + state.losses moves) := by
  induction moves generalizing state lost with
  | nil => exact haccounted
  | cons move moves ih =>
      rw [losses, ← Nat.add_assoc]
      exact ih (haccounted.step move)

end Accounted

/-! ## Stranded work -/

theorem isStranded_eq_true (state : State τ) :
    state.isStranded = true ↔
      state.queue ≠ [] ∧ state.phases.countP isActive = 0 := by
  simp [isStranded, List.countP_eq_zero]

theorem Accounted.isStranded_iff (haccounted : state.Accounted limit lost) :
    state.isStranded = true ↔ state.queue ≠ [] ∧ lost = limit := by
  obtain ⟨hlimited, hwaiting, hasleep, hnotified, hworkers, hroom, hattended⟩ :=
    haccounted
  obtain ⟨hlive, hlooking, hawake⟩ := counts_isActive state.phases
  rw [isStranded_eq_true]
  refine and_congr_right fun hqueued => ?_
  have hwork : 0 < state.queue.length := List.length_pos_iff.2 hqueued
  constructor
  · -- with nobody active there is no worker to come, so none could be woken or
    -- started
    intro hidle
    omega
  · -- no worker is left
    intro hall
    omega

theorem isStranded_run_iff (limit : Nat) (moves : List (Move τ)) :
    ((start limit).run moves).isStranded = true ↔
      ((start limit).run moves).queue ≠ [] ∧
      (start limit).losses moves = max limit 1 := by
  have haccounted := (Accounted.start limit).run moves
  rw [Nat.zero_add] at haccounted
  exact haccounted.isStranded_iff

/-- A panic takes the only worker; the task queued next is never run. -/
theorem isStranded_single :
    ((start 1).run [.spawn 0 0, .look 0, .panic 0, .spawn 1 0]).isStranded =
      true := by
  decide

/-! ## Stranded for good -/

/-- Without a live worker the queue can only grow. -/
theorem queue_step (hnone : state.phases.countP isLive = 0) (move : Move τ) :
    state.queue <+: (state.step move).queue := by
  have hgone (worker : Nat) :
      state.phases[worker]? = Option.none ∨
      state.phases[worker]? = some .gone := by
    cases hfound : state.phases[worker]? with
    | none => exact .inl rfl
    | some phase =>
        have hdead :=
          List.countP_eq_zero.1 hnone phase (List.mem_of_getElem? hfound)
        cases phase <;> simp_all
  cases move with
  | spawn task sleeper =>
      have hwoken (state : State τ) :
          (state.wake sleeper).queue = state.queue := by
        rcases wake_cases state sleeper with ⟨worker, -, hwoke⟩ | ⟨-, hwoke⟩ <;>
          simp only [hwoke, setPhase]
      rw [step, spawn]
      dsimp only
      split
      · exact List.prefix_append _ _
      · split
        · rw [hwoken]
          exact List.prefix_append _ _
        · exact List.prefix_append _ _
  | look worker | finish worker | panic worker | resume worker timedOut =>
      rcases hgone worker with hfound | hfound <;> simp [step, hfound]

/-- Stranded work is never run. -/
theorem Accounted.isStranded_run (haccounted : state.Accounted limit lost)
    (hstranded : state.isStranded = true) (moves : List (Move τ)) :
    (state.run moves).isStranded = true := by
  induction moves generalizing state lost with
  | nil => exact hstranded
  | cons move moves ih =>
      have hnext := haccounted.step move
      obtain ⟨hqueued, hall⟩ := haccounted.isStranded_iff.1 hstranded
      have hlive : state.phases.countP isLive = 0 := by
        have hworkers := haccounted.workers
        have hroom := haccounted.room
        omega
      have hlost : lost + state.loss move = limit := by
        have hworkers := hnext.workers
        have hroom := hnext.room
        omega
      refine ih hnext (hnext.isStranded_iff.2 ⟨?_, hlost⟩)
      have hgrows := (queue_step hlive move).length_le
      have hwork := List.length_pos_iff.2 hqueued
      exact List.length_pos_iff.1 (by omega)

end State

end HttpEngine.WorkerPool
