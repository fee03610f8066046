import HttpEngine.Proofs.WorkerPool.Stranding

/-!
# The counters of a pool

A wake-up may be taken by another worker than the one it reached, or by one
whose wait was over at the same moment, so no single counter says how many
workers wait.  Those counted as idle and the wake-ups that are not taken yet are
the workers inside a wait together.  No move therefore takes one from a counter
that stands at zero: with every subtraction checked, a run is the same run.
-/

namespace HttpEngine.WorkerPool.State

open Phase

variable {τ : Type} {state : State τ} {worker limit lost : Nat}

/-! ## Checked moves -/

/-- One less, for a counter above zero. -/
def lower? (counter : Int) : Option Int :=
  if 0 < counter then some (counter - 1) else none

theorem lower?_of_pos {counter : Int} (habove : 0 < counter) :
    lower? counter = some (counter - 1) := if_pos habove

def spawn? (state : State τ) (task : τ) (sleeper : Nat) : Option (State τ) :=
  let state := { state with queue := state.queue ++ [task] }
  if state.idle = 0 ∧ state.workers < state.limit then
    some { state with
      workers := state.workers + 1, phases := state.phases ++ [.looking] }
  else if 0 < state.idle then do
    let idle ← lower? state.idle
    some (wake { state with
      idle := idle, notified := state.notified + 1 } sleeper)
  else some state

def resume? (state : State τ) (worker : Nat) (timedOut : Bool) :
    Option (State τ) :=
  if state.notified ≠ 0 then do
    let notified ← lower? state.notified
    some ({ state with notified := notified }.look worker)
  else if timedOut then do
    let workers ← lower? state.workers
    let idle ← lower? state.idle
    some ({ state with workers := workers, idle := idle }.setPhase worker .gone)
  else some (state.setPhase worker (.waiting false))

/-- One move, unless it takes one from a counter that is not above zero. -/
def step? (state : State τ) : Move τ → Option (State τ)
  | .spawn task sleeper => state.spawn? task sleeper
  | .resume worker timedOut =>
      match state.phases[worker]? with
      | some (.waiting _) => state.resume? worker timedOut
      | _ => some state
  -- looking, finishing and panicking lower no counter
  | move => some (state.step move)

def run? (state : State τ) (moves : List (Move τ)) : Option (State τ) :=
  moves.foldlM step? state

/-! ## Moves that go through -/

theorem spawn?_eq (state : State τ) (task : τ) (sleeper : Nat) :
    state.spawn? task sleeper = some (state.spawn task sleeper) := by
  rw [spawn?, spawn]
  dsimp only
  split
  · rfl
  · split
    · rename_i habove
      rw [lower?_of_pos habove]
      rfl
    · rfl

namespace Accounted

theorem resume?_eq (haccounted : state.Accounted limit lost) {woken : Bool}
    (hfound : state.phases[worker]? = some (.waiting woken)) (timedOut : Bool) :
    state.resume? worker timedOut = some (state.resume worker timedOut) := by
  obtain ⟨hlimited, hwaiting, hasleep, hnotified, hworkers, hroom, hattended⟩ :=
    haccounted
  have hamong : Phase.waiting woken ∈ state.phases :=
    List.mem_of_getElem? hfound
  rw [State.resume?, State.resume]
  split
  · rename_i hpending
    rw [lower?_of_pos (by omega)]
    rfl
  · split
    · -- the worker itself is one that waits, and no wake-up is left to count
      -- for it
      have hwaits : 0 < state.phases.countP isWaiting :=
        List.countP_pos_iff.2 ⟨_, hamong, rfl⟩
      have hlives : 0 < state.phases.countP isLive :=
        List.countP_pos_iff.2 ⟨_, hamong, rfl⟩
      rw [lower?_of_pos (by omega), lower?_of_pos (by omega)]
      rfl
    · rfl

theorem step?_eq (haccounted : state.Accounted limit lost) (move : Move τ) :
    state.step? move = some (state.step move) := by
  cases move with
  | spawn task sleeper => exact state.spawn?_eq task sleeper
  | resume worker timedOut =>
      rw [State.step?, State.step]
      cases hfound : state.phases[worker]? with
      | none => rfl
      | some phase =>
          cases phase with
          | waiting woken => exact haccounted.resume?_eq hfound timedOut
          | _ => rfl
  | look worker | finish worker | panic worker => rfl

theorem run?_eq (haccounted : state.Accounted limit lost)
    (moves : List (Move τ)) :
    state.run? moves = some (state.run moves) := by
  induction moves generalizing state lost with
  | nil => rfl
  | cons move moves ih =>
      rw [run?, List.foldlM_cons, haccounted.step?_eq move]
      exact ih (haccounted.step move)

end Accounted

/-- After any moves, the idle workers and the wake-ups not yet taken are as many
as the workers inside a wait, there are no more workers than the limit allows,
and no move has taken one from a counter at zero. -/
theorem counters_run (limit : Nat) (moves : List (Move τ)) :
    let state := (start limit).run moves
    state.idle + state.notified = state.waitingCount ∧
      (state.limit = max limit 1 ∧ state.workers ≤ state.limit) ∧
      (0 ≤ state.idle ∧ 0 ≤ state.notified ∧ 0 ≤ state.workers) ∧
      (start limit).run? moves = some state := by
  intro state
  have hstarted : (start limit : State τ).Accounted (max limit 1) 0 :=
    .start limit
  have haccounted : state.Accounted _ _ := hstarted.run moves
  obtain ⟨hlimited, hwaiting, hasleep, hnotified, hworkers, hroom, -⟩ :=
    haccounted
  refine ⟨hwaiting, ⟨hlimited, ?_⟩, ⟨?_, hnotified, ?_⟩, hstarted.run?_eq moves⟩
  · rw [hlimited]
    exact hroom
  · omega
  · omega

/-- The wake-up reaches the first worker, the second one takes it as its time is
over, and so the first one goes. -/
example :
    (start 2).run? [.spawn 'a' 0, .look 0, .spawn 'b' 0, .look 1,
      .finish 0, .look 0,
    .finish 1, .look 1, .spawn 'c' 0, .resume 1 true, .resume 0 true] =
      some ⟨2, [], 1, 0, 0, [.gone, .running 'c']⟩ := by decide

end HttpEngine.WorkerPool.State
