import HttpEngine.Readiness
import Mathlib.Data.List.Basic

/-!
# Which tasks are forgotten

The task clears the flag after a transfer for which the socket was not ready.
If the socket became ready meanwhile and the loop has set the flag already, the
mark of that event is wiped out, and the event is not repeated.  A task is
forgotten only after this (`isForgotten_run_iff`): while it does not happen the
two parties are alert to each other, and once it has the task reads no more.
-/

namespace HttpEngine.Readiness.State

variable {state : State}

/-! ## Alert parties -/

structure Alert (state : State) : Prop where
  /-- While the loop holds the lock the place for the waker is empty. -/
  locked : state.isLocked = true → state.registered = false
  /-- Once the task has left its waker, that is there, or the loop has it, or
  has used it. -/
  called : state.task = .recheck ∨ state.task = .pending →
    state.registered = true ∨ state.loop = .marking true ∨
      state.loop = .waking ∨ state.woken = true
  /-- The task starts to wait only while the flag is not set. -/
  waiting : state.task = .pending → state.triggered = true →
    state.loop = .waking ∨ state.woken = true
  /-- A socket that is ready is marked so, or the loop is about to mark it. -/
  signalled : state.ready = true →
    state.triggered = true ∨ 0 < state.events ∨ state.isLocked = true

/-- The task wipes out the mark of an event that is over. -/
def wipes (state : State) : Move → Bool
  | .task _ => state.task == .clear && state.ready && state.events == 0 &&
      !state.isLocked
  | _ => false

namespace Alert

theorem start (ready : Bool) : (start ready).Alert := by
  constructor <;> simp [State.start, isLocked]

theorem arrive (halert : state.Alert) : state.arrive.Alert := by
  rw [State.arrive]
  split
  · exact halert
  · exact ⟨halert.locked, halert.called, halert.waiting,
      fun _ => .inr (.inl (Nat.succ_pos _))⟩

theorem stepLoop (halert : state.Alert) : state.stepLoop.Alert := by
  obtain ⟨hlocked, hcalled, hwaiting, hsignalled⟩ := id halert
  rw [State.stepLoop]
  cases hphase : state.loop with
  | watching =>
      cases hqueued : state.events with
      | zero => exact halert
      | succ events => constructor <;> simp_all [isLocked]
  | marking waker => cases waker <;> constructor <;> simp_all [isLocked]
  | waking => constructor <;> simp_all [isLocked]

theorem stepTask (halert : state.Alert) (drains : Bool)
    (hkept : state.wipes (.task drains) = false) :
    (state.stepTask drains).Alert := by
  obtain ⟨hlocked, hcalled, hwaiting, hsignalled⟩ := id halert
  rw [State.stepTask]
  cases hphase : state.task with
  | idle => constructor <;> simp_all [isLocked]
  | check =>
      cases hset : state.triggered <;> constructor <;> simp_all [isLocked]
  | register =>
      dsimp only
      split
      · exact halert
      · constructor <;> simp_all [isLocked]
  | recheck =>
      cases hset : state.triggered <;> constructor <;> simp_all [isLocked]
  | transfer =>
      cases hready : state.ready <;> constructor <;> simp_all [isLocked]
  | clear =>
      -- the only step that may leave a socket that is ready without its mark
      have hspared : state.ready = true → 0 < state.events ∨
          state.isLocked = true := by
        intro hready
        rcases Nat.eq_zero_or_pos state.events with hhandled | hqueued
        · simp [wipes, hphase, hready, hhandled] at hkept
          exact .inr hkept
        · exact .inl hqueued
      exact ⟨hlocked, by simp, nofun, fun hready => .inr (hspared hready)⟩
  | pending =>
      cases hwoken : state.woken <;> constructor <;> simp_all [isLocked]

theorem step (halert : state.Alert) (move : Move)
    (hkept : state.wipes move = false) :
    (state.step move).Alert := by
  cases move with
  | arrive => exact halert.arrive
  | loop => exact halert.stepLoop
  | task drains => exact halert.stepTask drains hkept

end Alert

/-! ## After a mark is wiped out -/

/-- The socket is ready and nothing will ever say so; a task that waits or is on
its way to. -/
structure Deaf (state : State) : Prop where
  ready : state.ready = true
  triggered : state.triggered = false
  events : state.events = 0
  unlocked : state.isLocked = false
  task : state.task = .check ∨ state.task = .register ∨ state.task = .recheck ∨
    state.task = .pending

namespace Deaf

theorem of_wipes {move : Move} (hwipes : state.wipes move = true) :
    (state.step move).Deaf := by
  cases move with
  | task drains =>
      simp only [State.wipes, Bool.and_eq_true, beq_iff_eq, Bool.not_eq_true']
        at hwipes
      obtain ⟨⟨⟨hphase, hready⟩, hhandled⟩, hunlocked⟩ := hwipes
      rw [step, stepTask, hphase]
      exact ⟨hready, rfl, hhandled, hunlocked, .inl rfl⟩
  | arrive => contradiction
  | loop => contradiction

theorem step (hdeaf : state.Deaf) (move : Move) : (state.step move).Deaf := by
  obtain ⟨hready, htriggered, hevents, hunlocked, htask⟩ := id hdeaf
  cases move with
  | arrive => rwa [State.step, arrive, if_pos hready]
  | loop =>
      rw [State.step, stepLoop]
      cases hphase : state.loop with
      | watching => rwa [hevents]
      | marking waker => simp [isLocked, hphase] at hunlocked
      | waking => exact ⟨hready, htriggered, hevents, rfl, htask⟩
  | task drains =>
      rw [State.step, stepTask]
      have hunset : ¬ state.triggered = true := Bool.eq_false_iff.1 htriggered
      rcases htask with hphase | hphase | hphase | hphase
      · simp only [hphase, if_neg hunset]
        exact ⟨hready, htriggered, hevents, hunlocked, .inr (.inl rfl)⟩
      · simp only [hphase, hunlocked]
        exact ⟨hready, htriggered, hevents, hunlocked, .inr (.inr (.inl rfl))⟩
      · simp only [hphase, if_neg hunset]
        exact ⟨hready, htriggered, hevents, hunlocked, .inr (.inr (.inr rfl))⟩
      · rw [hphase]
        dsimp only
        split
        · exact ⟨hready, htriggered, hevents, hunlocked, .inl rfl⟩
        · exact hdeaf

theorem run (hdeaf : state.Deaf) (moves : List Move) :
    (state.run moves).Deaf := by
  induction moves generalizing state with
  | nil => exact hdeaf
  | cons move moves ih => exact ih (hdeaf.step move)

end Deaf

/-! ## Forgotten tasks -/

def wiped (state : State) : List Move → Bool
  | [] => false
  | move :: moves => state.wipes move || (state.step move).wiped moves

/-- The task waits and is not being woken. -/
def isAsleep (state : State) : Bool :=
  state.task == .pending && !state.woken && state.loop == .watching

theorem Alert.isForgotten_eq_false (halert : state.Alert) :
    state.isForgotten = false := by
  rw [Bool.eq_false_iff]
  intro hforgotten
  simp only [isForgotten, Bool.and_eq_true, beq_iff_eq, Bool.not_eq_true']
    at hforgotten
  obtain ⟨⟨⟨⟨htask, hready⟩, hwoken⟩, hevents⟩, hloop⟩ := hforgotten
  have hmarked : state.triggered = true := by
    simpa [hevents, isLocked, hloop] using halert.signalled hready
  simpa [hloop, hwoken] using halert.waiting htask hmarked

theorem Deaf.isForgotten_eq (hdeaf : state.Deaf) :
    state.isForgotten = state.isAsleep := by
  simp [isForgotten, isAsleep, hdeaf.ready, hdeaf.events]

theorem Alert.isForgotten_run (halert : state.Alert) (moves : List Move) :
    (state.run moves).isForgotten =
      (state.wiped moves && (state.run moves).isAsleep) := by
  induction moves generalizing state with
  | nil => exact halert.isForgotten_eq_false
  | cons move moves ih =>
      rw [wiped]
      -- the first mark that is wiped out decides: until then the parties are
      -- alert
      cases hwipes : state.wipes move with
      | true => exact ((Deaf.of_wipes hwipes).run moves).isForgotten_eq
      | false => exact ih (halert.step move hwipes)

/-- Nothing ever happens to a forgotten task. -/
theorem run_of_isForgotten (hforgotten : state.isForgotten = true)
    (moves : List Move) :
    state.run moves = state := by
  simp only [isForgotten, Bool.and_eq_true, beq_iff_eq, Bool.not_eq_true']
    at hforgotten
  obtain ⟨⟨⟨⟨htask, hready⟩, hwoken⟩, hevents⟩, hloop⟩ := hforgotten
  have hstep (move : Move) : state.step move = state := by
    cases move with
    | arrive => exact if_pos hready
    | loop => simp [State.step, stepLoop, hloop, hevents]
    | task drains => simp [State.step, stepTask, htask, hwoken]
  induction moves with
  | nil => rfl
  | cons move moves ih => rwa [run, List.foldl_cons, hstep]

theorem isForgotten_run_iff (ready : Bool) (moves : List Move) :
    ((start ready).run moves).isForgotten = true ↔
      (start ready).wiped moves = true ∧ ((start ready).run moves).isAsleep =
        true := by
  rw [(Alert.start ready).isForgotten_run, Bool.and_eq_true]

/-- The socket becomes ready after a transfer that failed, and the loop is done
with the event before the task clears the flag. -/
theorem isForgotten_hasty :
    ((start false).run [.task false, .task false, .task false, .arrive, .loop,
      .loop, .task false,
      .task false, .task false, .task false]).isForgotten = true := by
  decide

end HttpEngine.Readiness.State
