import HttpEngine.Proofs.Sequence.Position
import HttpEngine.WebSocket.Disconnection
import Mathlib.Data.List.DropRight
import Mathlib.Data.List.Induction

/-!
# Listeners that come while the session ends

A registration looks at the flag first and adds its listener later, and the end
of the session sets the flag first and takes the list later.  Both steps of the
end may fall between the two of a registration; its listener is then on a list
that nobody takes any more.  All others are notified, each once
(`notified_runSchedule_iff`).
-/

namespace HttpEngine.WebSocket.Disconnection

variable {ι : Type}

namespace Instruction

/-- The listener that the instruction is about to hand on. -/
def inHand : Instruction ι → List ι
  | .check listener | .add listener | .notify listener => [listener]
  | .disconnect | .takeListeners => []

def added : Instruction ι → List ι
  | .add listener => [listener]
  | _ => []

def isTake : Instruction ι → Bool
  | .takeListeners => true
  | _ => false

end Instruction

/-- The listeners added after the list was taken for the last time. -/
def stragglers (performed : List (Instruction ι)) : List ι :=
  (performed.rtakeWhile (!·.isTake)).flatMap Instruction.added

theorem stragglers_snoc (performed : List (Instruction ι))
    (instruction : Instruction ι) :
    stragglers (performed ++ [instruction]) =
      if instruction.isTake then []
      else stragglers performed ++ instruction.added := by
  rw [stragglers, List.rtakeWhile_concat]
  cases instruction <;> simp [Instruction.isTake, stragglers]

namespace State

variable {state : State ι} {listeners : List ι} {trace : List (Instruction ι)}

/-! ## Steps -/

/-- All that is left to do. -/
def pending (state : State ι) : List (Instruction ι) := state.threads.flatten

/-- The instruction that a thread performs next. -/
def next? (state : State ι) (index : Nat) : Option (Instruction ι) :=
  (state.threads[index]?).bind List.head?

/-- All that a step can do: an instruction gives way to what its thread does
instead. -/
inductive Stepped (state : State ι) : Option (Instruction ι) → State ι → Prop
  | nothing : Stepped state none state
  | performed (front back : List (Instruction ι)) (instruction : Instruction ι)
      (threads : List (Thread ι))
      (hbefore : state.pending = front ++ instruction :: back)
      (hafter : threads.flatten =
        front ++ ((state.perform instruction).1 ++ back)) :
      Stepped state (some instruction) { (state.perform instruction).2 with
        threads := threads }

theorem threads_perform (state : State ι) (instruction : Instruction ι) :
    (state.perform instruction).2.threads = state.threads := by
  cases instruction <;> rfl

theorem stepped_step (state : State ι) (index : Nat) :
    state.Stepped (state.next? index) (state.step index) := by
  unfold next? step
  split
  · next instruction rest hfound =>
      obtain ⟨before, after, hthreads, hreplaced⟩ :=
        Sequence.exists_around_getElem? hfound
      have hreplaced := hreplaced ((state.perform instruction).1 ++ rest) []
      rw [List.append_nil, List.append_nil] at hreplaced
      have hnow :
          state.pending = before.flatten ++ instruction ::
            (rest ++ after.flatten) := by
        refine (congrArg List.flatten hthreads).trans ?_
        simp
      have hnext :
          (before ++ ((state.perform instruction).1 ++ rest) :: after).flatten =
          before.flatten ++
            ((state.perform instruction).1 ++ (rest ++ after.flatten)) := by
        simp
      rw [hfound]
      simp only [threads_perform, hreplaced]
      exact .performed _ _ instruction _ hnow hnext
  · next hsilent =>
      rw [Sequence.bind_head?_eq_none hsilent]
      exact .nothing

/-- The instructions that a schedule has performed, in order. -/
def performed (state : State ι) : List Nat → List (Instruction ι)
  | [] => []
  | index :: steps =>
      (state.next? index).toList ++ (state.step index).performed steps

theorem performed_snoc (state : State ι) (steps : List Nat) (index : Nat) :
    state.performed (steps ++ [index]) =
      state.performed steps ++
        ((state.runSchedule steps).next? index).toList := by
  induction steps generalizing state with
  | nil => simp [performed, runSchedule]
  | cons first steps ih => simp [performed, ih, runSchedule, List.append_assoc]

theorem runSchedule_snoc (state : State ι) (steps : List Nat) (index : Nat) :
    state.runSchedule (steps ++ [index]) =
      (state.runSchedule steps).step index :=
  List.foldl_append

/-! ## The account of a run -/

/-- No instruction loses a listener or hands it on twice. -/
theorem perform_conserves (state : State ι) (instruction : Instruction ι)
    (front back : List (Instruction ι)) :
    let next := (state.perform instruction).2
    let instead := (state.perform instruction).1
    (next.notified ++
        (next.listeners ++
          (front ++ (instead ++ back)).flatMap Instruction.inHand)).Perm
      (state.notified ++
        (state.listeners ++
          (front ++ instruction :: back).flatMap Instruction.inHand)) := by
  intro next instead
  simp only [List.flatMap_append, List.flatMap_cons]
  cases instruction with
  | check listener =>
      have hsame : instead.flatMap Instruction.inHand = [listener] := by
        cases hset : state.disconnected <;>
          simp [instead, perform, hset, Instruction.inHand]
      rw [hsame]
      exact .rfl
  | add listener =>
      refine .append_left _ ?_
      change ((state.listeners ++ [listener]) ++ _).Perm _
      rw [List.append_assoc]
      exact .append_left _ (List.perm_append_comm_assoc _ _ _)
  | notify listener =>
      change ((state.notified ++ [listener]) ++ _).Perm _
      rw [List.append_assoc]
      refine .append_left _
        ((List.perm_append_comm_assoc _ _ _).trans (.append_left _ ?_))
      exact List.perm_append_comm_assoc _ _ _
  | disconnect =>
      have hsame : instead.flatMap Instruction.inHand = [] := by
        cases hset : state.disconnected <;>
          simp [instead, perform, hset, Instruction.inHand]
      rw [hsame]
      exact .rfl
  | takeListeners =>
      have hsame : instead.flatMap Instruction.inHand = state.listeners := by
        simp [instead, perform, List.flatMap_map, Instruction.inHand]
      rw [hsame]
      exact .append_left _
        (List.perm_append_comm_assoc (front.flatMap Instruction.inHand)
          state.listeners (back.flatMap Instruction.inHand))

theorem listeners_perform (hkept : state.listeners = stragglers trace)
    (instruction : Instruction ι) :
    (state.perform instruction).2.listeners =
      stragglers (trace ++ [instruction]) := by
  rw [stragglers_snoc, ← hkept]
  cases instruction <;> simp [perform, Instruction.isTake, Instruction.added]

theorem mem_replaced {front back : List (Instruction ι)}
    {instruction sought : Instruction ι} (hother : sought ≠ instruction)
    (hamong : sought ∈ front ++ instruction :: back)
    (instead : List (Instruction ι)) : sought ∈ front ++ (instead ++ back) := by
  rcases List.mem_append.1 hamong with hearly | hlate
  · exact List.mem_append_left _ hearly
  · exact List.mem_append_right _
      (List.mem_append_right _ (List.mem_of_ne_of_mem hother hlate))

theorem ending_perform {front back : List (Instruction ι)}
    {instruction : Instruction ι}
    (hending : state.disconnected = true ∨
      .disconnect ∈ front ++ instruction :: back) :
    (state.perform instruction).2.disconnected = true ∨
      .disconnect ∈ front ++ ((state.perform instruction).1 ++ back) := by
  cases instruction with
  | disconnect => exact .inl rfl
  | _ => exact hending.imp_right fun hamong => mem_replaced (by nofun) hamong _

theorem taking_perform {front back : List (Instruction ι)}
    {instruction : Instruction ι} (htaking : state.disconnected = true →
      .takeListeners ∈ trace ∨ .takeListeners ∈ front ++ instruction :: back)
    (hset : (state.perform instruction).2.disconnected = true) :
    .takeListeners ∈ trace ++ [instruction] ∨
      .takeListeners ∈ front ++ ((state.perform instruction).1 ++ back) := by
  have hkept (hother : .takeListeners ≠
    instruction) (hbefore : state.disconnected = true) :
      .takeListeners ∈ trace ++ [instruction] ∨
        .takeListeners ∈ front ++ ((state.perform instruction).1 ++ back) :=
    (htaking hbefore).imp (List.mem_append_left _) fun hamong =>
      mem_replaced hother hamong _
  cases instruction with
  | disconnect =>
      cases hbefore : state.disconnected with
      | true => exact hkept nofun hbefore
      | false => exact .inr (by simp [perform, hbefore])
  | takeListeners => exact .inl (List.mem_append_right _ (.head _))
  | _ => exact hkept nofun hset

/-- Where the listeners are after some instructions, and how far the end of the
session is. -/
structure Accounted (listeners : List ι) (trace : List (Instruction ι))
    (state : State ι) : Prop where
  /-- Each listener was notified, is on the list, or is in a thread's hand. -/
  conserved : (state.notified ++
    (state.listeners ++ state.pending.flatMap Instruction.inHand)).Perm
      listeners
  listeners_eq : state.listeners = stragglers trace
  ending : state.disconnected = true ∨ .disconnect ∈ state.pending
  taking : state.disconnected = true → .takeListeners ∈ trace ∨
    .takeListeners ∈ state.pending

theorem pending_start (listeners : List ι) (ends : Nat) :
    (start listeners ends).pending =
      listeners.map .check ++ List.replicate ends .disconnect := by
  rw [pending, start, List.flatten_append, List.flatten_replicate_singleton,
    ← List.flatMap_def, List.map_eq_flatMap]

theorem accounted_start (listeners : List ι) {ends : Nat} (hsome : 0 < ends) :
    (start listeners ends).Accounted listeners [] := by
  have hpending := pending_start listeners ends
  constructor
  · have hheld : (start listeners ends).pending.flatMap Instruction.inHand =
        listeners := by
      rw [hpending, List.flatMap_append]
      simp [List.flatMap_map, Instruction.inHand]
    rw [hheld]
    exact .rfl
  · rfl
  · refine .inr ?_
    rw [hpending]
    exact List.mem_append_right _
      (List.mem_replicate.2 ⟨Nat.ne_of_gt hsome, rfl⟩)
  · nofun

theorem Accounted.step (haccounted : state.Accounted listeners trace)
    (index : Nat) :
    (state.step index).Accounted listeners (trace ++
      (state.next? index).toList) := by
  have hstepped := state.stepped_step index
  revert hstepped
  generalize state.next? index = instruction
  generalize state.step index = next
  intro hstepped
  obtain ⟨hconserved, hlisteners_eq, hending, htaking⟩ := id haccounted
  cases hstepped with
  | nothing => simpa using haccounted
  | performed front back instruction threads hbefore hafter =>
      rw [hbefore] at hconserved hending htaking
      have hpending (next : State ι) :
          { next with threads := threads }.pending =
          front ++ ((state.perform instruction).1 ++ back) := hafter
      constructor
      · rw [hpending]
        exact (state.perform_conserves instruction front back).trans hconserved
      · exact listeners_perform hlisteners_eq instruction
      · rw [hpending]
        exact ending_perform hending
      · rw [hpending]
        exact taking_perform htaking

theorem accounted_runSchedule (listeners : List ι) {ends : Nat}
    (hsome : 0 < ends) (steps : List Nat) :
    ((start listeners ends).runSchedule steps).Accounted listeners
      ((start listeners ends).performed steps) := by
  induction steps using List.reverseRecOn with
  | nil => exact accounted_start listeners hsome
  | append_singleton steps index ih =>
      rw [runSchedule_snoc, performed_snoc]
      exact ih.step index

theorem pending_of_isSettled (hsettled : state.isSettled = true) :
    state.pending = [] := by
  rw [pending, List.flatten_eq_nil_iff]
  intro thread hamong
  exact List.isEmpty_iff.1 (List.all_eq_true.1 hsettled thread hamong)

/-- When all registrations and ends have returned, the list was taken, and each
listener has been notified exactly once but for those that were added after
that: these are not notified at all. -/
theorem notified_runSchedule_iff {listeners : List ι} {ends : Nat}
    {steps : List Nat} (hsome : 0 < ends)
    (hsettled : ((start listeners ends).runSchedule steps).isSettled = true) :
    let trace := (start listeners ends).performed steps
    let notified := ((start listeners ends).runSchedule steps).notified
    .takeListeners ∈ trace ∧ (notified ++ stragglers trace).Perm listeners ∧
      (notified.Perm listeners ↔ stragglers trace = []) := by
  intro trace notified
  obtain ⟨hconserved, hlisteners_eq, hending, htaking⟩ :=
    accounted_runSchedule listeners hsome steps
  have hnothing := pending_of_isSettled hsettled
  rw [hnothing] at hconserved hending htaking
  rw [hlisteners_eq, List.flatMap_nil, List.append_nil] at hconserved
  have hfinished :
      ((start listeners ends).runSchedule steps).disconnected = true := by
    simpa using hending
  refine ⟨by simpa using htaking hfinished, hconserved, ?_⟩
  constructor
  · intro hall
    have hlengths := hconserved.length_eq
    rw [List.length_append, ← hall.length_eq] at hlengths
    exact List.length_eq_zero_iff.1
      (Nat.add_left_cancel (hlengths.trans (Nat.add_zero _).symm))
  · intro hnone
    change stragglers trace = [] at hnone
    rwa [hnone, List.append_nil] at hconserved

/-- Two ends; one listener is added in time, one is registered after the end,
and one registration looks at the flag before it is set and adds its listener
after the list was taken. -/
theorem notified_runSchedule_iff_straggler :
    let steps := [0, 1, 1, 3, 4, 3, 2, 2, 0, 3]
    let state := (start [0, 1, 2] 2).runSchedule steps
    0 < 2 ∧ state.isSettled = true ∧
      (state.notified ++ stragglers ((start [0, 1, 2] 2).performed steps)).Perm
        [0, 1, 2] ∧
      ¬ state.notified.Perm [0, 1, 2] ∧
      stragglers ((start [0, 1, 2] 2).performed steps) = [0] := by
  intro steps state
  have hsettled : state.isSettled = true := by
    decide
  have hstraggler : stragglers ((start [0, 1, 2] 2).performed steps) = [0] := by
    decide
  obtain ⟨-, hall, hexactly⟩ := notified_runSchedule_iff (by decide) hsettled
  refine ⟨by decide, hsettled, hall, fun hsame => ?_, hstraggler⟩
  rw [hexactly.1 hsame] at hstraggler
  contradiction

/-- The session ends between the two steps of a registration. -/
theorem notified_between :
    let state := (start ["late"] 1).runSchedule [0, 1, 1, 0]
    state.isSettled = true ∧ state.disconnected = true ∧ state.notified = [] ∧
      state.listeners = ["late"] := by
  decide

end State

end HttpEngine.WebSocket.Disconnection
