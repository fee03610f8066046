import HttpEngine.Event.Callback
import HttpEngine.Proofs.Event.Farewell

/-!
# Listeners that call their emitter

Listeners are notified only by a send that misses the peer or by their own late
registration, and both hold the lock meanwhile; closing, which gives the lock
back first, has nothing to hand over and so notifies nobody.  A listener that
calls its emitter at all therefore waits for ever once it is notified
(`blocks_iff`), and with others every call returns.
-/

namespace HttpEngine

namespace Emitter

variable {ι : Type} {emitter : Emitter ι}

/-- The stream is open or has ended, with nothing left to hand over. -/
def Settled (emitter : Emitter ι) : Prop :=
  (∃ waiting, emitter.Open waiting) ∨ ∃ told, emitter.Ended told

theorem settled_new (capacity : Nat) (peer : Peer) :
    (new capacity peer : Emitter ι).Settled :=
  .inl ⟨[], open_new capacity peer⟩

theorem Settled.perform (hsettled : emitter.Settled) (operation : Operation ι) :
    (emitter.perform operation).Settled := by
  rcases hsettled with ⟨waiting, hopened⟩ | ⟨told, hended⟩
  · rcases hopened.perform operation with hstill | ⟨-, hended⟩ | ⟨-, hended⟩
    · exact .inl ⟨_, hstill⟩
    · exact .inr ⟨_, hended⟩
    · exact .inr ⟨_, hended⟩
  · exact .inr ⟨_, hended.perform operation⟩

theorem Settled.notified_prefix (hsettled : emitter.Settled)
    (operation : Operation ι) :
    emitter.outlet.notified <+:
      (emitter.perform operation).outlet.notified := by
  rcases hsettled with ⟨waiting, hopened⟩ | ⟨told, hended⟩
  · rw [hopened.notified]
    exact List.nil_prefix
  · rw [hended.notified, (hended.perform operation).notified]
    exact List.prefix_append _ _

theorem Settled.notified_close (hsettled : emitter.Settled) :
    emitter.close.1.outlet.notified = emitter.outlet.notified := by
  rcases hsettled with ⟨waiting, hopened⟩ | ⟨told, hended⟩
  · rw [hopened.notified, hopened.close.notified]
  · rw [hended.notified, hended.close.notified]

theorem Settled.notified_prefix_performAll (hsettled : emitter.Settled)
    (operations : List (Operation ι)) :
    emitter.outlet.notified <+:
      (emitter.performAll operations).outlet.notified := by
  induction operations generalizing emitter with
  | nil => exact List.prefix_rfl
  | cons operation operations ih =>
      exact (hsettled.notified_prefix operation).trans
        (ih (hsettled.perform operation))

end Emitter

namespace EmitterCall

def operation : EmitterCall → Emitter.Operation Listener
  | .send event => .send event
  | .close => .close
  | .isDisconnected => .isDisconnected
  | .onDisconnect listener => .onDisconnect listener

/-- All calls but closing hold the lock until they return. -/
def holdsLock : EmitterCall → Bool
  | .close => false
  | _ => true

namespace State

variable {state : State} {emitter : Emitter Listener} {call : EmitterCall}
  {rest : List Instruction}

/-! ## Waiting -/

/-- A call waits for the lock, and the call that holds it is further up. -/
structure Waits (state : State) : Prop where
  isStuck : state.isStuck = true
  held : .release ∈ state.rest

theorem Waits.step_eq (hwaits : state.Waits) : state.step = state := by
  obtain ⟨emitter, locked, rest⟩ := state
  obtain ⟨hstuck, -⟩ := hwaits
  rcases rest with _ | ⟨call | _, rest⟩
  · contradiction
  · obtain rfl : locked = true := hstuck
    rfl
  · contradiction

theorem step_of_isOver (hfinished : state.isOver = true) :
    state.step = state := by
  obtain ⟨emitter, locked, rest⟩ := state
  obtain rfl : rest = [] := List.isEmpty_iff.1 hfinished
  rfl

theorem run_of_step_eq (hfixed : state.step = state) (steps : Nat) :
    run steps state = state := by
  induction steps with
  | zero => rfl
  | succ steps ih => rw [run, hfixed, ih]

theorem run_add (first second : Nat) (state : State) :
    run (first + second) state = run second (run first state) := by
  induction first generalizing state with
  | zero => rw [Nat.zero_add, run]
  | succ first ih => rw [Nat.succ_add, run, ih, run]

/-- From some step on a call waits for the lock that a call further up holds. -/
def Blocks (state : State) : Prop :=
  ∃ steps, ∀ more, (run (steps + more) state).Waits

def Returns (state : State) : Prop := ∃ steps, (run steps state).isOver = true

theorem Waits.blocks {state : State} (steps : Nat)
    (hwaits : (run steps state).Waits) :
    state.Blocks := by
  refine ⟨steps, fun more => ?_⟩
  rw [run_add, run_of_step_eq hwaits.step_eq]
  exact hwaits

theorem Blocks.not_returns (hblocks : state.Blocks) : ¬ state.Returns := by
  rintro ⟨first, hfinished⟩
  obtain ⟨second, hwaits⟩ := hblocks
  have hwaits := hwaits first
  rw [Nat.add_comm, run_add, run_of_step_eq (step_of_isOver hfinished)]
    at hwaits
  obtain ⟨-, hheld⟩ := hwaits
  rw [List.isEmpty_iff.1 hfinished] at hheld
  contradiction

/-! ## One call -/

/-- The listeners that a call notifies. -/
def told (emitter : Emitter Listener) (call : EmitterCall) : List Listener :=
  (emitter.perform call.operation).outlet.notified.drop
    emitter.outlet.notified.length

theorem notified_perform (hsettled : emitter.Settled) (call : EmitterCall) :
    (emitter.perform call.operation).outlet.notified =
      emitter.outlet.notified ++ told emitter call := by
  obtain ⟨more, heq⟩ := hsettled.notified_prefix call.operation
  rw [told, ← heq, List.drop_left]

theorem holdsLock_of_told (hsettled : emitter.Settled)
    (hsome : told emitter call ≠ []) :
    call.holdsLock = true := by
  cases call with
  | close =>
      have hsame : (emitter.perform (operation .close)).outlet.notified =
          emitter.outlet.notified :=
        hsettled.notified_close
      rw [told, hsame, List.drop_length] at hsome
      contradiction
  | _ => rfl

theorem step_call (emitter : Emitter Listener) (call : EmitterCall)
    (rest : List Instruction) :
    step ⟨emitter, false, .call call :: rest⟩ =
      ⟨emitter.perform call.operation, call.holdsLock,
        (told emitter call).flatten.map .call ++
          if call.holdsLock then .release :: rest else rest⟩ := by
  cases call <;> rfl

theorem run_call_of_quiet
    (hquiet : ∀ listener ∈ told emitter call, listener = [])
    (rest : List Instruction) :
    ∃ steps, run steps ⟨emitter, false, .call call :: rest⟩ =
      ⟨emitter.perform call.operation, false, rest⟩ := by
  have hnothing : (told emitter call).flatten = [] :=
    List.flatten_eq_nil_iff.2 hquiet
  have hfirst := step_call emitter call rest
  rw [hnothing, List.map_nil, List.nil_append] at hfirst
  cases hholds : call.holdsLock with
  | false => exact ⟨1, by rw [run, hfirst, hholds]; rfl⟩
  | true => exact ⟨2, by rw [run, hfirst, hholds]; rfl⟩

theorem waits_of_told (hsettled : emitter.Settled) {listener : Listener}
    (hamong : listener ∈ told emitter call) (hcalls : listener ≠ [])
    (rest : List Instruction) :
    (step ⟨emitter, false, .call call :: rest⟩).Waits := by
  have hholds := holdsLock_of_told hsettled (List.ne_nil_of_mem hamong)
  have hsome : (told emitter call).flatten ≠ [] := by
    intro hnothing
    exact hcalls (List.flatten_eq_nil_iff.1 hnothing listener hamong)
  obtain ⟨first, later, hcut⟩ := List.exists_cons_of_ne_nil hsome
  rw [step_call, hholds, hcut]
  exact ⟨rfl, by simp⟩

/-! ## Whole runs -/

theorem Returns.of_run {steps : Nat} (hreturns : (run steps state).Returns) :
    state.Returns := by
  obtain ⟨more, hfinished⟩ := hreturns
  rw [← run_add] at hfinished
  exact ⟨steps + more, hfinished⟩

theorem Blocks.of_run {steps : Nat} (hblocks : (run steps state).Blocks) :
    state.Blocks := by
  obtain ⟨first, hwaits⟩ := hblocks
  refine ⟨steps + first, fun more => ?_⟩
  rw [Nat.add_assoc, run_add]
  exact hwaits more

theorem run_calls (hsettled : emitter.Settled)
    (hquiet : ∀ listener ∈ emitter.outlet.notified, listener = [])
    (calls : List EmitterCall) :
    let final := emitter.performAll (calls.map operation)
    let state : State := ⟨emitter, false, calls.map .call⟩
    ((∀ listener ∈ final.outlet.notified, listener = []) → state.Returns) ∧
      ((∃ listener ∈ final.outlet.notified, listener ≠ []) → state.Blocks) := by
  intro final state
  induction calls generalizing emitter with
  | nil =>
      refine ⟨fun _ => ⟨0, rfl⟩, ?_⟩
      rintro ⟨listener, hamong, hcalls⟩
      exact absurd (hquiet listener hamong) hcalls
  | cons call calls ih =>
      have hnext := hsettled.perform call.operation
      have hgrown := notified_perform hsettled call
      by_cases hsilent : ∀ listener ∈ told emitter call, listener = []
      · -- nobody reacts: the call returns, and the rest of the run decides
        obtain ⟨steps, hran⟩ := run_call_of_quiet hsilent (calls.map .call)
        have hstill :
            ∀ listener ∈ (emitter.perform call.operation).outlet.notified,
            listener = [] := by
          rw [hgrown]
          exact List.forall_mem_append.2 ⟨hquiet, hsilent⟩
        obtain ⟨hreturns, hblocks⟩ := ih hnext hstill
        rw [← hran] at hreturns hblocks
        exact ⟨fun hall => (hreturns hall).of_run,
          fun hsome => (hblocks hsome).of_run⟩
      · -- a listener reacts while the lock is held: what comes later does not
        -- matter
        obtain ⟨listener, hamong, hbusy⟩ :
            ∃ listener ∈ told emitter call, listener ≠ [] := by
          simpa using hsilent
        have hlater : listener ∈ final.outlet.notified := by
          apply (hnext.notified_prefix_performAll (calls.map operation)).subset
          rw [hgrown]
          exact List.mem_append_right _ hamong
        have hwaits := waits_of_told hsettled hamong hbusy (calls.map .call)
        exact ⟨fun hall => absurd (hall listener hlater) hbusy,
          fun _ => hwaits.blocks 1⟩

/-- Every call returns unless a listener that calls the emitter is notified;
then a call of it waits for ever for the lock that is held further up. -/
theorem blocks_iff (capacity : Nat) (peer : Peer) (calls : List EmitterCall) :
    let notified :=
      ((Emitter.new capacity peer).performAll
        (calls.map operation)).outlet.notified
    ((start capacity peer calls).Blocks ↔
      ∃ listener ∈ notified, listener ≠ []) ∧
      ((start capacity peer calls).Returns ↔
        ∀ listener ∈ notified, listener = []) := by
  intro notified
  have hnobody :
      ∀ listener ∈
        (Emitter.new capacity peer : Emitter Listener).outlet.notified,
      listener = [] := by
    simp [Emitter.new, Outlet.new]
  obtain ⟨hreturns, hblocks⟩ :=
    run_calls (Emitter.settled_new capacity peer) hnobody calls
  constructor
  · refine ⟨fun hblocked => ?_, hblocks⟩
    by_contra hharmless
    exact hblocked.not_returns (hreturns (by simpa using hharmless))
  · refine ⟨fun hreturned => ?_, hreturns⟩
    by_contra hbusy
    exact (hblocks (by simpa using hbusy)).not_returns hreturned

/-- A listener that only asks whether the emitter is disconnected: notified by
the send that misses the peer, and as it is registered after a close. -/
theorem blocks_asking :
    (start 1024 ⟨some 0, #[]⟩
        [.onDisconnect [.isDisconnected], .send ⟨none, none, "x"⟩]).Blocks ∧
      (start 1024 .attentive [.close,
        .onDisconnect [.isDisconnected]]).Blocks := by
  constructor
  · have hrest : (run 3 (start 1024 ⟨some 0, #[]⟩
        [.onDisconnect [.isDisconnected], .send ⟨none, none, "x"⟩])).rest =
        [.call .isDisconnected, .release] := by cbv
    exact Waits.blocks 3 ⟨by decide +kernel, by simp [hrest]⟩
  · exact Waits.blocks 2 ⟨by decide +kernel, .tail _ (.head _)⟩

end State

end EmitterCall

end HttpEngine
