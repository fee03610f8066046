import HttpEngine.Proofs.Event.Interleaving
import Mathlib.Data.List.Count
import Mathlib.Data.List.Induction

/-!
# Where subscribers stand during a run

The hub's end of a queue is in one place at a time: with the join that waits,
with the join that is being performed, with a member, or let go of.
-/

namespace HttpEngine

theorem HubTask.count_join_steps (members : List Nat) (task : HubTask)
    (subscriber : Nat) :
    (task.steps members).count (.join subscriber) =
      [task].count (.join subscriber) := by
  cases task with
  | join other => simp [steps, List.count_singleton]
  | leave other => simp [steps]
  | broadcast event => simp [steps, List.count_eq_zero]
  | sendTo other event =>
      rw [steps]
      split <;> simp
  | close => simp [steps, List.count_eq_zero]

namespace Hub

variable {hub : Hub} {subscriber other : Nat}

/-- Whether there is such a subscriber, as a number. -/
def known (hub : Hub) (subscriber : Nat) : Nat :=
  if subscriber < hub.queues.length then 1 else 0

/-- The places in which the end of a queue is once its subscriber has joined. -/
def held (hub : Hub) (subscriber : Nat) : Nat :=
  hub.members.count subscriber +
    if (hub.queueOf subscriber).sending then 0 else 1

theorem known_withQueue :
    hub.withQueue.known subscriber = hub.known subscriber +
      [HubTask.join hub.queues.length].count (.join subscriber) := by
  simp only [known, withQueue, List.length_append, List.length_singleton,
    List.count_singleton, beq_iff_eq, HubTask.join.injEq]
  split <;> split <;> split <;> omega

theorem known_eq_one (honce : 0 < hub.known subscriber) :
    subscriber < hub.queues.length := by
  rw [known] at honce
  split at honce
  · assumption
  · omega

theorem known_le_one : hub.known subscriber ≤ 1 := by
  rw [known]
  split <;> omega

theorem held_withQueue :
    hub.withQueue.held subscriber = hub.held subscriber := by
  rw [held, queueOf_withQueue]
  rfl

theorem held_withMember :
    (hub.withMember subscriber).held other =
      hub.held other + [subscriber].count other := by
  rw [held, members_withMember, queueOf_withMember, List.count_append,
    Nat.add_right_comm]
  rfl

theorem held_changeQueue {change : EventQueue → EventQueue}
    (hsending : (change (hub.queueOf subscriber)).sending =
      (hub.queueOf subscriber).sending) :
    (hub.changeQueue subscriber change).held other = hub.held other := by
  rw [held, queueOf_changeQueue]
  split
  · rename_i hhere
    rw [← hhere.1, hsending]
    rfl
  · rfl

/-- The queue of a member was not let go of. -/
theorem sending_of_mem (hmem : subscriber ∈ hub.members)
    (hheld : hub.held subscriber ≤ 1) :
    hub.members.count subscriber = 1 ∧ (hub.queueOf subscriber).sending =
      true := by
  have hmember := List.count_pos_iff.2 hmem
  rw [Hub.held] at hheld
  cases hsending : (hub.queueOf subscriber).sending with
  | false =>
      simp only [hsending, Bool.false_eq_true, if_false] at hheld
      omega
  | true =>
      simp only [hsending, if_true] at hheld
      exact ⟨by omega, rfl⟩

theorem count_without (honce : hub.members.count subscriber = 1) :
    (hub.without subscriber).count + 1 = hub.count := by
  have hsplit :=
    @List.length_eq_countP_add_countP _ (· == subscriber) hub.members
  rw [← List.count_eq_countP, honce] at hsplit
  rw [count, count, hsplit, without, ← List.countP_eq_length_filter,
    Nat.add_comm]
  exact congrArg (1 + ·) (List.countP_congr fun other _ => by simp)

/-- A member that is removed is held as one that was let go of. -/
theorem held_without (hmem : subscriber ∈ hub.members)
    (hheld : hub.held subscriber ≤ 1)
    (hknown : subscriber < hub.queues.length) :
    (hub.without subscriber).held other = hub.held other := by
  rw [Hub.held, queueOf_without]
  by_cases hsame : subscriber = other
  · subst hsame
    have hleft : (hub.without subscriber).members.count subscriber = 0 := by
      simp [without, List.count_eq_zero]
    obtain ⟨halone, hsending⟩ := sending_of_mem hmem hheld
    simp [Hub.held, hleft, hknown, halone, hsending]
  · have hstays : (hub.without subscriber).members.count other =
        hub.members.count other := by
      rw [without, List.count_filter (by simpa using Ne.symm hsame)]
    simp [hsame, hstays, Hub.held]

end Hub

namespace Traffic

variable {traffic after : Traffic} {move : Move} {subscriber other : Nat}

/-- The number of places in which the hub's end of a queue is. -/
def places (traffic : Traffic) (subscriber : Nat) : Nat :=
  traffic.hub.tasks.count (.join subscriber) +
    traffic.agenda.count (.join subscriber) + traffic.hub.held subscriber

theorem places_dispatch (task : HubTask) :
    (traffic.dispatch task).places subscriber = traffic.places subscriber +
      [task].count (.join subscriber) := by
  have hheld : (traffic.dispatch task).hub.held subscriber =
      traffic.hub.held subscriber := rfl
  rw [places, places, hheld]
  simp only [dispatch, Hub.dispatch, List.count_append]
  omega

/-- What holds between the moves of a run. -/
structure Orderly (traffic : Traffic) : Prop where
  calm : traffic.hub.Calm
  inOrder : traffic.dispatched = traffic.begun ++ traffic.hub.tasks
  joins : ∀ subscriber, traffic.dispatched.count (.join subscriber) =
    traffic.hub.known subscriber
  places :
    ∀ subscriber, traffic.places subscriber = traffic.hub.known subscriber
  bounded : ∀ subscriber, (traffic.hub.queueOf subscriber).events.length ≤
    traffic.hub.capacity

namespace Orderly

theorem held_le_one (horderly : traffic.Orderly) :
    traffic.hub.held subscriber ≤ 1 := by
  have hplaces := horderly.places subscriber
  have hmost : traffic.hub.known subscriber ≤ 1 := Hub.known_le_one
  rw [Traffic.places] at hplaces
  omega

theorem known_of_mem (horderly : traffic.Orderly)
    (hmem : subscriber ∈ traffic.hub.members) :
    subscriber < traffic.hub.queues.length := by
  have hplaces := horderly.places subscriber
  have hmember := List.count_pos_iff.2 hmem
  rw [Traffic.places, Hub.held] at hplaces
  exact Hub.known_eq_one (by omega)

theorem count_members (horderly : traffic.Orderly) :
    traffic.hub.members.count subscriber = if subscriber ∈
      traffic.hub.members then 1 else 0 := by
  have hheld : traffic.hub.held subscriber ≤ 1 := horderly.held_le_one
  rw [Hub.held] at hheld
  split
  · rename_i hmem
    have hmember := List.count_pos_iff.2 hmem
    omega
  · rename_i habsent
    exact List.count_eq_zero.2 habsent

/-- A subscriber whose queue was let go of is not a member and does not become
one. -/
theorem not_mem_of_not_sending (horderly : traffic.Orderly)
    (hletGo : (traffic.hub.queueOf subscriber).sending = false) :
    subscriber ∉ traffic.hub.members ∧
      .join subscriber ∉ traffic.hub.tasks := by
  have hplaces := horderly.places subscriber
  have hmost : traffic.hub.known subscriber ≤ 1 := Hub.known_le_one
  rw [Traffic.places, Hub.held, hletGo] at hplaces
  simp only [Bool.false_eq_true, if_false] at hplaces
  constructor
  · intro hmem
    have hmember := List.count_pos_iff.2 hmem
    omega
  · intro hwaiting
    have hjoins := List.count_pos_iff.2 hwaiting
    omega

/-- A subscriber joins once. -/
theorem not_mem_begun (horderly : traffic.Orderly)
    (hwaiting : .join subscriber ∈ traffic.hub.tasks) :
    .join subscriber ∉ traffic.begun := by
  intro hbefore
  have hjoins := horderly.joins subscriber
  have hmost : traffic.hub.known subscriber ≤ 1 := Hub.known_le_one
  have hfirst := List.count_pos_iff.2 hbefore
  have hsecond := List.count_pos_iff.2 hwaiting
  rw [horderly.inOrder, List.count_append] at hjoins
  omega

theorem joined_of_not_sending (horderly : traffic.Orderly)
    (hletGo : (traffic.hub.queueOf subscriber).sending = false) :
    .join subscriber ∈ traffic.begun := by
  have hplaces := horderly.places subscriber
  have hjoins := horderly.joins subscriber
  have hwaiting :=
    List.count_eq_zero.2 (horderly.not_mem_of_not_sending hletGo).2
  rw [Traffic.places, Hub.held, hletGo] at hplaces
  rw [horderly.inOrder, List.count_append, hwaiting, ← hplaces] at hjoins
  simp only [Bool.false_eq_true, if_false] at hjoins
  exact List.count_pos_iff.1 (by omega)

theorem not_sending_of_joined (horderly : traffic.Orderly)
    (hidle : traffic.agenda = []) (hjoined : .join subscriber ∈ traffic.begun)
    (hout : subscriber ∉ traffic.hub.members) :
    (traffic.hub.queueOf subscriber).sending = false := by
  have hplaces := horderly.places subscriber
  have hjoins := horderly.joins subscriber
  have hmost : traffic.hub.known subscriber ≤ 1 := Hub.known_le_one
  have hbegun := List.count_pos_iff.2 hjoined
  rw [horderly.inOrder, List.count_append] at hjoins
  rw [Traffic.places, Hub.held, hidle, List.count_nil,
    List.count_eq_zero.2 hout] at hplaces
  cases hsending : (traffic.hub.queueOf subscriber).sending with
  | false => rfl
  | true =>
      simp only [hsending, if_true] at hplaces
      omega

theorem start (queue : Nat) {joinHooks leaveHooks : List HubHook}
    (hcalm : ∀ hook ∈ joinHooks ++ leaveHooks, ∀ other,
      hook.panicsFor other = false) :
    (start queue joinHooks leaveHooks).Orderly where
  calm := hcalm
  inOrder := rfl
  joins _ := rfl
  places _ := rfl
  bounded _ := Nat.zero_le _

theorem subscribe (horderly : traffic.Orderly) :
    Orderly ({ traffic with hub := traffic.hub.withQueue }.dispatch
      (.join traffic.hub.queues.length)) where
  calm := horderly.calm
  inOrder := by
    simp [Traffic.dispatch, Hub.dispatch, Hub.withQueue, horderly.inOrder]
  joins subscriber := by
    simp only [Traffic.dispatch, List.count_append, horderly.joins]
    exact Hub.known_withQueue.symm
  places subscriber := by
    have hplaces := horderly.places subscriber
    rw [places_dispatch]
    change _ = traffic.hub.withQueue.known subscriber
    rw [Hub.known_withQueue, ← hplaces, Traffic.places, Hub.held_withQueue]
    rfl
  bounded subscriber := by
    change (traffic.hub.withQueue.queueOf subscriber).events.length ≤
      traffic.hub.capacity
    rw [Hub.queueOf_withQueue]
    exact horderly.bounded subscriber

theorem dispatch (horderly : traffic.Orderly) {task : HubTask}
    (hother : ∀ subscriber, task ≠ .join subscriber) :
    (traffic.dispatch task).Orderly := by
  have hnone : ∀ subscriber, [task].count (.join subscriber) = 0 :=
    fun subscriber => by
    simpa [List.count_eq_zero] using (hother subscriber).symm
  refine ⟨horderly.calm, ?_, fun subscriber => ?_, fun subscriber => ?_,
    horderly.bounded⟩
  · simp [Traffic.dispatch, Hub.dispatch, horderly.inOrder]
  · simp only [Traffic.dispatch, List.count_append, hnone, horderly.joins]
    rfl
  · rw [places_dispatch, hnone, horderly.places]
    rfl

/-- A change of a queue that does not end it and leaves it short enough. -/
theorem changeQueue (horderly : traffic.Orderly) {received : Nat → List Event}
    {change : EventQueue → EventQueue}
    (hsending : (change (traffic.hub.queueOf subscriber)).sending =
      (traffic.hub.queueOf subscriber).sending)
    (hbounded : (change (traffic.hub.queueOf subscriber)).events.length ≤
      traffic.hub.capacity) :
    Orderly { traffic with
      hub := traffic.hub.changeQueue subscriber change
      received := received } where
  calm := horderly.calm
  inOrder := horderly.inOrder
  joins other := by simpa [Hub.known] using horderly.joins other
  places other := by
    have hplaces := horderly.places other
    simp only [Traffic.places, Hub.known, Hub.length_queues_changeQueue,
      Hub.held_changeQueue hsending] at hplaces ⊢
    exact hplaces
  bounded other := by
    change ((traffic.hub.changeQueue subscriber change).queueOf
      other).events.length ≤ _
    rw [Hub.queueOf_changeQueue]
    split
    · rename_i hhere
      rw [← hhere.1]
      exact hbounded
    · exact horderly.bounded other

theorem perform (horderly : traffic.Orderly) {step : HubStep}
    {rest left : List HubStep} {hub : Hub}
    (hagenda : traffic.agenda = step :: rest)
    (hperformed : traffic.hub.Performed rest step (hub, left)) :
    Orderly { traffic with hub := hub, agenda := left } := by
  obtain ⟨hcalm, hinOrder, hjoins, hplaces, hbounded⟩ := id horderly
  simp only [Traffic.places, hagenda] at hplaces
  cases hperformed with
  | joined subscriber =>
      refine ⟨hcalm, hinOrder, hjoins,
        fun other => Eq.trans ?_ (hplaces other), hbounded⟩
      have hstep : (HubStep.join subscriber :: rest).count (.join other) =
          rest.count (.join other) + [subscriber].count other := by
        simp [List.count_cons]
      simp only [Traffic.places, Hub.held_withMember,
        Hub.tasks_withMember, hstep]
      omega
  | queued event subscriber htakes =>
      -- the queue grows by one and had room for one
      have hroom : (traffic.hub.queueOf subscriber).events.length <
          traffic.hub.capacity := by
        rw [Hub.Refuses, not_or] at htakes
        omega
      have horderly : Orderly { traffic with agenda := rest } :=
        ⟨hcalm, hinOrder, hjoins,
          by simpa [Traffic.places] using hplaces, hbounded⟩
      exact horderly.changeQueue rfl (by simpa using Nat.succ_le_of_lt hroom)
  | refused event subscriber hrefuses =>
      refine ⟨hcalm, hinOrder, hjoins, fun other => ?_, hbounded⟩
      simpa [Traffic.places] using hplaces other
  | removed subscriber hmem =>
      have hknown := horderly.known_of_mem hmem
      refine ⟨hcalm, hinOrder, ?_, fun other => ?_, fun other => ?_⟩
      · simpa [Hub.known] using hjoins
      · rw [Traffic.places, Hub.held_without hmem horderly.held_le_one hknown]
        simpa [Hub.known, Hub.without, Hub.changeQueue] using hplaces other
      · change ((traffic.hub.without subscriber).queueOf other).events.length ≤
          _
        rw [Hub.queueOf_without]
        split <;> exact hbounded other
  | missing subscriber habsent =>
      refine ⟨hcalm, hinOrder, hjoins, fun other => ?_, hbounded⟩
      simpa [Traffic.places] using hplaces other

theorem begin (horderly : traffic.Orderly) {task : HubTask}
    {tasks : List HubTask} (hagenda : traffic.agenda = [])
    (hwaiting : traffic.hub.tasks = task :: tasks) :
    Orderly { traffic with
      hub := { traffic.hub with tasks := tasks }
      agenda := task.steps traffic.hub.members
      begun := traffic.begun ++ [task] } where
  calm := horderly.calm
  inOrder := by simp [horderly.inOrder, hwaiting]
  joins := horderly.joins
  places subscriber := by
    have hplaces := horderly.places subscriber
    have htogether : (task :: tasks).count (.join subscriber) =
        tasks.count (.join subscriber) + [task].count (.join subscriber) := by
      rw [← List.singleton_append, List.count_append, Nat.add_comm]
    rw [Traffic.places, hagenda, hwaiting, List.count_nil, htogether] at hplaces
    rw [Traffic.places, HubTask.count_join_steps]
    exact hplaces
  bounded := horderly.bounded

theorem act (horderly : traffic.Orderly) (hacted : traffic.Acted move after) :
    after.Orderly := by
  cases hacted with
  | nothing => exact horderly
  | subscribed => exact horderly.subscribe
  | dispatched _ _ task hother => exact horderly.dispatch hother
  | dropped subscriber hpresent =>
      have hchanged : Orderly { traffic with
          hub := traffic.hub.changeQueue subscriber
            fun queue => { queue with receiving := false } } :=
        horderly.changeQueue rfl (horderly.bounded subscriber)
      exact hchanged.dispatch nofun
  | received subscriber hpresent event rest hqueued =>
      have hbounded := horderly.bounded subscriber
      rw [hqueued, List.length_cons] at hbounded
      exact horderly.changeQueue rfl (Nat.le_of_succ_le hbounded)
  | performed step rest hagenda hub left hperformed =>
      exact horderly.perform hagenda hperformed
  | began task tasks hagenda hwaiting => exact horderly.begin hagenda hwaiting

theorem run (horderly : traffic.Orderly) (moves : List Move) :
    (traffic.run moves).Orderly := by
  induction moves using List.reverseRecOn with
  | nil => exact horderly
  | append_singleton moves move ih =>
      rw [run_snoc]
      exact ih.act (acted_act ih.calm move)

end Orderly

end Traffic

end HttpEngine
