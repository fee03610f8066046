import HttpEngine.Event.Broadcast
import Mathlib.Data.List.Basic

/-!
# What the operations of a hub do

`queueOf` is the queue of a subscriber, a new one for a subscriber there is not
yet.  Each operation changes the queue and the membership of the subscriber it
is about and of no other.
-/

namespace HttpEngine.Hub

variable {hub : Hub} {subscriber other : Nat} {event : Event}

/-! ## Queues -/

def queueOf (hub : Hub) (subscriber : Nat) : EventQueue :=
  (hub.queues[subscriber]?).getD .new

theorem getElem?_queues (hknown : subscriber < hub.queues.length) :
    hub.queues[subscriber]? = some (hub.queueOf subscriber) := by
  simp [queueOf, hknown]

theorem known_of_not_isDropped (hpresent : hub.isDropped subscriber = false) :
    subscriber < hub.queues.length := by
  by_contra hunknown
  simp [isDropped, List.getElem?_eq_none (Nat.le_of_not_lt hunknown)]
    at hpresent

theorem isDropped_of_known (hknown : subscriber < hub.queues.length) :
    hub.isDropped subscriber = !(hub.queueOf subscriber).receiving := by
  simp only [isDropped, getElem?_queues hknown]

theorem queueOf_changeQueue (change : EventQueue → EventQueue) :
    (hub.changeQueue subscriber change).queueOf other =
      if subscriber = other ∧ other < hub.queues.length then
        change (hub.queueOf other)
      else hub.queueOf other := by
  by_cases hsame : subscriber = other
  · subst hsame
    by_cases hknown : subscriber < hub.queues.length
    · simp [queueOf, changeQueue, hknown]
    · simp [queueOf, changeQueue, hknown,
        List.modify_eq_self (Nat.le_of_not_lt hknown)]
  · simp [queueOf, changeQueue, hsame]

/-- A part of a queue that a change leaves as it is. -/
theorem part_changeQueue {α : Type} (part : EventQueue → α)
    {change : EventQueue → EventQueue}
    (hsame : part (change (hub.queueOf subscriber)) =
      part (hub.queueOf subscriber)) :
    part ((hub.changeQueue subscriber change).queueOf other) =
      part (hub.queueOf other) := by
  rw [queueOf_changeQueue]
  split
  · rename_i hhere
    rw [← hhere.1, hsame]
  · rfl

theorem receiving_of_changeQueue {change : EventQueue → EventQueue}
    (hstill : (change (hub.queueOf subscriber)).receiving = true →
      (hub.queueOf subscriber).receiving = true)
    (hpresent : ((hub.changeQueue subscriber change).queueOf other).receiving =
      true) :
    (hub.queueOf other).receiving = true := by
  rw [queueOf_changeQueue] at hpresent
  split at hpresent
  · rename_i hhere
    rw [← hhere.1] at hpresent ⊢
    exact hstill hpresent
  · exact hpresent

@[simp] theorem members_changeQueue (change : EventQueue → EventQueue) :
    (hub.changeQueue subscriber change).members = hub.members := rfl

@[simp] theorem length_queues_changeQueue (change : EventQueue → EventQueue) :
    (hub.changeQueue subscriber change).queues.length = hub.queues.length := by
  simp [changeQueue]

/-- The hub with one more subscriber, whose join is still to be dispatched. -/
def withQueue (hub : Hub) : Hub :=
  { hub with queues := hub.queues ++ [EventQueue.new] }

@[simp] theorem members_withQueue : hub.withQueue.members = hub.members := rfl

@[simp] theorem queueOf_withQueue :
    hub.withQueue.queueOf subscriber = hub.queueOf subscriber := by
  rcases Nat.lt_trichotomy subscriber hub.queues.length with
    hknown | rfl | hunknown
  · simp [queueOf, withQueue, List.getElem?_append_left hknown]
  · simp [queueOf, withQueue]
  · have hmissing : (hub.queues ++ [EventQueue.new]).length ≤ subscriber := by
      rw [List.length_append]
      exact hunknown
    simp [queueOf, withQueue, List.getElem?_eq_none hmissing,
      List.getElem?_eq_none (Nat.le_of_lt hunknown)]

/-! ## Hooks, offers and removals -/

/-- Every hook returns normally. -/
def Calm (hub : Hub) : Prop :=
  ∀ hook ∈ hub.joinHooks ++ hub.leaveHooks, ∀ subscriber,
    hook.panicsFor subscriber = false

/-- What hooks that return normally note about a subscriber. -/
def notesOf (hooks : List HubHook) (subscriber : Nat) : List String :=
  hooks.map fun hook => hook.label ++ " " ++ toString subscriber

theorem runHooks_of_calm {hooks : List HubHook}
    (hcalm : ∀ hook ∈ hooks, hook.panicsFor subscriber = false) :
    hub.runHooks subscriber hooks =
      ({ hub with notes := hub.notes ++ notesOf hooks subscriber }, false) := by
  induction hooks generalizing hub with
  | nil => simp [runHooks, notesOf]
  | cons hook rest ih =>
      rw [List.forall_mem_cons] at hcalm
      simp [runHooks, notesOf, hcalm.1, ih hcalm.2]

theorem Calm.runHooks_joinHooks (hcalm : hub.Calm) :
    hub.runHooks subscriber hub.joinHooks =
      ({ hub with notes := hub.notes ++ notesOf hub.joinHooks subscriber },
        false) :=
  runHooks_of_calm fun hook hamong =>
    hcalm hook (List.mem_append_left _ hamong) subscriber

/-- The hub after a subscriber has joined. -/
def withMember (hub : Hub) (subscriber : Nat) : Hub :=
  { hub with
      members := hub.members ++ [subscriber]
      notes := hub.notes ++ notesOf hub.joinHooks subscriber }

@[simp] theorem members_withMember :
    (hub.withMember subscriber).members = hub.members ++ [subscriber] := rfl

@[simp] theorem tasks_withMember :
    (hub.withMember subscriber).tasks = hub.tasks := rfl

@[simp] theorem queueOf_withMember :
    (hub.withMember subscriber).queueOf other = hub.queueOf other := rfl

/-- The hub after the removal of a member. -/
def without (hub : Hub) (subscriber : Nat) : Hub :=
  { hub.changeQueue subscriber (fun queue =>
    { queue with sending := false }) with
      members := hub.members.filter (· != subscriber)
      notes := hub.notes ++ notesOf hub.leaveHooks subscriber }

@[simp] theorem length_queues_without :
    (hub.without subscriber).queues.length = hub.queues.length := by
  simp [without]

@[simp] theorem mem_members_without :
    other ∈ (hub.without subscriber).members ↔
      other ∈ hub.members ∧ other ≠ subscriber := by
  simp [without]

theorem queueOf_without :
    (hub.without subscriber).queueOf other =
      if subscriber = other ∧ other < hub.queues.length then
        { hub.queueOf other with sending := false }
      else hub.queueOf other :=
  queueOf_changeQueue _

theorem remove_of_mem (hcalm : hub.Calm) (hmem : subscriber ∈ hub.members) :
    hub.remove subscriber = (hub.without subscriber, false) := by
  have hleaves : ∀ hook ∈ hub.leaveHooks, hook.panicsFor subscriber = false :=
    fun hook hamong =>
    hcalm hook (List.mem_append_right _ hamong) subscriber
  simp only [remove, List.contains_iff_mem.2 hmem, if_true, changeQueue,
    runHooks_of_calm hleaves, without]

theorem remove_of_not_mem (habsent : subscriber ∉ hub.members) :
    hub.remove subscriber = (hub, false) := by
  simp [remove, habsent]

/-- The subscriber is too far behind to be offered an event, or gone. -/
def Refuses (hub : Hub) (subscriber : Nat) : Prop :=
  hub.isDropped subscriber = true ∨
  hub.capacity ≤ (hub.queueOf subscriber).events.length

theorem known_of_not_refuses (htakes : ¬ hub.Refuses subscriber) :
    subscriber < hub.queues.length := by
  rw [Refuses, not_or, Bool.not_eq_true] at htakes
  exact known_of_not_isDropped htakes.1

theorem offer_of_not_refuses (htakes : ¬ hub.Refuses subscriber) :
    hub.offer event subscriber =
      (hub.changeQueue subscriber fun _ =>
        { hub.queueOf subscriber with
          events := (hub.queueOf subscriber).events ++ [event] },
        true) := by
  have hknown := known_of_not_refuses htakes
  simp only [Refuses, isDropped_of_known hknown, Bool.not_eq_true', not_or,
    Bool.not_eq_false, Nat.not_le] at htakes
  simp [offer, getElem?_queues hknown, EventQueue.offer?, htakes]

theorem offer_of_refuses (hrefuses : hub.Refuses subscriber) :
    hub.offer event subscriber = (hub, false) := by
  rcases Nat.lt_or_ge subscriber hub.queues.length with hknown | hunknown
  · have hshut : ¬ ((hub.queueOf subscriber).receiving = true ∧
        (hub.queueOf subscriber).events.length < hub.capacity) := by
      rintro ⟨hpresent, hroom⟩
      rcases hrefuses with hgone | hfull
      · simp [isDropped_of_known hknown, hpresent] at hgone
      · omega
    simp [offer, getElem?_queues hknown, EventQueue.offer?, hshut]
  · simp [offer, List.getElem?_eq_none hunknown]

/-! ## Reading -/

theorem readUpTo_of_lt {queue : EventQueue}
    (hfound : hub.queues[subscriber]? = some queue) {most : Nat}
    (henough : queue.events.length < most) :
    (hub.readUpTo subscriber most).2 = (queue.events, !queue.sending) := by
  induction most generalizing hub queue with
  | zero => omega
  | succ most ih =>
      cases hqueued : queue.events with
      | nil =>
          cases hsending :
            queue.sending <;> simp [readUpTo, read, hfound, hqueued, hsending]
      | cons event rest =>
          have hknown := (List.getElem?_eq_some_iff.1 hfound).1
          have hshorter : (hub.changeQueue subscriber
              fun queue => { queue with events := rest }).queues[subscriber]? =
                some { queue with events := rest } := by
            simp [changeQueue, hfound]
          rw [hqueued, List.length_cons, Nat.succ_lt_succ_iff] at henough
          simp [readUpTo, read, hfound, hqueued, ih hshorter henough]

/-- A reader gets all that is queued, and then the end of a stream that was let
go of. -/
theorem readReady_of_known (hknown : subscriber < hub.queues.length) :
    (hub.readReady subscriber).2 =
      ((hub.queueOf subscriber).events, !(hub.queueOf subscriber).sending) := by
  have hfound := getElem?_queues hknown
  rw [readReady, hfound]
  exact readUpTo_of_lt hfound (Nat.lt_succ_self _)

end HttpEngine.Hub
