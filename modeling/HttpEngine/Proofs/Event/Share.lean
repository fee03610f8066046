import HttpEngine.Proofs.Event.Membership
import Mathlib.Data.List.TakeWhile

/-!
# What concerns one subscriber

The tasks of a run say which events are addressed to a subscriber.  Its share of
a run is what it has read, its queue, what the running task is about to do for
it, and whether it is a member; moves that are about another subscriber leave
that share as it is.
-/

namespace HttpEngine

/-! ## Events addressed to a subscriber -/

namespace HubTask

variable {subscriber : Nat} {tasks : List HubTask} {task : HubTask}

/-- The event that a task is to hand to a subscriber. -/
def eventFor? (subscriber : Nat) : HubTask → Option Event
  | .broadcast event => some event
  | .sendTo target event => if target = subscriber then some event else none
  | _ => none

/-- A task that does not end the stream of a subscriber. -/
def keeps (subscriber : Nat) (task : HubTask) : Bool :=
  decide (task ≠ .leave subscriber ∧ task ≠ .close)

def afterJoin (subscriber : Nat) (tasks : List HubTask) : List HubTask :=
  (tasks.dropWhile (· != .join subscriber)).drop 1

/-- The events addressed to a subscriber after its join and before it is to be
removed. -/
def addressed (subscriber : Nat) (tasks : List HubTask) : List Event :=
  ((afterJoin subscriber tasks).takeWhile (keeps subscriber)).filterMap
    (eventFor? subscriber)

/-- A subscriber has joined and none of the tasks since then removes it. -/
def belongs (subscriber : Nat) (tasks : List HubTask) : Bool :=
  tasks.contains (.join subscriber) &&
    (afterJoin subscriber tasks).all (keeps subscriber)

theorem forall_mem_ne (habsent : .join subscriber ∉ tasks) :
    ∀ task ∈ tasks, (task != .join subscriber) = true := by
  intro task hamong
  rw [bne_iff_ne]
  rintro rfl
  exact habsent hamong

theorem afterJoin_append_cons {before : List HubTask}
    (hfirst : .join subscriber ∉ before) :
    afterJoin subscriber (before ++ .join subscriber :: tasks) = tasks := by
  rw [afterJoin, List.dropWhile_append_of_pos (forall_mem_ne hfirst)]
  simp

theorem afterJoin_of_not_mem (habsent : .join subscriber ∉ tasks) :
    afterJoin subscriber tasks = [] := by
  rw [afterJoin, List.dropWhile_eq_nil_iff.2 (forall_mem_ne habsent),
    List.drop_nil]

theorem afterJoin_snoc (task : HubTask) :
    afterJoin subscriber (tasks ++ [task]) = if .join subscriber ∈ tasks then
      afterJoin subscriber tasks ++ [task] else [] := by
  split
  · rename_i hjoined
    obtain ⟨before, rest, rfl, hfirst⟩ := List.eq_append_cons_of_mem hjoined
    rw [List.append_assoc, List.cons_append, afterJoin_append_cons hfirst,
      afterJoin_append_cons hfirst]
  · rename_i habsent
    by_cases hjoins : task = .join subscriber
    · rw [hjoins, afterJoin_append_cons habsent]
    · exact afterJoin_of_not_mem (by simp [habsent, Ne.symm hjoins])

theorem mem_afterJoin_snoc {last : HubTask} :
    task ∈ afterJoin subscriber (tasks ++ [last]) ↔
      task ∈ afterJoin subscriber tasks ∨ .join subscriber ∈ tasks ∧
      task = last := by
  rw [afterJoin_snoc]
  split
  · next hjoined => simp [hjoined]
  · next habsent => simp [habsent, afterJoin_of_not_mem habsent]

theorem takeWhile_snoc (task : HubTask) (keeps : HubTask → Bool) :
    (tasks ++ [task]).takeWhile keeps =
      tasks.takeWhile keeps ++
        if tasks.all keeps && keeps task then [task] else [] := by
  induction tasks with
  | nil => cases hkept : keeps task <;> simp [hkept]
  | cons first rest ih => cases hkept : keeps first <;> simp [hkept, ih]

theorem eventFor?_of_not_keeps (hends : keeps subscriber task = false) :
    eventFor? subscriber task = none := by
  cases task <;> simp_all [keeps, eventFor?]

theorem addressed_snoc (task : HubTask) :
    addressed subscriber (tasks ++ [task]) = addressed subscriber tasks ++
      if belongs subscriber tasks then (eventFor? subscriber task).toList
      else [] := by
  rw [addressed, afterJoin_snoc, belongs]
  split
  · rename_i hjoined
    rw [takeWhile_snoc, List.filterMap_append, List.contains_iff_mem.2 hjoined]
    cases hkept : keeps subscriber task with
    | true =>
        cases (afterJoin subscriber tasks).all (keeps subscriber) with
        | true =>
            cases htaken :
              eventFor? subscriber task <;> simp [addressed, htaken]
        | false => simp [addressed]
    | false => simp [addressed, eventFor?_of_not_keeps hkept]
  · rename_i habsent
    simp [addressed, afterJoin_of_not_mem habsent, habsent]

theorem removed_iff :
    .join subscriber ∈ tasks ∧ belongs subscriber tasks = false ↔
      ∃ task, (task = .leave subscriber ∨ task = .close) ∧
        task ∈ afterJoin subscriber tasks := by
  by_cases hjoined : .join subscriber ∈ tasks
  · simp [belongs, keeps, hjoined, and_comm, or_comm, imp_iff_not_or]
  · simp [hjoined, afterJoin_of_not_mem hjoined]

theorem belongs_snoc (task : HubTask)
    (hfresh : task = .join subscriber → .join subscriber ∉ tasks) :
    belongs subscriber (tasks ++ [task]) =
      (decide (task = .join subscriber) ||
        belongs subscriber tasks && keeps subscriber task) := by
  rw [belongs, afterJoin_snoc, belongs]
  by_cases hjoined : .join subscriber ∈ tasks
  · have hother : task ≠ .join subscriber := fun hsame => hfresh hsame hjoined
    simp [hjoined, hother, Bool.and_comm]
  · by_cases hjoins : task = .join subscriber
    · simp [hjoined, hjoins]
    · simp [hjoined, hjoins, Ne.symm hjoins]

end HubTask

/-! ## The share of one subscriber -/

/-- The part of a run that concerns one subscriber. -/
structure Share where
  /-- The events that the subscriber has read. -/
  received : List Event
  queue : EventQueue
  /-- The steps left of the running task that are about the subscriber. -/
  errands : List HubStep
  member : Bool

/-- The events that were queued for the subscriber, read or not. -/
def Share.kept (share : Share) : List Event :=
  share.received ++ share.queue.events

/-- The events that the running task has yet to offer. -/
def Share.due (share : Share) : List Event :=
  share.errands.filterMap HubStep.event?

/-- What a task is to do for a subscriber. -/
def HubTask.errands (subscriber : Nat) (member : Bool) : HubTask → List HubStep
  | .join other => if other = subscriber then [.join subscriber] else []
  | .leave other => if other = subscriber then [.remove subscriber] else []
  | .broadcast event => if member then [.offer event subscriber] else []
  | .sendTo other event =>
      if other = subscriber ∧ member then [.offer event subscriber] else []
  | .close => if member then [.remove subscriber] else []

theorem filter_map_steps (step : Nat → HubStep)
    (habout : ∀ number, (step number).subscriber = number) (members : List Nat)
    (subscriber : Nat) :
    (members.map step).filter (·.subscriber = subscriber) =
      List.replicate (members.count subscriber) (step subscriber) := by
  induction members with
  | nil => rfl
  | cons first rest ih =>
      by_cases hsame : first = subscriber
      · subst hsame
        simp [habout, ih, List.replicate_succ]
      · simp [habout, ih, hsame]

theorem HubTask.filter_steps {members : List Nat} {subscriber : Nat}
    (honce : members.count subscriber = if subscriber ∈ members then 1 else 0)
    (task : HubTask) :
    (task.steps members).filter (·.subscriber = subscriber) =
      task.errands subscriber (members.contains subscriber) := by
  cases task with
  | join other =>
      by_cases hsame : other = subscriber <;> simp [steps, errands, hsame]
  | leave other =>
      by_cases hsame : other = subscriber <;> simp [steps, errands, hsame]
  | broadcast event =>
      rw [steps, filter_map_steps _ fun _ => rfl, honce]
      by_cases hmem : subscriber ∈ members <;> simp [errands, hmem]
  | sendTo other event =>
      by_cases hsame : other = subscriber
      · subst hsame
        by_cases hmem : other ∈ members <;> simp [steps, errands, hmem]
      · by_cases hmem : other ∈ members <;> simp [steps, errands, hsame, hmem]
  | close =>
      rw [steps, filter_map_steps _ fun _ => rfl, honce]
      by_cases hmem : subscriber ∈ members <;> simp [errands, hmem]

/-- Reading and dropping a stream changes nothing else than these. -/
structure Share.Same (first second : Share) : Prop where
  kept : first.kept = second.kept
  sending : first.queue.sending = second.queue.sending
  errands : first.errands = second.errands
  member : first.member = second.member

namespace Traffic

variable {traffic after : Traffic} {move : Move} {subscriber other : Nat}

def share (traffic : Traffic) (subscriber : Nat) : Share where
  received := traffic.received subscriber
  queue := traffic.hub.queueOf subscriber
  errands := traffic.agenda.filter (·.subscriber = subscriber)
  member := traffic.hub.members.contains subscriber

@[simp] theorem share_dispatch (task : HubTask) :
    (traffic.dispatch task).share subscriber = traffic.share subscriber := rfl

theorem share_changeQueue_of_ne (change : EventQueue → EventQueue)
    (hne : other ≠ subscriber) :
    ({ traffic with
        hub := traffic.hub.changeQueue other change } : Traffic).share
          subscriber =
      traffic.share subscriber := by
  simp [share, Hub.queueOf_changeQueue, hne]

/-- What callers and clients do moves an event from the queue to the reader at
most. -/
theorem same_of_acted (hacted : traffic.Acted move after)
    (hwork : move ≠ .work) :
    (after.share subscriber).Same (traffic.share subscriber) ∧
      after.begun = traffic.begun := by
  cases hacted with
  | nothing => exact ⟨⟨rfl, rfl, rfl, rfl⟩, rfl⟩
  | subscribed =>
      rw [share_dispatch]
      exact ⟨⟨by simp [Share.kept, share], by simp [share], rfl, rfl⟩, rfl⟩
  | dispatched => exact ⟨⟨rfl, rfl, rfl, rfl⟩, rfl⟩
  | dropped other hpresent =>
      have hqueue := @Hub.queueOf_changeQueue traffic.hub other subscriber
        fun queue => { queue with receiving := false }
      rw [share_dispatch]
      refine ⟨⟨?_, ?_, rfl, rfl⟩, rfl⟩
      · simp only [Share.kept, share, hqueue]
        split <;> rfl
      · simp only [share, hqueue]
        split <;> rfl
  | received other hpresent event rest hqueued =>
      have hqueue := @Hub.queueOf_changeQueue traffic.hub other subscriber
        fun queue => { queue with events := rest }
      refine ⟨⟨?_, ?_, rfl, rfl⟩, rfl⟩
      · have hknown := Hub.known_of_not_isDropped hpresent
        by_cases hsame : other = subscriber
        · subst hsame
          simp [Share.kept, share, hqueue, hknown, hqueued]
        · simp [Share.kept, share, hqueue, hsame, Ne.symm hsame]
      · simp only [share, hqueue]
        split <;> rfl
  | performed => contradiction
  | began => contradiction

/-- A step of the running task about another subscriber. -/
theorem share_performed_of_ne {step : HubStep} {rest left : List HubStep}
    {hub : Hub} (hagenda : traffic.agenda = step :: rest)
    (hperformed : traffic.hub.Performed rest step (hub, left))
    (hne : step.subscriber ≠ subscriber) :
    ({ traffic with hub := hub, agenda := left } : Traffic).share subscriber =
      traffic.share subscriber := by
  cases hperformed with
  | joined other =>
      rw [HubStep.subscriber_join] at hne
      simp [share, hagenda, hne, Ne.symm hne]
  | queued event other htakes =>
      rw [HubStep.subscriber_offer] at hne
      simp [share, hagenda, hne, Hub.queueOf_changeQueue]
  | refused event other hrefuses =>
      rw [HubStep.subscriber_offer] at hne
      simp [share, hagenda, hne]
  | removed other hmem =>
      rw [HubStep.subscriber_remove] at hne
      simp [share, hagenda, hne, Ne.symm hne, Hub.queueOf_without]
  | missing other habsent =>
      rw [HubStep.subscriber_remove] at hne
      simp [share, hagenda, hne]

/-- The subscriber that a move is about. -/
def actor? (traffic : Traffic) : Move → Option Nat
  | .drop subscriber | .read subscriber => some subscriber
  | .work => traffic.agenda.head?.map HubStep.subscriber
  | _ => none

theorem share_acted_of_ne (hacted : traffic.Acted move after)
    (hactor : traffic.actor? move = some other) (hne : other ≠ subscriber) :
    after.share subscriber = traffic.share subscriber := by
  cases hacted with
  | nothing => rfl
  | subscribed => simp [actor?] at hactor
  | dispatched => rfl
  | dropped client hpresent =>
      obtain rfl : client = other := by simpa [actor?] using hactor
      rw [share_dispatch, share_changeQueue_of_ne _ hne]
  | received client hpresent event rest hqueued =>
      obtain rfl : client = other := by simpa [actor?] using hactor
      simp [share, Hub.queueOf_changeQueue, hne, Ne.symm hne]
  | performed step rest hagenda hub left hperformed =>
      obtain rfl : step.subscriber = other := by
        simpa [actor?, hagenda] using hactor
      exact share_performed_of_ne hagenda hperformed hne
  | began task tasks hagenda hwaiting => simp [actor?, hagenda] at hactor

end Traffic

end HttpEngine
