import HttpEngine.Proofs.Event.Hub
import Mathlib.Logic.Function.Iterate

/-!
# A hub among its clients

Tasks run one at a time, but clients do not wait for a task to end: between two
offers of one broadcast a client may read its queue or drop its stream.  A task
is therefore taken apart into the steps that nothing can come between, and a run
is any sequence of such steps and of what callers and clients do.  `runTask` is
what the steps of a task amount to when nothing comes between them.
-/

namespace HttpEngine

/-! ## The steps of a task -/

inductive HubStep where
  | join (subscriber : Nat)
  | offer (event : Event) (subscriber : Nat)
  | remove (subscriber : Nat)
  deriving DecidableEq, Repr

namespace HubStep

def subscriber : HubStep → Nat
  | .join subscriber | .offer _ subscriber | .remove subscriber => subscriber

def event? : HubStep → Option Event
  | .offer event _ => some event
  | _ => none

variable (number : Nat) (event : Event)

@[simp] theorem subscriber_join : (join number).subscriber = number := rfl

@[simp] theorem subscriber_offer : (offer event number).subscriber = number :=
  rfl

@[simp] theorem subscriber_remove : (remove number).subscriber = number := rfl

end HubStep

/-- What a task sets out to do, by the members there are when it begins. -/
def HubTask.steps (members : List Nat) : HubTask → List HubStep
  | .join subscriber => [.join subscriber]
  | .leave subscriber => [.remove subscriber]
  | .broadcast event => members.map (.offer event)
  | .sendTo subscriber event =>
      if members.contains subscriber then [.offer event subscriber] else []
  | .close => members.map .remove

namespace Hub

/-- Performs one step of a task, of which `rest` is left.  A member that does
not take an event is removed at the end of the task; a hook that panics ends the
task. -/
def perform (hub : Hub) (rest : List HubStep) : HubStep → Hub × List HubStep
  | .join subscriber =>
      let (hub, panicked) :=
        { hub with members := hub.members ++ [subscriber] }.runHooks subscriber
          hub.joinHooks
      (hub, if panicked then [] else rest)
  | .offer event subscriber =>
      let (hub, taken) := hub.offer event subscriber
      (hub, if taken then rest else rest ++ [.remove subscriber])
  | .remove subscriber =>
      let (hub, panicked) := hub.remove subscriber
      (hub, if panicked then [] else rest)

/-- The next step of the task, if any is left. -/
def advance : Hub × List HubStep → Hub × List HubStep
  | (hub, []) => (hub, [])
  | (hub, step :: rest) => hub.perform rest step

/-! ### A task without interruption -/

theorem advance_removals (subscribers : List Nat) (hub : Hub) :
    ∃ count, advance^[count] (hub, subscribers.map .remove) =
      ((hub.removeAll subscribers).1, []) := by
  induction subscribers generalizing hub with
  | nil => exact ⟨0, rfl⟩
  | cons subscriber rest ih =>
      rcases hremoved : hub.remove subscriber with ⟨after, panicked⟩
      cases panicked with
      | true => exact ⟨1, by simp [advance, perform, hremoved, removeAll]⟩
      | false =>
          obtain ⟨count, hdone⟩ := ih after
          refine ⟨count + 1, ?_⟩
          rw [Function.iterate_succ_apply]
          simpa [advance, perform, hremoved, removeAll] using hdone

/-- Those that were refused before are removed before those that are refused
now. -/
theorem advance_offers (event : Event) (subscribers before : List Nat)
    (hub : Hub) :
    ∃ count, advance^[count]
        (hub, subscribers.map (.offer event) ++ before.map .remove) =
      ((hub.offerAll event subscribers).1,
        (before ++ (hub.offerAll event subscribers).2).map .remove) := by
  induction subscribers generalizing hub before with
  | nil => exact ⟨0, by simp [offerAll]⟩
  | cons subscriber rest ih =>
      rcases hoffered : hub.offer event subscriber with ⟨after, taken⟩
      cases taken with
      | true =>
          obtain ⟨count, hdone⟩ := ih before after
          refine ⟨count + 1, ?_⟩
          rw [Function.iterate_succ_apply]
          simpa [advance, perform, hoffered, offerAll] using hdone
      | false =>
          obtain ⟨count, hdone⟩ := ih (before ++ [subscriber]) after
          refine ⟨count + 1, ?_⟩
          rw [Function.iterate_succ_apply]
          simpa [advance, perform, hoffered, offerAll] using hdone

theorem advance_runTask (hub : Hub) (task : HubTask) :
    ∃ count, advance^[count] (hub, task.steps hub.members) =
      ((hub.runTask task).1, []) := by
  cases task with
  | join subscriber =>
      refine ⟨1, ?_⟩
      simp [advance, perform, HubTask.steps, runTask]
  | leave subscriber =>
      refine ⟨1, ?_⟩
      simp [advance, perform, HubTask.steps, runTask]
  | broadcast event =>
      obtain ⟨offers, hoffered⟩ := advance_offers event hub.members [] hub
      obtain ⟨removals, hremoved⟩ :=
        advance_removals (hub.offerAll event hub.members).2
        (hub.offerAll event hub.members).1
      refine ⟨removals + offers, ?_⟩
      rw [Function.iterate_add_apply]
      simp only [List.map_nil, List.append_nil, List.nil_append] at hoffered
      simp only [HubTask.steps, hoffered, hremoved, runTask]
  | sendTo subscriber event =>
      by_cases hmem : subscriber ∈ hub.members
      · rcases hoffered : hub.offer event subscriber with ⟨after, taken⟩
        cases taken with
        | true =>
            exact ⟨1, by
              simp [advance, perform, HubTask.steps, runTask, hmem, hoffered]⟩
        | false =>
            exact ⟨2, by
              simp [advance, perform, HubTask.steps, runTask, hmem, hoffered]⟩
      · exact ⟨0, by simp [HubTask.steps, runTask, hmem]⟩
  | close => exact advance_removals hub.members hub

/-- All that a step can do where every hook returns normally. -/
inductive Performed (hub : Hub) (rest : List HubStep) :
    HubStep → Hub × List HubStep → Prop
  | joined (subscriber : Nat) :
      Performed hub rest (.join subscriber) (hub.withMember subscriber, rest)
  | queued (event : Event) (subscriber : Nat)
      (htakes : ¬ hub.Refuses subscriber) :
      Performed hub rest (.offer event subscriber)
        (hub.changeQueue subscriber fun _ =>
          { hub.queueOf subscriber with
            events := (hub.queueOf subscriber).events ++ [event] },
          rest)
  | refused (event : Event) (subscriber : Nat)
      (hrefuses : hub.Refuses subscriber) :
      Performed hub rest (.offer event subscriber) (hub,
        rest ++ [.remove subscriber])
  | removed (subscriber : Nat) (hmem : subscriber ∈ hub.members) :
      Performed hub rest (.remove subscriber) (hub.without subscriber, rest)
  | missing (subscriber : Nat) (habsent : subscriber ∉ hub.members) :
      Performed hub rest (.remove subscriber) (hub, rest)

theorem performed_perform {hub : Hub} (hcalm : hub.Calm) (rest : List HubStep)
    (step : HubStep) :
    Performed hub rest step (hub.perform rest step) := by
  cases step with
  | join subscriber =>
      have hhooks :
          ({ hub with members := hub.members ++ [subscriber] } : Hub).Calm :=
            hcalm
      rw [perform, hhooks.runHooks_joinHooks]
      exact .joined subscriber
  | offer event subscriber =>
      by_cases hrefuses : hub.Refuses subscriber
      · rw [perform, offer_of_refuses hrefuses]
        exact .refused event subscriber hrefuses
      · rw [perform, offer_of_not_refuses hrefuses]
        exact .queued event subscriber hrefuses
  | remove subscriber =>
      by_cases hmem : subscriber ∈ hub.members
      · simpa [perform, remove_of_mem hcalm hmem]
          using Performed.removed subscriber hmem
      · simpa [perform, remove_of_not_mem hmem]
          using Performed.missing subscriber hmem

end Hub

/-! ## Runs -/

/-- A hub, the work its worker has in hand, and what has happened so far. -/
structure Traffic where
  hub : Hub
  /-- What is left to do of the task that has begun last. -/
  agenda : List HubStep
  /-- The tasks that were dispatched, in order. -/
  dispatched : List HubTask
  /-- The tasks that have begun, in order. -/
  begun : List HubTask
  /-- The events that each subscriber has read, in order. -/
  received : Nat → List Event

inductive Move where
  | subscribe
  | broadcast (event : Event)
  | sendTo (subscriber : Nat) (event : Event)
  | close
  | drop (subscriber : Nat)
  | read (subscriber : Nat)
  /-- The worker performs the next step of its task, or begins the next task. -/
  | work
  deriving DecidableEq, Repr

namespace Traffic

def start (queue : Nat) (joinHooks leaveHooks : List HubHook) : Traffic :=
  ⟨.new queue joinHooks leaveHooks, [], [], [], fun _ => []⟩

def dispatch (traffic : Traffic) (task : HubTask) : Traffic :=
  { traffic with
    hub := traffic.hub.dispatch task
    dispatched := traffic.dispatched ++ [task] }

/-- A stream that was dropped is neither read nor dropped again. -/
def act (traffic : Traffic) : Move → Traffic
  | .subscribe =>
      { traffic with
        hub := traffic.hub.subscribe.1
        dispatched := traffic.dispatched ++ [.join traffic.hub.subscribe.2] }
  | .broadcast event => traffic.dispatch (.broadcast event)
  | .sendTo subscriber event => traffic.dispatch (.sendTo subscriber event)
  | .close => traffic.dispatch .close
  | .drop subscriber =>
      if traffic.hub.isDropped subscriber then traffic
      else
        { traffic with
          hub := traffic.hub.dropStream subscriber
          dispatched := traffic.dispatched ++ [.leave subscriber] }
  | .read subscriber =>
      if traffic.hub.isDropped subscriber then traffic
      else
        match traffic.hub.read subscriber with
        | (hub, .event event) =>
            { traffic with
              hub := hub
              received := Function.update traffic.received subscriber
                (traffic.received subscriber ++ [event]) }
        | _ => traffic
  | .work =>
      match traffic.agenda, traffic.hub.tasks with
      | step :: rest, _ =>
          { traffic with
            hub := (traffic.hub.perform rest step).1
            agenda := (traffic.hub.perform rest step).2 }
      | [], task :: tasks =>
          { traffic with
            hub := { traffic.hub with tasks := tasks }
            agenda := task.steps traffic.hub.members
            begun := traffic.begun ++ [task] }
      | [], [] => traffic

theorem act_work_of_waiting {traffic : Traffic} {task : HubTask}
    {tasks : List HubTask} (hagenda : traffic.agenda = [])
    (hwaiting : traffic.hub.tasks = task :: tasks) :
    traffic.act .work =
      { traffic with
        hub := { traffic.hub with tasks := tasks }
        agenda := task.steps traffic.hub.members
        begun := traffic.begun ++ [task] } := by
  simp only [act, hagenda, hwaiting]

theorem act_drop_of_present {traffic : Traffic} {subscriber : Nat}
    (hpresent : traffic.hub.isDropped subscriber = false) :
    traffic.act (.drop subscriber) =
      { traffic with
        hub := traffic.hub.changeQueue subscriber
          fun queue =>
            { queue with receiving := false } }.dispatch
              (.leave subscriber) := by
  have hknown := Hub.known_of_not_isDropped hpresent
  have hreceiving : (traffic.hub.queueOf subscriber).receiving = true := by
    simpa [Hub.isDropped_of_known hknown] using hpresent
  simp [act, hpresent, Hub.dropStream, Hub.getElem?_queues hknown,
    hreceiving, dispatch]

theorem act_read (traffic : Traffic) (subscriber : Nat) :
    traffic.act (.read subscriber) = traffic ∨
      traffic.hub.isDropped subscriber = false ∧
        ∃ event rest, (traffic.hub.queueOf subscriber).events = event :: rest ∧
          traffic.act (.read subscriber) =
            { traffic with
              hub := traffic.hub.changeQueue subscriber fun queue =>
                { queue with events := rest }
              received := Function.update traffic.received subscriber
                (traffic.received subscriber ++ [event]) } := by
  cases hpresent : traffic.hub.isDropped subscriber with
  | true => exact .inl (by simp [act, hpresent])
  | false =>
      have hknown := Hub.known_of_not_isDropped hpresent
      cases hqueued : (traffic.hub.queueOf subscriber).events with
      | nil =>
          refine .inl ?_
          cases hsending : (traffic.hub.queueOf subscriber).sending <;>
            simp [act, hpresent, Hub.read, Hub.getElem?_queues hknown,
              hqueued, hsending]
      | cons event rest =>
          refine .inr ⟨rfl, event, rest, rfl, ?_⟩
          simp [act, hpresent, Hub.read, Hub.getElem?_queues hknown, hqueued]

def run (traffic : Traffic) (moves : List Move) : Traffic :=
  moves.foldl act traffic

theorem run_append (traffic : Traffic) (moves more : List Move) :
    traffic.run (moves ++ more) = (traffic.run moves).run more :=
  List.foldl_append

theorem run_snoc (traffic : Traffic) (moves : List Move) (move : Move) :
    traffic.run (moves ++ [move]) = (traffic.run moves).act move :=
  run_append traffic moves [move]

/-- All that a move can do where every hook returns normally. -/
inductive Acted (traffic : Traffic) : Move → Traffic → Prop
  | nothing (move : Move) (hidle : move = .work → traffic.agenda = []) :
      Acted traffic move traffic
  | subscribed :
      Acted traffic .subscribe
        ({ traffic with
            hub := traffic.hub.withQueue }.dispatch
              (.join traffic.hub.queues.length))
  | dispatched (move : Move) (hcalled : move ≠ .work) (task : HubTask)
      (hother : ∀ subscriber, task ≠ .join subscriber) :
      Acted traffic move (traffic.dispatch task)
  | dropped (subscriber : Nat)
      (hpresent : traffic.hub.isDropped subscriber = false) :
      Acted traffic (.drop subscriber)
        ({ traffic with
            hub := traffic.hub.changeQueue subscriber
              fun queue =>
                { queue with receiving := false } }.dispatch
                  (.leave subscriber))
  | received (subscriber : Nat)
      (hpresent : traffic.hub.isDropped subscriber = false) (event : Event)
      (rest : List Event)
      (hqueued : (traffic.hub.queueOf subscriber).events = event :: rest) :
      Acted traffic (.read subscriber)
        { traffic with
          hub := traffic.hub.changeQueue subscriber fun queue =>
            { queue with events := rest }
          received := Function.update traffic.received subscriber
            (traffic.received subscriber ++ [event]) }
  | performed (step : HubStep) (rest : List HubStep)
      (hagenda : traffic.agenda = step :: rest) (hub : Hub)
      (left : List HubStep)
      (hperformed : traffic.hub.Performed rest step (hub, left)) :
      Acted traffic .work { traffic with hub := hub, agenda := left }
  | began (task : HubTask) (tasks : List HubTask)
      (hagenda : traffic.agenda = [])
      (hwaiting : traffic.hub.tasks = task :: tasks) :
      Acted traffic .work
        { traffic with
          hub := { traffic.hub with tasks := tasks }
          agenda := task.steps traffic.hub.members
          begun := traffic.begun ++ [task] }

/-- What callers and clients do runs no hook. -/
theorem acted_of_called (traffic : Traffic) {move : Move}
    (hcalled : move ≠ .work) :
    traffic.Acted move (traffic.act move) := by
  cases move with
  | subscribe => exact .subscribed
  | broadcast event =>
      exact .dispatched _ (by simp) (.broadcast event) (by simp)
  | sendTo target event =>
      exact .dispatched _ (by simp) (.sendTo target event) (by simp)
  | close => exact .dispatched _ (by simp) .close (by simp)
  | drop subscriber =>
      cases hpresent : traffic.hub.isDropped subscriber with
      | true =>
          simpa [act, hpresent] using Acted.nothing (.drop subscriber) nofun
      | false =>
          rw [act_drop_of_present hpresent]
          exact .dropped subscriber hpresent
  | read subscriber =>
      rcases act_read traffic subscriber with
        hunchanged | ⟨hpresent, event, rest, hqueued, htaken⟩
      · rw [hunchanged]
        exact .nothing (.read subscriber) nofun
      · rw [htaken]
        exact .received subscriber hpresent event rest hqueued
  | work => contradiction

theorem act_work_of_agenda {traffic : Traffic} {step : HubStep}
    {rest : List HubStep} (hagenda : traffic.agenda = step :: rest) :
    traffic.act .work =
      { traffic with
        hub := (traffic.hub.perform rest step).1
        agenda := (traffic.hub.perform rest step).2 } := by
  simp only [act, hagenda]

theorem acted_act {traffic : Traffic} (hcalm : traffic.hub.Calm) (move : Move) :
    traffic.Acted move (traffic.act move) := by
  by_cases hcalled : move = .work
  · subst hcalled
    cases hagenda : traffic.agenda with
    | cons step rest =>
        rw [act_work_of_agenda hagenda]
        exact .performed step rest hagenda _ _
          (Hub.performed_perform hcalm rest step)
    | nil =>
        cases hwaiting : traffic.hub.tasks with
        | nil =>
            simpa [act, hagenda, hwaiting]
              using Acted.nothing .work fun _ => hagenda
        | cons task tasks =>
            rw [act_work_of_waiting hagenda hwaiting]
            exact .began task tasks hagenda hwaiting
  · exact acted_of_called traffic hcalled

/-- Work goes on as long as the agenda is not empty, and then the task
is done. -/
theorem work_of_advance (count : Nat) (traffic : Traffic) {after : Hub}
    (hdone : Hub.advance^[count] (traffic.hub, traffic.agenda) = (after, [])) :
    ∃ moves, (act · .work)^[moves] traffic =
      { traffic with hub := after, agenda := [] } := by
  induction count generalizing traffic with
  | zero =>
      obtain ⟨rfl, hempty⟩ := Prod.mk.inj hdone
      exact ⟨0, by rw [← hempty]; rfl⟩
  | succ count ih =>
      rcases traffic with ⟨hub, agenda, dispatched, begun, received⟩
      cases agenda with
      | nil =>
          have hstays : Hub.advance^[count + 1] (hub, []) = (hub, []) :=
            Function.iterate_fixed rfl _
          obtain rfl : hub = after := (Prod.mk.inj (hstays.symm.trans hdone)).1
          exact ⟨0, rfl⟩
      | cons step rest =>
          rw [Function.iterate_succ_apply] at hdone
          obtain ⟨moves, hworked⟩ := ih
            ⟨(hub.perform rest step).1, (hub.perform rest step).2, dispatched,
              begun, received⟩ hdone
          exact ⟨moves + 1, by rw [Function.iterate_succ_apply]; exact hworked⟩

/-- Work that nothing comes between runs the next task as a whole. -/
theorem work_runNext (traffic : Traffic) (hbetween : traffic.agenda = []) :
    ∃ moves, (act · .work)^[moves] traffic =
      { traffic with
        hub := traffic.hub.runNext
        begun := traffic.begun ++ traffic.hub.tasks.head?.toList } := by
  rcases traffic with ⟨hub, agenda, dispatched, begun, received⟩
  obtain rfl : agenda = [] := hbetween
  cases htasks : hub.tasks with
  | nil => exact ⟨0, by simp [Hub.runNext, htasks]⟩
  | cons task rest =>
      obtain ⟨count, hdone⟩ :=
        Hub.advance_runTask { hub with tasks := rest } task
      obtain ⟨moves, hworked⟩ := work_of_advance count
        ⟨{ hub with tasks := rest }, task.steps hub.members, dispatched,
          begun ++ [task], received⟩
        hdone
      refine ⟨moves + 1, ?_⟩
      rw [Function.iterate_succ_apply]
      simpa [act, Hub.runNext, htasks] using hworked

end Traffic

end HttpEngine
