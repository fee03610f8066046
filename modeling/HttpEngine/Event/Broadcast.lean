import HttpEngine.Event.Basic

/-!
# Broadcasting events

A hub gives each subscriber a queue of its own.  Joining, leaving and sending
are tasks that run one at a time in the order in which they were dispatched.  A
subscriber that is gone or whose queue is full when an event comes for it is
removed; what its queue holds can still be read.
-/

namespace HttpEngine

/-! ## Queues -/

/-- The queue between the hub and one subscriber. -/
structure EventQueue where
  events : List Event
  /-- The hub has not let go of the sending end. -/
  sending : Bool
  /-- The stream at the receiving end has not been dropped. -/
  receiving : Bool
  deriving DecidableEq, Repr

namespace EventQueue

def new : EventQueue := ⟨[], true, true⟩

/-- Queues an event if the subscriber is there and not too far behind. -/
def offer? (queue : EventQueue) (capacity : Nat) (event : Event) :
    Option EventQueue :=
  if queue.receiving ∧ queue.events.length < capacity then
    some { queue with events := queue.events ++ [event] }
  else none

end EventQueue

/-! ## Hubs -/

inductive HubTask where
  | join (subscriber : Nat)
  | leave (subscriber : Nat)
  | broadcast (event : Event)
  | sendTo (subscriber : Nat) (event : Event)
  | close
  deriving DecidableEq, Repr

/-- Called with the subscriber that joined or left: it leaves a note,
or panics. -/
structure HubHook where
  label : String
  panicsFor : Nat → Bool

structure Hub where
  capacity : Nat
  joinHooks : List HubHook
  leaveHooks : List HubHook
  /-- The queues of all subscribers there ever were, by number. -/
  queues : List EventQueue
  /-- The subscribers in the order in which they joined. -/
  members : List Nat
  /-- Tasks that have been dispatched and have not run. -/
  tasks : List HubTask
  notes : List String

namespace Hub

/-- Events a subscriber may fall behind unless another number is asked for. -/
def standardCapacity : Nat := 1024

/-- A queue holds at least one event. -/
def new (capacity : Nat) (joinHooks leaveHooks : List HubHook) : Hub :=
  ⟨max capacity 1, joinHooks, leaveHooks, [], [], [], []⟩

def count (hub : Hub) : Nat := hub.members.length

def changeQueue (hub : Hub) (subscriber : Nat)
    (change : EventQueue → EventQueue) : Hub :=
  { hub with queues := hub.queues.modify subscriber change }

/-- Runs hooks up to the first one that panics, and says whether one did. -/
def runHooks (hub : Hub) (subscriber : Nat) : List HubHook → Hub × Bool
  | [] => (hub, false)
  | hook :: rest =>
      if hook.panicsFor subscriber then (hub, true)
      else
        { hub with
          notes :=
            hub.notes ++ [hook.label ++ " " ++ toString subscriber] }.runHooks
          subscriber rest

/-- Removes a member, ends its queue and runs the hooks for those who leave. -/
def remove (hub : Hub) (subscriber : Nat) : Hub × Bool :=
  if hub.members.contains subscriber then
    let hub := { hub with members := hub.members.filter (· != subscriber) }
    let hub :=
      hub.changeQueue subscriber fun queue => { queue with sending := false }
    hub.runHooks subscriber hub.leaveHooks
  else (hub, false)

/-- Removes members in order, up to the first one for which a hook panics. -/
def removeAll (hub : Hub) : List Nat → Hub × Bool
  | [] => (hub, false)
  | subscriber :: rest =>
      match hub.remove subscriber with
      | (hub, true) => (hub, true)
      | (hub, false) => hub.removeAll rest

/-- Offers an event to a member, and says whether it was queued. -/
def offer (hub : Hub) (event : Event) (subscriber : Nat) : Hub × Bool :=
  match (hub.queues[subscriber]?).bind (·.offer? hub.capacity event) with
  | some queue => (hub.changeQueue subscriber fun _ => queue, true)
  | none => (hub, false)

/-- Offers an event to members in order; those that did not take it
are listed. -/
def offerAll (hub : Hub) (event : Event) : List Nat → Hub × List Nat
  | [] => (hub, [])
  | subscriber :: rest =>
      let (hub, taken) := hub.offer event subscriber
      let (hub, refused) := hub.offerAll event rest
      (hub, if taken then refused else subscriber :: refused)

/-- Runs one task, and says whether a hook panicked and cut it short. -/
def runTask (hub : Hub) : HubTask → Hub × Bool
  | .join subscriber =>
      let hub := { hub with members := hub.members ++ [subscriber] }
      hub.runHooks subscriber hub.joinHooks
  | .leave subscriber => hub.remove subscriber
  | .broadcast event =>
      let (hub, refused) := hub.offerAll event hub.members
      hub.removeAll refused
  | .sendTo subscriber event =>
      if hub.members.contains subscriber then
        match hub.offer event subscriber with
        | (hub, true) => (hub, false)
        | (hub, false) => hub.remove subscriber
      else (hub, false)
  | .close => hub.removeAll hub.members

/-! ## Operations -/

def dispatch (hub : Hub) (task : HubTask) : Hub :=
  { hub with tasks := hub.tasks ++ [task] }

/-- Runs the task that was dispatched first; a panic ends the task and nothing
else. -/
def runNext (hub : Hub) : Hub :=
  match hub.tasks with
  | [] => hub
  | task :: rest => ({ hub with tasks := rest }.runTask task).1

/-- Runs all tasks that have been dispatched; running a task dispatches none. -/
def settle (hub : Hub) : Hub := hub.tasks.foldl (fun hub _ => hub.runNext) hub

/-- The number of the next subscriber, and the hub in which it is about
to join. -/
def subscribe (hub : Hub) : Hub × Nat :=
  let subscriber := hub.queues.length
  ({ hub with queues := hub.queues ++ [EventQueue.new] }.dispatch
    (.join subscriber), subscriber)

/-- The response that the subscriber gets. -/
def response (subscriber : Nat) : Response :=
  Event.streamResponse.withBody (.stream (.subscription subscriber))

/-- There is no stream of that subscriber any more, or none yet. -/
def isDropped (hub : Hub) (subscriber : Nat) : Bool :=
  match hub.queues[subscriber]? with
  | some queue => !queue.receiving
  | none => true

/-- Drops the stream of a subscriber, unless that has happened before. -/
def dropStream (hub : Hub) (subscriber : Nat) : Hub :=
  match hub.queues[subscriber]? with
  | some queue =>
      if queue.receiving then
        (hub.changeQueue subscriber
          fun queue => { queue with receiving := false }).dispatch
            (.leave subscriber)
      else hub
  | none => hub

/-- What a stream has for its reader. -/
inductive Poll where
  | event (event : Event)
  | pending
  | finished
  deriving DecidableEq, Repr

/-- Takes the next event of a subscriber; the stream ends after a queue that is
no longer sent to. -/
def read (hub : Hub) (subscriber : Nat) : Hub × Poll :=
  match hub.queues[subscriber]? with
  | none => (hub, .finished)
  | some queue =>
      match queue.events with
      | event :: rest =>
          (hub.changeQueue subscriber fun queue =>
            { queue with events := rest }, .event event)
      | [] => (hub, if queue.sending then .pending else .finished)

/-- Reads at most `most` events, and says whether the end of the stream was
found. -/
def readUpTo (hub : Hub) (subscriber : Nat) : Nat → Hub × List Event × Bool
  | 0 => (hub, [], false)
  | most + 1 =>
      match hub.read subscriber with
      | (hub, .event event) =>
          let (hub, events, ended) := hub.readUpTo subscriber most
          (hub, event :: events, ended)
      | (hub, .pending) => (hub, [], false)
      | (hub, .finished) => (hub, [], true)

/-- Reads all that is ready. -/
def readReady (hub : Hub) (subscriber : Nat) : Hub × List Event × Bool :=
  hub.readUpTo subscriber
    (((hub.queues[subscriber]?).map (·.events.length)).getD 0 + 1)

def describe (hub : Hub) : String :=
  "EventBroadcast \x7b subscribers: " ++ toString hub.count ++ " \x7d"

end Hub

end HttpEngine
