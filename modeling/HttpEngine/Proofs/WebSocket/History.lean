import HttpEngine.WebSocket.Session
import Mathlib.Data.List.Count
import Mathlib.Data.List.Induction

/-!
# What a history says

What happens in a session is kept in order, and read: which listeners there
were, what arrived, was given, accepted and written.  A history is lawful if
nothing in it comes too early or too late: `Allowed` says what may follow.
-/

namespace HttpEngine.WebSocket

/-- Listeners are numbered from 0, those for messages and those for the end
apart. -/
inductive Happening where
  | listened (scope : Scope) (acts : List Act)
  | awaited (acts : List Act)
  | accepted (item : Outgoing)
  | refused (item : Outgoing)
  | arrived (incoming : Incoming)
  | given (listener : Nat) (message : Message)
  | written (item : Outgoing)
  | ended
  | parted (listener : Nat)
  deriving Repr

/-- The numbers of the listeners that hear a message. -/
def recipients (listeners : List (Scope × List Act)) (message : Message) :
    List Nat :=
  listeners.findIdxs fun listener => listener.1.hears message

namespace Happening

@[simp] def listener? : Happening → Option (Scope × List Act)
  | .listened scope acts => some (scope, acts)
  | _ => none

@[simp] def farewell? : Happening → Option (List Act)
  | .awaited acts => some acts
  | _ => none

@[simp] def incoming? : Happening → Option Incoming
  | .arrived incoming => some incoming
  | _ => none

@[simp] def delivery? : Happening → Option (Nat × Message)
  | .given listener message => some (listener, message)
  | _ => none

@[simp] def accepted? : Happening → Option Outgoing
  | .accepted item => some item
  | _ => none

@[simp] def written? : Happening → Option Outgoing
  | .written item => some item
  | _ => none

@[simp] def parting? : Happening → Option Nat
  | .parted listener => some listener
  | _ => none

/-- What a happening makes due, by the listeners there are. -/
@[simp] def due (listeners : List (Scope × List Act)) :
    Happening → List (Nat × Message)
  | .arrived (.message message) =>
      (recipients listeners message).map (·, message)
  | _ => []

end Happening

namespace History

variable {history before after : List Happening} {event : Happening}

section

variable {α : Type} (read : Happening → Option α)

def readings (history : List Happening) : List α := history.filterMap read

@[simp] theorem readings_nil : readings read [] = [] := rfl

@[simp] theorem readings_cons (event : Happening) (history : List Happening) :
    readings read (event :: history) =
      (read event).toList ++ readings read history := by
  rw [readings, List.filterMap_cons]
  cases read event <;> rfl

@[simp] theorem readings_append (history more : List Happening) :
    readings read (history ++ more) =
      readings read history ++ readings read more :=
  List.filterMap_append

theorem readings_snoc_of_eq_none {event : Happening} (hnone : read event = none)
    (history : List Happening) :
    readings read (history ++ [event]) = readings read history := by
  rw [readings_append, readings_cons, hnone]
  exact List.append_nil _

end

/-- The listeners for messages, by their numbers. -/
abbrev listeners : List Happening → List (Scope × List Act) :=
  readings Happening.listener?

/-- The listeners for the end, by their numbers. -/
abbrev farewells : List Happening → List (List Act) :=
  readings Happening.farewell?

abbrev arrivals : List Happening → List Incoming :=
  readings Happening.incoming?

abbrev deliveries : List Happening → List (Nat × Message) :=
  readings Happening.delivery?

abbrev accepted : List Happening → List Outgoing :=
  readings Happening.accepted?

abbrev written : List Happening → List Outgoing := readings Happening.written?

/-- The listeners that have been notified of the end. -/
abbrev partings : List Happening → List Nat := readings Happening.parting?

/-- The deliveries that are due where every message goes to the listeners
registered when it arrives, of which there are some at first. -/
@[simp] def dueAfter (listeners : List (Scope × List Act)) :
    List Happening → List (Nat × Message)
  | [] => []
  | event :: rest =>
      event.due listeners ++ dueAfter (listeners ++ event.listener?.toList) rest

def due (history : List Happening) : List (Nat × Message) := dueAfter [] history

theorem dueAfter_append (first : List (Scope × List Act))
    (history more : List Happening) :
    dueAfter first (history ++ more) =
      dueAfter first history ++ dueAfter (first ++ listeners history) more := by
  induction history generalizing first with
  | nil => simp
  | cons event history ih => simp [ih]

@[simp] theorem due_append (history more : List Happening) :
    due (history ++ more) =
      due history ++ dueAfter (listeners history) more := by
  simp [due, dueAfter_append]

/-! ## Lawful histories -/

def Allowed (before : List Happening) : Happening → Prop
  | .listened _ _ | .awaited _ => True
  | .accepted _ | .arrived _ | .given _ _ | .written _ | .ended =>
      .ended ∉ before
  | .refused _ => .ended ∈ before
  | .parted listener =>
      .ended ∈ before ∧ listener < (farewells before).length ∧
        listener ∉ partings before

def Lawful (history : List Happening) : Prop :=
  ∀ before event after,
    history = before ++ event :: after → Allowed before event

/-- A listener for the end that is registered after it is notified at once. -/
def Prompt (history : List Happening) : Prop :=
  ∀ before acts after,
    history = before ++ .awaited acts :: after → .ended ∈ before →
      ∃ rest, after = .parted (farewells before).length :: rest

theorem eq_append_cons_of_snoc {other : Happening}
    (hcut : history ++ [other] = before ++ event :: after) :
    after = [] ∧ history = before ∧ other = event ∨
      ∃ rest, after = rest ++ [other] ∧ history = before ++ event :: rest := by
  rcases after.eq_nil_or_concat with rfl | ⟨rest, last, rfl⟩
  · obtain ⟨hsame, hlast⟩ := List.append_inj' hcut rfl
    exact .inl ⟨rfl, hsame, List.singleton_inj.1 hlast⟩
  · rw [List.concat_eq_append, ← List.cons_append, ← List.append_assoc] at hcut
    obtain ⟨hsame, hlast⟩ := List.append_inj' hcut rfl
    refine .inr ⟨rest, ?_, hsame⟩
    rw [List.concat_eq_append, List.singleton_inj.1 hlast]

theorem Lawful.snoc (hlawful : Lawful history)
    (hallowed : Allowed history event) : Lawful (history ++ [event]) := by
  intro before other after hcut
  rcases eq_append_cons_of_snoc hcut with ⟨-, rfl, rfl⟩ | ⟨rest, -, hsame⟩
  · exact hallowed
  · exact hlawful before other rest hsame

theorem Prompt.snoc (hprompt : Prompt history)
    (hother : ∀ acts, event ≠ .awaited acts) : Prompt (history ++ [event]) := by
  intro before acts after hcut hended
  rcases eq_append_cons_of_snoc hcut with ⟨-, -, hsame⟩ | ⟨rest, rfl, hsame⟩
  · exact absurd hsame (hother acts)
  · obtain ⟨more, hfound⟩ := hprompt before acts rest hsame hended
    exact ⟨more ++ [event], by rw [hfound, List.cons_append]⟩

theorem Prompt.awaited (hprompt : Prompt history) (hrunning : .ended ∉ history)
    (acts : List Act) : Prompt (history ++ [.awaited acts]) := by
  intro before others after hcut hended
  rcases eq_append_cons_of_snoc hcut with ⟨-, rfl, -⟩ | ⟨rest, -, rfl⟩
  · exact absurd hended hrunning
  · exact absurd (List.mem_append_left _ hended) hrunning

theorem Prompt.notified (hprompt : Prompt history) (acts : List Act) :
    Prompt (history ++
      [.awaited acts, .parted (farewells history).length]) := by
  intro before others after hcut hended
  rw [← List.singleton_append, ← List.append_assoc] at hcut
  rcases eq_append_cons_of_snoc hcut with ⟨-, -, hsame⟩ | ⟨rest, rfl, hfirst⟩
  · contradiction
  · rcases eq_append_cons_of_snoc hfirst with ⟨rfl, rfl, -⟩ | ⟨rest, rfl, hsame⟩
    · exact ⟨[], rfl⟩
    · obtain ⟨more, hfound⟩ := hprompt before others rest hsame hended
      refine ⟨more ++ [.awaited acts] ++ [.parted (farewells history).length],
        ?_⟩
      simp [hfound]

end History

end HttpEngine.WebSocket
