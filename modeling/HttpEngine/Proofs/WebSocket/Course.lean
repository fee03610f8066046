import HttpEngine.Proofs.WebSocket.History
import Mathlib.Data.List.Basic

/-!
# The course of a session

Listeners use the channel while the session runs: they register others, write
and close.  So do other holders of the channel, at any moment.  An operation of
a session is therefore taken apart: it begins with what the session itself does
and leaves tasks, which are to give a message to a listener, to notify one of
the end, or to do one of the acts that this comes to.  One piece of work does
the first task; giving a message to a listener puts the acts of that listener
in front.

A run may be any sequence of moves.  In the course of a session all tasks are
done before the next operation begins.
-/

namespace HttpEngine.WebSocket

/-- What is still to be done, where acts may answer a message. -/
inductive Task where
  | call (message : Option Message) (act : Act)
  | give (listener : Nat) (message : Message) (acts : List Act)
  | part (listener : Nat) (acts : List Act)
  deriving Repr

/-- What happens when a task is begun, other than a call of the channel. -/
@[simp] def Task.happening? : Task → Option Happening
  | .call _ _ => none
  | .give listener message _ => some (.given listener message)
  | .part listener _ => some (.parted listener)

/-- The acts of somebody as tasks. -/
def toDo (message : Option Message) (acts : List Act) : List Task :=
  acts.map (.call message)

/-! ## What a session does -/

/-- The operations of a session: acts on its channel from outside, and what it
does when something has come or can be written. -/
inductive Step where
  | act (acts : List Act)
  | receive (incoming : Incoming)
  | transmit (fails : Bool)
  deriving Repr

@[simp] def Step.incoming? : Step → Option Incoming
  | .receive incoming => some incoming
  | _ => none

namespace Session

def perform (session : Session) : Step → Session
  | .act acts => session.act acts
  | .receive incoming => session.receive incoming
  | .transmit fails => session.transmit fails

def following (script : Script) (steps : List Step) : Session :=
  steps.foldl perform (.ofScript script)

/-- What comes before the end. -/
def arrived (session : Session) : List Step → List Incoming
  | [] => []
  | step :: rest =>
      let taken := if session.ended then [] else step.incoming?.toList
      taken ++ (session.perform step).arrived rest

theorem arrived_snoc (session : Session) (steps : List Step) (step : Step) :
    session.arrived (steps ++ [step]) = session.arrived steps ++
      if (steps.foldl perform session).ended then []
      else step.incoming?.toList := by
  induction steps generalizing session with
  | nil => exact List.append_nil _
  | cons first steps ih =>
      rw [List.cons_append, arrived, ih, arrived, List.append_assoc]
      rfl

end Session

/-! ## Calls of the channel -/

/-- What an act that writes or closes sends. -/
def Act.item? (message : Option Message) : Act → Option Outgoing
  | .text content => some (.message (.text content))
  | .binary content => some (.message (.binary content))
  | .echo before =>
      message.map fun message => .message (Channel.echoOf before message)
  | .close => some .close
  | _ => none

namespace Channel

variable {channel : Channel} {message : Option Message} {act : Act}

/-- An act as one call, without the acts of a listener that is notified at
once. -/
def call (message : Option Message) (channel : Channel) : Act → Channel
  | .onDisconnect acts =>
      if channel.disconnected then channel
      else channel.perform message (.onDisconnect acts)
  | act => channel.perform message act

/-- What a call leaves to be done: the acts of a listener notified at once. -/
def followUps (channel : Channel) : Act → List Task
  | .onDisconnect acts => if channel.disconnected then toDo none acts else []
  | _ => []

/-- What happens in a call; a listener for the end would have the next
number. -/
def happenings (message : Option Message) (channel : Channel) (next : Nat) :
    Act → List Happening
  | .listen scope acts => [.listened scope acts]
  | .onDisconnect acts =>
      if channel.disconnected then [.awaited acts, .parted next]
      else [.awaited acts]
  | act =>
      match act.item? message with
      | some item =>
          [if channel.disconnected then .refused item else .accepted item]
      | none => []

def shut (channel : Channel) : Channel :=
  { channel with disconnected := true, listeners := [], farewells := [] }

/-- What a message that has come leaves to be done: it is given to the
listeners that hear it, in the order of their registration. -/
def deliveriesFrom (message : Message) (first : Nat) :
    List (Scope × List Act) → List Task
  | [] => []
  | (scope, acts) :: rest =>
      let later := deliveriesFrom message (first + 1) rest
      if scope.hears message then .give first message acts :: later else later

def deliveries (channel : Channel) (message : Message) : List Task :=
  deliveriesFrom message 0 channel.listeners

/-- What the end leaves to be done: all listeners for it are notified. -/
def partingsFrom (first : Nat) : List (List Act) → List Task
  | [] => []
  | acts :: rest => .part first acts :: partingsFrom (first + 1) rest

def partings (channel : Channel) : List Task :=
  partingsFrom 0 channel.farewells

/-- All that a call can do, what happens in it, and what it leaves. -/
inductive Called (channel : Channel) (next : Nat) :
    Option Message → Act → Channel → List Happening → List Task → Prop
  | listened (message : Option Message) (scope : Scope) (acts : List Act) :
      Called channel next message (.listen scope acts)
        { channel with listeners := channel.listeners ++ [(scope, acts)] }
        [.listened scope acts] []
  | awaited (message : Option Message) (acts : List Act)
      (hopen : channel.disconnected = false) :
      Called channel next message (.onDisconnect acts)
        { channel with farewells := channel.farewells ++ [acts] }
        [.awaited acts] []
  | notified (message : Option Message) (acts : List Act)
      (hclosed : channel.disconnected = true) :
      Called channel next message (.onDisconnect acts) channel
        [.awaited acts, .parted next] (toDo none acts)
  | accepted (message : Option Message) (act : Act) (item : Outgoing)
      (hsends : act.item? message = some item)
      (hopen : channel.disconnected = false) :
      Called channel next message act
        { channel with outgoing := channel.outgoing ++ [item] }
        [.accepted item] []
  | refused (message : Option Message) (act : Act) (item : Outgoing)
      (name : String) (hsends : act.item? message = some item)
      (hclosed : channel.disconnected = true) :
      Called channel next message act
        (channel.note (name ++ " failed: " ++ closedMessage))
        [.refused item] []
  | noted (message : Option Message) (act : Act)
      (hsends : act.item? message = none) (notes : List String) :
      Called channel next message act { channel with notes := notes } [] []

theorem called_call (message : Option Message) (channel : Channel) (next : Nat)
    (act : Act) :
    channel.Called next message act (channel.call message act)
      (channel.happenings message next act) (channel.followUps act) := by
  have hsent (act : Act) (name : String) (item : Outgoing)
      (hsends : act.item? message = some item)
      (hcall : channel.call message act = channel.send name item)
      (hhappens : channel.happenings message next act =
        [if channel.disconnected then .refused item else .accepted item])
      (hleaves : channel.followUps act = []) :
      channel.Called next message act (channel.call message act)
        (channel.happenings message next act) (channel.followUps act) := by
    rw [hcall, hhappens, hleaves, send]
    by_cases hclosed : channel.disconnected
    · rw [if_pos hclosed, if_pos hclosed]
      exact .refused message act item name hsends hclosed
    · rw [if_neg hclosed, if_neg hclosed]
      exact .accepted message act item hsends (Bool.eq_false_iff.2 hclosed)
  have hsilent (act : Act) (notes : List String)
      (hsends : act.item? message = none)
      (hcall : channel.call message act = { channel with notes := notes })
      (hhappens : channel.happenings message next act = [])
      (hleaves : channel.followUps act = []) :
      channel.Called next message act (channel.call message act)
        (channel.happenings message next act) (channel.followUps act) := by
    rw [hcall, hhappens, hleaves]
    exact .noted message act hsends notes
  cases act with
  | note text => exact hsilent _ _ rfl rfl rfl rfl
  | text content => exact hsent _ "text" _ rfl rfl rfl rfl
  | binary content => exact hsent _ "binary" _ rfl rfl rfl rfl
  | echo before =>
      cases message with
      | none => exact hsilent _ channel.notes rfl rfl rfl rfl
      | some message =>
          cases message with
          | text content => exact hsent _ "text" _ rfl rfl rfl rfl
          | binary content => exact hsent _ "binary" _ rfl rfl rfl rfl
  | reveal =>
      cases message with
      | none => exact hsilent _ channel.notes rfl rfl rfl rfl
      | some message => exact hsilent _ _ rfl rfl rfl rfl
  | state => exact hsilent _ _ rfl rfl rfl rfl
  | close => exact hsent _ "close" _ rfl rfl rfl rfl
  | onDisconnect acts =>
      rw [call, happenings, followUps]
      by_cases hclosed : channel.disconnected
      · rw [if_pos hclosed, if_pos hclosed, if_pos hclosed]
        exact .notified message acts hclosed
      · rw [if_neg hclosed, if_neg hclosed, if_neg hclosed, perform,
          if_neg hclosed]
        exact .awaited message acts (Bool.eq_false_iff.2 hclosed)
  | listen scope acts => exact .listened message scope acts

theorem call_of_open (hopen : channel.disconnected = false) {item : Outgoing}
    (hsends : act.item? message = some item) (next : Nat) :
    channel.call message act =
        { channel with outgoing := channel.outgoing ++ [item] } ∧
      channel.happenings message next act = [.accepted item] ∧
      channel.followUps act = [] := by
  have hcalled := called_call message channel next act
  generalize channel.call message act = changed at hcalled ⊢
  generalize channel.happenings message next act = more at hcalled ⊢
  generalize channel.followUps act = tasks at hcalled ⊢
  cases hcalled with
  | accepted _ other hother =>
      obtain rfl := Option.some.inj (hsends.symm.trans hother)
      exact ⟨rfl, rfl, rfl⟩
  | refused _ _ _ _ hclosed => simp [hclosed] at hopen
  | noted _ hsilent => simp [hsilent] at hsends
  | _ => contradiction

theorem call_of_closed (hclosed : channel.disconnected = true)
    {item : Outgoing} (hsends : act.item? message = some item) (next : Nat) :
    (∃ name, channel.call message act =
        channel.note (name ++ " failed: " ++ closedMessage)) ∧
      channel.happenings message next act = [.refused item] ∧
      channel.followUps act = [] := by
  have hcalled := called_call message channel next act
  generalize channel.call message act = changed at hcalled ⊢
  generalize channel.happenings message next act = more at hcalled ⊢
  generalize channel.followUps act = tasks at hcalled ⊢
  cases hcalled with
  | accepted _ _ _ hopen => simp [hclosed] at hopen
  | refused _ other name hother =>
      obtain rfl := Option.some.inj (hsends.symm.trans hother)
      exact ⟨⟨name, rfl⟩, rfl, rfl⟩
  | noted _ hsilent => simp [hsilent] at hsends
  | _ => contradiction

end Channel

/-! ## Courses -/

structure Course where
  session : Session
  agenda : List Task
  history : List Happening
  deriving Repr

namespace Course

inductive Move where
  | commence (step : Step)
  /-- The first task is done, or replaced by what it comes to. -/
  | work
  deriving Repr

def start : Course := ⟨⟨.new, false, false, []⟩, [], []⟩

/-- A call, before the tasks that there are. -/
def call (course : Course) (message : Option Message) (act : Act) : Course :=
  let channel := course.session.channel
  let next := (History.farewells course.history).length
  { session := { course.session with channel := channel.call message act }
    agenda := channel.followUps act ++ course.agenda
    history := course.history ++ channel.happenings message next act }

def finish (course : Course) : Course :=
  { session :=
      { course.session with
        ended := true
        channel := course.session.channel.shut }
    agenda := course.session.channel.partings
    history := course.history ++ [.ended] }

/-- Takes in what has come; the session looks for it only when no task is
left. -/
def hear (course : Course) (incoming : Incoming) : Course :=
  if course.session.ended ∨ course.agenda ≠ [] then course
  else
    let course :=
      { course with history := course.history ++ [.arrived incoming] }
    match incoming with
    | .message message =>
        { course with agenda := course.session.channel.deliveries message }
    | .ping _ | .pong _ => course
    | .close | .failure => course.finish

/-- Writes what was accepted first, unless the connection or a close frame
written before makes that fail. -/
def transmit (course : Course) (fails : Bool) : Course :=
  if course.session.ended ∨ course.agenda ≠ [] then course
  else
    match course.session.channel.outgoing with
    | [] => course
    | item :: rest =>
        let channel := { course.session.channel with outgoing := rest }
        let session := { course.session with channel := channel }
        if fails || session.closing then
          { course with session := session }.finish
        else
          { course with
            session :=
              { session with
                written := session.written ++ [item]
                closing := item == .close }
            history := course.history ++ [.written item] }

/-- What the session itself does in a step.  Acts from outside may come at any
moment, and are done before anything else. -/
def commence (course : Course) : Step → Course
  | .act acts => { course with agenda := toDo none acts ++ course.agenda }
  | .receive incoming => course.hear incoming
  | .transmit fails => course.transmit fails

/-- Does the first task.  A listener that is given a message, or notified of
the end, does its acts next. -/
def work (course : Course) : Course :=
  match course.agenda with
  | [] => course
  | .call message act :: rest =>
      { course with agenda := rest }.call message act
  | .give listener message acts :: rest =>
      { course with
        agenda := toDo (some message) acts ++ rest
        history := course.history ++ [.given listener message] }
  | .part listener acts :: rest =>
      { course with
        agenda := toDo none acts ++ rest
        history := course.history ++ [.parted listener] }

def act (course : Course) : Move → Course
  | .commence step => course.commence step
  | .work => course.work

def run (course : Course) (moves : List Move) : Course := moves.foldl act course

variable {course after : Course}

theorem run_append (course : Course) (moves more : List Move) :
    course.run (moves ++ more) = (course.run moves).run more :=
  List.foldl_append

theorem run_snoc (course : Course) (moves : List Move) (move : Move) :
    course.run (moves ++ [move]) = (course.run moves).act move :=
  run_append course moves [move]

/-- All that a move can do. -/
inductive Acted (course : Course) : Move → Course → Prop
  | nothing (move : Move) : Acted course move course
  | entered (acts : List Act) :
      Acted course (.commence (.act acts))
        { course with agenda := toDo none acts ++ course.agenda }
  | delivered (message : Message) (hrunning : course.session.ended = false)
      (hidle : course.agenda = []) :
      Acted course (.commence (.receive (.message message)))
        { course with
          agenda := course.session.channel.deliveries message
          history := course.history ++ [.arrived (.message message)] }
  | overheard (incoming : Incoming) (hrunning : course.session.ended = false)
      (hidle : course.agenda = [])
      (hother : ∀ message, incoming ≠ .message message) :
      Acted course (.commence (.receive incoming))
        { course with history := course.history ++ [.arrived incoming] }
  | left (incoming : Incoming) (hrunning : course.session.ended = false)
      (hidle : course.agenda = [])
      (hother : ∀ message, incoming ≠ .message message) :
      Acted course (.commence (.receive incoming))
        (finish
          { course with history := course.history ++ [.arrived incoming] })
  | wrote (fails : Bool) (item : Outgoing) (rest : List Outgoing)
      (hrunning : course.session.ended = false)
      (hqueued : course.session.channel.outgoing = item :: rest) :
      Acted course (.commence (.transmit fails))
        { course with
          session :=
            { course.session with
              channel := { course.session.channel with outgoing := rest }
              written := course.session.written ++ [item]
              closing := item == .close }
          history := course.history ++ [.written item] }
  | failed (fails : Bool) (item : Outgoing) (rest : List Outgoing)
      (hrunning : course.session.ended = false) (hidle : course.agenda = [])
      (hqueued : course.session.channel.outgoing = item :: rest) :
      Acted course (.commence (.transmit fails))
        (finish { course with
          session :=
            { course.session with
              channel := { course.session.channel with outgoing := rest } } })
  | called (message : Option Message) (act : Act) (rest : List Task)
      (channel : Channel) (more : List Happening) (tasks : List Task)
      (hagenda : course.agenda = .call message act :: rest)
      (hcalled : course.session.channel.Called
        (History.farewells course.history).length message act channel more
        tasks) :
      Acted course .work
        { session := { course.session with channel := channel }
          agenda := tasks ++ rest
          history := course.history ++ more }
  | gave (listener : Nat) (message : Message) (acts : List Act)
      (rest : List Task)
      (hagenda : course.agenda = .give listener message acts :: rest) :
      Acted course .work
        { course with
          agenda := toDo (some message) acts ++ rest
          history := course.history ++ [.given listener message] }
  | parted (listener : Nat) (acts : List Act) (rest : List Task)
      (hagenda : course.agenda = .part listener acts :: rest) :
      Acted course .work
        { course with
          agenda := toDo none acts ++ rest
          history := course.history ++ [.parted listener] }

theorem acted_hear (course : Course) (incoming : Incoming) :
    course.Acted (.commence (.receive incoming)) (course.hear incoming) := by
  rw [hear]
  split
  · exact .nothing _
  · rename_i hfree
    rw [not_or, Bool.not_eq_true, ne_eq, not_not] at hfree
    obtain ⟨hrunning, hidle⟩ := hfree
    cases incoming with
    | message message => exact .delivered message hrunning hidle
    | ping payload => exact .overheard _ hrunning hidle fun _ => nofun
    | pong payload => exact .overheard _ hrunning hidle fun _ => nofun
    | close => exact .left _ hrunning hidle fun _ => nofun
    | failure => exact .left _ hrunning hidle fun _ => nofun

theorem acted_transmit (course : Course) (fails : Bool) :
    course.Acted (.commence (.transmit fails)) (course.transmit fails) := by
  rw [transmit]
  split
  · exact .nothing _
  · rename_i hfree
    rw [not_or, Bool.not_eq_true, ne_eq, not_not] at hfree
    obtain ⟨hrunning, hidle⟩ := hfree
    split
    · exact .nothing _
    · rename_i item rest hqueued
      dsimp only
      split
      · exact .failed fails item rest hrunning hidle hqueued
      · exact .wrote fails item rest hrunning hqueued

theorem acted_work (course : Course) : course.Acted .work course.work := by
  rw [work]
  split
  · exact .nothing _
  · rename_i message act rest hagenda
    exact .called message act rest _ _ _ hagenda
      (Channel.called_call message course.session.channel _ act)
  · exact .gave _ _ _ _ ‹_›
  · exact .parted _ _ _ ‹_›

theorem acted_act (course : Course) (move : Move) :
    course.Acted move (course.act move) := by
  cases move with
  | commence step =>
      cases step with
      | act acts => exact .entered acts
      | receive incoming => exact course.acted_hear incoming
      | transmit fails => exact course.acted_transmit fails
  | work => exact course.acted_work

end Course

end HttpEngine.WebSocket
