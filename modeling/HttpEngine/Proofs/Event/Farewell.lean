import HttpEngine.Proofs.Event.RoundTrip
import HttpEngine.Proofs.Stream.Calls
import Mathlib.Data.List.Induction

/-!
# Who hears of the end of a stream

A stream ends when a send misses the peer or when the emitter is closed.  The
listeners are kept in the sink.  A send that fails notifies them; closing takes
the sink away, and they go with it, while a listener that is registered later is
notified at once.
-/

namespace HttpEngine

namespace Outlet

variable {ι : Type} {outlet : Outlet ι} {result next : Outlet ι × Bool}

/-- The listeners are notified exactly when a chunk is not taken. -/
structure Informs (outlet : Outlet ι) (result : Outlet ι × Bool) : Prop where
  taken : result.2 = true → result.1.connected = true ∧
    result.1.listeners = outlet.listeners ∧ result.1.notified = outlet.notified
  missed : result.2 = false → result.1.connected = false ∧
    result.1.buffer = [] ∧
    result.1.listeners = [] ∧
    result.1.notified = outlet.notified ++ outlet.listeners

theorem informs_self (hconnected : outlet.connected = true) :
    outlet.Informs (outlet, true) where
  taken _ := ⟨hconnected, rfl, rfl⟩
  missed := nofun

theorem informs_disconnect (outlet : Outlet ι) :
    outlet.Informs (outlet.disconnect, false) where
  taken := nofun
  missed _ := ⟨rfl, rfl, rfl, rfl⟩

theorem Informs.append (hinforms : outlet.Informs result)
    (hfollows : result.2 = true → result.1.Informs next) :
    outlet.Informs (if result.2 then next else result) := by
  cases htaken : result.2 with
  | true =>
      obtain ⟨-, hlisteners, hnotified⟩ := hinforms.taken htaken
      obtain ⟨hlater, hlost⟩ := hfollows htaken
      rw [hlisteners, hnotified] at hlater hlost
      exact ⟨hlater, hlost⟩
  | false => exact hinforms

theorem send_informs (hconnected : outlet.connected = true) (chunk : Bytes) :
    outlet.Informs (outlet.send chunk) := by
  rw [send, if_neg (by simp [hconnected])]
  cases outlet.peer.take? chunk with
  | some peer =>
      constructor
      · exact fun _ => ⟨hconnected, rfl, rfl⟩
      · intro hmissed
        cases hmissed
  | none => exact outlet.informs_disconnect

theorem sendAll_informs (hconnected : outlet.connected = true)
    (chunks : List Bytes) :
    outlet.Informs (outlet.sendAll chunks) := by
  induction chunks generalizing outlet with
  | nil => exact informs_self hconnected
  | cons chunk chunks ih =>
      have hfirst := send_informs hconnected chunk
      rw [sendAll_cons]
      exact hfirst.append fun htaken => ih (hfirst.taken htaken).1

theorem write_informs (hconnected : outlet.connected = true) (bytes : Bytes) :
    outlet.Informs (outlet.write bytes) := by
  let refilled : Outlet ι :=
    { outlet with
      buffer := (fullPieces outlet.capacity (outlet.buffer ++ bytes)).2 }
  have hstill : refilled.connected = true := hconnected
  have hinforms :=
    sendAll_informs hstill
      (fullPieces outlet.capacity (outlet.buffer ++ bytes)).1
  rw [write, if_neg (by simp [hconnected])]
  exact ⟨hinforms.taken, hinforms.missed⟩

theorem flush_informs (hconnected : outlet.connected = true) :
    outlet.Informs outlet.flush := by
  rw [flush]
  split
  · rw [hconnected]
    exact informs_self hconnected
  · let emptied : Outlet ι := { outlet with buffer := [] }
    have hstill : emptied.connected = true := hconnected
    have hinforms := send_informs hstill outlet.buffer
    exact ⟨hinforms.taken, hinforms.missed⟩

theorem transfer_informs (hconnected : outlet.connected = true)
    (bytes : Bytes) :
    outlet.Informs (outlet.transfer bytes) := by
  have hwritten := write_informs hconnected bytes
  exact hwritten.append fun htaken => flush_informs (hwritten.taken htaken).1

end Outlet

namespace Emitter

variable {ι : Type} {emitter : Emitter ι}

/-! ## Operations -/

inductive Operation (ι : Type) where
  | send (event : Event)
  | close
  | isDisconnected
  | onDisconnect (listener : ι)
  | peerLeaves
  deriving DecidableEq, Repr

def Operation.listeners : Operation ι → List ι
  | .onDisconnect listener => [listener]
  | _ => []

/-- The listeners that operations register, in order. -/
def registered (operations : List (Operation ι)) : List ι :=
  operations.flatMap Operation.listeners

def perform (emitter : Emitter ι) : Operation ι → Emitter ι
  | .send event => (emitter.send event).1
  | .close => emitter.close.1
  | .isDisconnected => emitter
  | .onDisconnect listener => emitter.onDisconnect listener
  | .peerLeaves => emitter.peerLeaves

def performAll (emitter : Emitter ι) (operations : List (Operation ι)) :
    Emitter ι :=
  operations.foldl perform emitter

theorem performAll_append (emitter : Emitter ι)
    (operations more : List (Operation ι)) :
    emitter.performAll (operations ++ more) =
      (emitter.performAll operations).performAll more :=
  List.foldl_append

theorem performAll_snoc (emitter : Emitter ι) (operations : List (Operation ι))
    (operation : Operation ι) :
    emitter.performAll (operations ++ [operation]) =
      (emitter.performAll operations).perform operation :=
  performAll_append emitter operations [operation]

theorem registered_append (operations more : List (Operation ι)) :
    registered (operations ++ more) = registered operations ++
      registered more :=
  List.flatMap_append

/-! ## Open streams and streams that have ended -/

/-- The stream is open; its listeners wait and none was notified. -/
structure Open (waiting : List ι) (emitter : Emitter ι) : Prop where
  hasSink : emitter.hasSink = true
  connected : emitter.outlet.connected = true
  buffer : emitter.outlet.buffer = []
  listeners : emitter.outlet.listeners = waiting
  notified : emitter.outlet.notified = []

/-- The stream has ended, and those have been notified. -/
structure Ended (told : List ι) (emitter : Emitter ι) : Prop where
  isOver : emitter.hasSink = false ∨ emitter.outlet.connected = false
  buffer : emitter.outlet.buffer = []
  listeners : emitter.outlet.listeners = []
  notified : emitter.outlet.notified = told

variable {waiting told : List ι}

theorem Open.isDisconnected_eq (hopened : emitter.Open waiting) :
    emitter.isDisconnected = false := by
  simp [isDisconnected, Outlet.isDisconnected, hopened.hasSink,
    hopened.connected]

theorem Ended.isDisconnected_eq (hended : emitter.Ended told) :
    emitter.isDisconnected = true := by
  rcases hended.isOver with hclosed | hmissed
  · simp [isDisconnected, hclosed]
  · simp [isDisconnected, Outlet.isDisconnected, hmissed]

theorem open_new (capacity : Nat) (peer : Peer) :
    (new capacity peer : Emitter ι).Open [] :=
  ⟨rfl, rfl, rfl, rfl, rfl⟩

theorem Open.send (hopened : emitter.Open waiting) (event : Event) :
    (emitter.send event).1.Open waiting ∨
      (emitter.send event).1.Ended waiting := by
  have hinforms := Outlet.transfer_informs hopened.connected event.wireBytes
  rw [send_eq_transfer hopened.hasSink]
  cases htaken : (emitter.outlet.transfer event.wireBytes).2 with
  | true =>
      obtain ⟨hconnected, hlisteners, hnotified⟩ := hinforms.taken htaken
      obtain ⟨-, hbuffer, -⟩ :=
        Outlet.body_transfer hopened.connected hconnected
      exact .inl ⟨hopened.hasSink, hconnected, hbuffer,
        hlisteners.trans hopened.listeners, hnotified.trans hopened.notified⟩
  | false =>
      obtain ⟨hmissed, hbuffer, hlisteners, hnotified⟩ := hinforms.missed htaken
      rw [hopened.listeners, hopened.notified, List.nil_append] at hnotified
      exact .inr ⟨.inr hmissed, hbuffer, hlisteners, hnotified⟩

/-- Nothing is left to hand over between two operations, so closing misses no
peer. -/
theorem outlet_close (hbuffer : emitter.outlet.buffer = []) :
    emitter.outlet.close.1 = emitter.outlet := by
  rw [Outlet.close, Outlet.flush, if_pos (by simp [hbuffer])]
  exact Outlet.drop_of_empty hbuffer

theorem Open.close (hopened : emitter.Open waiting) :
    emitter.close.1.Ended [] := by
  rw [Emitter.close, if_neg (by simp [hopened.hasSink])]
  have hkept := outlet_close hopened.buffer
  refine ⟨.inl rfl, ?_, rfl, ?_⟩
  · exact (congrArg Outlet.buffer hkept).trans hopened.buffer
  · exact (congrArg Outlet.notified hkept).trans hopened.notified

theorem Open.onDisconnect (hopened : emitter.Open waiting) (listener : ι) :
    (emitter.onDisconnect listener).Open (waiting ++ [listener]) := by
  rw [Emitter.onDisconnect, if_pos hopened.hasSink, Outlet.onDisconnect,
    if_pos hopened.connected, hopened.listeners]
  exact ⟨hopened.hasSink, hopened.connected, hopened.buffer, rfl,
    hopened.notified⟩

theorem Open.peerLeaves (hopened : emitter.Open waiting) :
    emitter.peerLeaves.Open waiting :=
  ⟨hopened.hasSink, hopened.connected, hopened.buffer, hopened.listeners,
    hopened.notified⟩

/-- A step ends an open stream only as a send that misses the peer or as a
close. -/
theorem Open.perform (hopened : emitter.Open waiting)
    (operation : Operation ι) :
    (emitter.perform operation).Open (waiting ++ operation.listeners) ∨
      (∃ event, operation = .send event) ∧
        (emitter.perform operation).Ended waiting ∨
      operation = .close ∧ (emitter.perform operation).Ended [] := by
  cases operation with
  | send event =>
      rcases hopened.send event with hstill | hended
      · exact .inl (by simpa [Operation.listeners, Emitter.perform]
          using hstill)
      · exact .inr (.inl ⟨⟨event, rfl⟩, hended⟩)
  | close => exact .inr (.inr ⟨rfl, hopened.close⟩)
  | onDisconnect listener => exact .inl (hopened.onDisconnect listener)
  | isDisconnected =>
      exact .inl (by simpa [Operation.listeners, Emitter.perform] using hopened)
  | peerLeaves =>
      exact .inl (by simpa [Operation.listeners, Emitter.perform]
        using hopened.peerLeaves)

theorem Ended.send (hended : emitter.Ended told) (event : Event) :
    (emitter.send event).1 = emitter := by
  cases hsink : emitter.hasSink with
  | false => rw [Emitter.send, if_pos (by simp [hsink])]
  | true =>
      have hmissed : emitter.outlet.connected = false := by
        simpa [hsink] using hended.isOver
      rw [send_eq_transfer hsink, Outlet.transfer_of_disconnected hmissed]

theorem Ended.close (hended : emitter.Ended told) :
    emitter.close.1.Ended told := by
  rw [Emitter.close]
  split
  · exact hended
  · have hkept := outlet_close hended.buffer
    refine ⟨.inl rfl, ?_, rfl, ?_⟩
    · exact (congrArg Outlet.buffer hkept).trans hended.buffer
    · exact (congrArg Outlet.notified hkept).trans hended.notified

theorem Ended.onDisconnect (hended : emitter.Ended told) (listener : ι) :
    (emitter.onDisconnect listener).Ended (told ++ [listener]) := by
  rw [Emitter.onDisconnect]
  cases hsink : emitter.hasSink with
  | false =>
      rw [if_neg (by decide), hended.notified]
      exact ⟨.inl rfl, hended.buffer, hended.listeners, rfl⟩
  | true =>
      have hmissed : emitter.outlet.connected = false := by
        simpa [hsink] using hended.isOver
      rw [if_pos rfl, Outlet.onDisconnect, if_neg (by simp [hmissed]),
        hended.notified]
      exact ⟨.inr hmissed, hended.buffer, hended.listeners, rfl⟩

theorem Ended.peerLeaves (hended : emitter.Ended told) :
    emitter.peerLeaves.Ended told :=
  ⟨hended.isOver, hended.buffer, hended.listeners, hended.notified⟩

theorem Ended.perform (hended : emitter.Ended told) (operation : Operation ι) :
    (emitter.perform operation).Ended (told ++ operation.listeners) := by
  cases operation with
  | send event =>
      simpa [Operation.listeners, Emitter.perform, hended.send] using hended
  | close => simpa [Operation.listeners, Emitter.perform] using hended.close
  | onDisconnect listener => exact hended.onDisconnect listener
  | isDisconnected => simpa [Operation.listeners, Emitter.perform] using hended
  | peerLeaves =>
      simpa [Operation.listeners, Emitter.perform] using hended.peerLeaves

theorem Ended.performAll (hended : emitter.Ended told)
    (operations : List (Operation ι)) :
    (emitter.performAll operations).Ended (told ++ registered operations) := by
  induction operations generalizing emitter told with
  | nil => simpa [registered, Emitter.performAll] using hended
  | cons operation operations ih =>
      rw [registered, List.flatMap_cons, ← List.append_assoc]
      exact ih (hended.perform operation)

/-! ## Whole runs -/

/-- The stream is open, or a send has ended it, or a close has. -/
inductive Course (emitter : Emitter ι) (operations : List (Operation ι)) : Prop
  | opened
      (hopened : (emitter.performAll operations).Open (registered operations))
  | missed
      (hended : (emitter.performAll operations).Ended (registered operations))
  | closed (before after : List (Operation ι))
      (hparts : operations = before ++ .close :: after)
      (hopened : (emitter.performAll before).Open (registered before))

/-- A close that ends the stream leaves only those to be told that
come later. -/
theorem ended_of_close {before : List (Operation ι)}
    (hopened : (emitter.performAll before).Open (registered before))
    (after : List (Operation ι)) :
    (emitter.performAll (before ++ .close :: after)).Ended
      (registered after) := by
  have hended := hopened.close.performAll after
  rw [List.nil_append] at hended
  rwa [performAll_append]

theorem Course.snoc {operations : List (Operation ι)}
    (hcourse : Course emitter operations) (operation : Operation ι) :
    Course emitter (operations ++ [operation]) := by
  have hmore : registered (operations ++ [operation]) =
      registered operations ++ operation.listeners := by
    simp [registered]
  cases hcourse with
  | opened hopened =>
      rcases hopened.perform operation with
        hstill | ⟨⟨event, rfl⟩, hended⟩ | ⟨rfl, -⟩
      · exact .opened (by rwa [performAll_snoc, hmore])
      · refine .missed ?_
        rw [performAll_snoc, hmore]
        simpa [Operation.listeners, Emitter.perform] using hended
      · exact .closed operations [] rfl hopened
  | missed hended =>
      exact .missed
        (by rw [performAll_snoc, hmore]; exact hended.perform operation)
  | closed before after hparts hopened =>
      exact .closed before (after ++ [operation]) (by simp [hparts]) hopened

theorem course_new (capacity : Nat) (peer : Peer)
    (operations : List (Operation ι)) :
    Course (new capacity peer) operations := by
  -- on the end of the run: a later close finds the stream as the operations
  -- before have left it
  induction operations using List.reverseRecOn with
  | nil => exact .opened (open_new capacity peer)
  | append_singleton operations operation ih => exact ih.snoc operation

theorem Course.open_of_not_isDisconnected {operations : List (Operation ι)}
    (hcourse : Course emitter operations)
    (hstill : (emitter.performAll operations).isDisconnected = false) :
    (emitter.performAll operations).Open (registered operations) := by
  have hunended {told : List ι} :
      ¬ (emitter.performAll operations).Ended told := by
    intro hended
    rw [hended.isDisconnected_eq] at hstill
    contradiction
  cases hcourse with
  | opened hopened => exact hopened
  | missed hended => exact absurd hended hunended
  | closed before after hparts hopened =>
      subst hparts
      exact absurd (ended_of_close hopened after) hunended

/-- A close ends the stream for listeners that were registered before. -/
def Silences (emitter : Emitter ι) (operations : List (Operation ι)) : Prop :=
  ∃ before after, operations = before ++ .close :: after ∧
    (emitter.performAll before).isDisconnected = false ∧ registered before ≠ []

theorem ended_of_close_new (capacity : Nat) (peer : Peer)
    {before : List (Operation ι)}
    (hstill : ((new capacity peer : Emitter ι).performAll
      before).isDisconnected = false)
    (after : List (Operation ι)) :
    ((new capacity peer : Emitter ι).performAll
      (before ++ .close :: after)).Ended (registered after) :=
  ended_of_close ((course_new capacity peer before).open_of_not_isDisconnected
    hstill) after

theorem Course.notified_eq {operations : List (Operation ι)}
    (hcourse : Course emitter operations)
    (hfinished : (emitter.performAll operations).isDisconnected = true)
    (hspared : ¬ emitter.Silences operations) :
    (emitter.performAll operations).outlet.notified =
      registered operations := by
  cases hcourse with
  | opened hopened =>
      exact absurd (hopened.isDisconnected_eq.symm.trans hfinished) (by decide)
  | missed hended => exact hended.notified
  | closed before after hparts hopened =>
      have hnobody : registered before = [] := by
        by_contra hwaited
        exact hspared ⟨before, after, hparts,
          hopened.isDisconnected_eq, hwaited⟩
      subst hparts
      rw [(ended_of_close hopened after).notified, registered_append, hnobody]
      rfl

theorem Silences.not_perm {capacity : Nat} {peer : Peer}
    {operations : List (Operation ι)}
    (hsilences : (new capacity peer).Silences operations) :
    ¬ ((new capacity peer).performAll operations).outlet.notified.Perm
      (registered operations) := by
  obtain ⟨before, after, rfl, hstill, hwaited⟩ := hsilences
  intro hsame
  have hlengths := hsame.length_eq
  rw [(ended_of_close_new capacity peer hstill after).notified,
    registered_append, List.length_append] at hlengths
  have hsome := List.length_pos_iff.2 hwaited
  change (registered after).length = (registered before).length +
    (registered after).length at hlengths
  omega

/-- While the stream is open no listener has been notified.  Once it has ended
all have, each once and in order, unless it was closed over listeners that
waited: these are never notified. -/
theorem notified_performAll_iff (capacity : Nat) (peer : Peer)
    (operations : List (Operation ι)) :
    let start : Emitter ι := new capacity peer
    let emitter := start.performAll operations
    (emitter.isDisconnected = false → emitter.outlet.notified = []) ∧
      (emitter.isDisconnected = true →
        (emitter.outlet.notified.Perm (registered operations) ↔
          ¬ start.Silences operations) ∧
          (¬ start.Silences operations →
            emitter.outlet.notified = registered operations)) ∧
      ∀ before after, operations = before ++ .close :: after →
        (start.performAll before).isDisconnected = false →
          emitter.isDisconnected = true ∧
          emitter.outlet.notified = registered after := by
  intro start emitter
  have hcourse := course_new capacity peer operations
  refine ⟨fun hstill => (hcourse.open_of_not_isDisconnected hstill).notified,
    fun hfinished => ⟨?_, hcourse.notified_eq hfinished⟩,
    fun before after hparts hstill => ?_⟩
  · constructor
    · exact fun hsame hsilences => hsilences.not_perm hsame
    · intro hspared
      rw [hcourse.notified_eq hfinished hspared]
  · subst hparts
    have hended := ended_of_close_new capacity peer hstill after
    exact ⟨hended.isDisconnected_eq, hended.notified⟩

/-- A send misses the peer between two listeners; a close ends an open stream
between two. -/
theorem notified_performAll_iff_missed :
    let start : Emitter Nat := new 4 ⟨some 4, #[]⟩
    let missed : List (Operation Nat) :=
      [.onDisconnect 0, .send ⟨none, none, "x"⟩, .onDisconnect 1,
        .send ⟨none, none, "y"⟩, .onDisconnect 2, .close, .onDisconnect 3]
    let closed : List (Operation Nat) :=
      [.onDisconnect 0] ++ .close :: [.onDisconnect 1]
    ((start.performAll missed).isDisconnected = true ∧ ¬ start.Silences missed ∧
        (start.performAll missed).outlet.notified = [0, 1, 2, 3]) ∧
      (start.performAll [.onDisconnect 0]).isDisconnected = false ∧
        (start.performAll closed).isDisconnected = true ∧
        (start.performAll closed).outlet.notified = [1] := by
  intro start missed closed
  have hfinished : (start.performAll missed).isDisconnected = true := by
    decide +kernel
  have hall :
      (start.performAll missed).outlet.notified.Perm (registered missed) := by
    decide +kernel
  have hstill :
      (start.performAll [.onDisconnect 0]).isDisconnected = false := by
    decide +kernel
  obtain ⟨htold, hheard⟩ :=
    (notified_performAll_iff 4 ⟨some 4, #[]⟩ missed).2.1 hfinished
  have hclosing :=
    (notified_performAll_iff 4 ⟨some 4, #[]⟩ closed).2.2 _ _ rfl hstill
  exact ⟨⟨hfinished, htold.1 hall, hheard (htold.1 hall)⟩, hstill, hclosing⟩

/-- The peer has gone and the emitter is closed before a send finds out: the
listener that waited is never notified, although the next send fails and the
next listener is notified at once. -/
theorem notified_closedOver :
    let operations : List (Operation String) :=
      [.onDisconnect "early", .peerLeaves, .close, .send ⟨none, none, "x"⟩,
        .onDisconnect "late"]
    let emitter := (new 1024 .attentive).performAll operations
    emitter.isDisconnected = true ∧ registered operations = ["early", "late"] ∧
      emitter.outlet.notified = ["late"] := by
  decide +kernel

end Emitter

end HttpEngine
