import HttpEngine.Event.Emitter
import HttpEngine.Proofs.Event.Wire
import HttpEngine.Proofs.Stream.Outlet
import HttpEngine.Proofs.Text.Utf8

/-!
# Events that are sent and read

What an emitter has sent is read as the events it was given, whatever the
capacity of its sink, as long as the peer takes the chunks.  Only the kind of
line ends in the data is lost.
-/

namespace HttpEngine

namespace EventStream

/-! ## Reading what was written -/

/-- The event with a line feed for every line end of its data. -/
def unified (event : Event) : Event :=
  { event with data := String.ofList (unifyEnds event.data.toList) }

/-- The name and the id of an event, where it has them, are on one line each. -/
def IsPlain (event : Event) : Prop :=
  ∀ text, event.name = some text ∨ event.id = some text → IsUnbroken text.toList

variable {event : Event}

theorem optionalLines_of_isUnbroken {value : Option String}
    (h : ∀ text, value = some text → IsUnbroken text.toList) (name : String) :
    optionalLines name value = value.toList.map fun text =>
      fieldLine name text.toList := by
  cases value with
  | none => rfl
  | some text =>
      have htext := h text rfl
      rw [optionalLines, htext.firstLine_eq, htext.linesBelow_eq]
      rfl

theorem IsPlain.nil_not_mem_fieldLines (h : IsPlain event) :
    [] ∉ fieldLines event := by
  rw [fieldLines, optionalLines_of_isUnbroken fun text htext =>
    h text (.inl htext),
    optionalLines_of_isUnbroken fun text htext => h text (.inr htext)]
  simp [dataLines, fieldLine_ne_nil]

theorem IsPlain.draftOf_eq (h : IsPlain event) :
    draftOf event =
      ⟨event.name.map String.toList, event.id.map String.toList, []⟩ := by
  rw [draftOf, optionalLines_of_isUnbroken fun text htext =>
    h text (.inl htext),
    optionalLines_of_isUnbroken fun text htext => h text (.inr htext)]
  cases event.name <;> cases event.id <;>
    simp [Draft.absorb_event, Draft.absorb_id, Draft.empty]

theorem IsPlain.readLines_wireChars_eq (h : IsPlain event) (rest : List Char) :
    readLines .empty (linesFrom [] (event.wireChars ++ rest)) =
      unified event :: readLines .empty (linesFrom [] rest) := by
  rw [readLines_wireChars h.nil_not_mem_fieldLines, h.draftOf_eq,
    List.nil_append, Draft.event?,
    if_neg (List.splitOn_ne_nil _ _), List.intercalate_splitOn, Option.map_map,
    Option.map_map]
  simp [unified, Function.comp_def]

theorem read_flatMap_wireChars {events : List Event}
    (h : ∀ event ∈ events, IsPlain event) :
    read (events.flatMap Event.wireChars) = events.map unified := by
  rw [read, lines]
  induction events with
  | nil => rfl
  | cons event events ih =>
      obtain ⟨hevent, hevents⟩ := List.forall_mem_cons.1 h
      rw [List.flatMap_cons, hevent.readLines_wireChars_eq, ih hevents,
        List.map_cons]

end EventStream

/-! ## Sending -/

namespace Emitter

variable {ι : Type} {emitter : Emitter ι}

def sendAll (emitter : Emitter ι) :
    List Event → Emitter ι × List (Except StreamFault Unit)
  | [] => (emitter, [])
  | event :: events =>
      let first := emitter.send event
      let last := first.1.sendAll events
      (last.1, first.2 :: last.2)

theorem send_eq_transfer (h : emitter.hasSink = true) (event : Event) :
    emitter.send event =
      ({ emitter with outlet := (emitter.outlet.transfer event.wireBytes).1 },
        ofTaken (emitter.outlet.transfer event.wireBytes).2) := by
  rw [send, if_neg (by simp [h]), Outlet.transfer]
  rcases emitter.outlet.write event.wireBytes with ⟨outlet, _ | _⟩ <;> rfl

theorem send_hasSink (h : emitter.hasSink = true) (event : Event) :
    (emitter.send event).1.hasSink = true := by
  rw [send_eq_transfer h]
  exact h

theorem sendAll_hasSink (h : emitter.hasSink = true) (events : List Event) :
    (emitter.sendAll events).1.hasSink = true := by
  induction events generalizing emitter with
  | nil => exact h
  | cons event events ih => exact ih (send_hasSink h event)

theorem connected_of_send (hsink : emitter.hasSink = true) {event : Event}
    (hafter : (emitter.send event).1.outlet.connected = true) :
    emitter.outlet.connected = true := by
  rw [send_eq_transfer hsink] at hafter
  cases h : emitter.outlet.connected with
  | true => rfl
  | false => rwa [Outlet.transfer_of_disconnected h, h] at hafter

theorem body_send (hsink : emitter.hasSink = true) {event : Event}
    (hafter : (emitter.send event).1.outlet.connected = true) :
    (emitter.send event).2 = .ok () ∧
      (emitter.send event).1.outlet.buffer = [] ∧
      (emitter.send event).1.outlet.body =
        emitter.outlet.body ++ (emitter.outlet.buffer ++ event.wireBytes) := by
  have hconnected := connected_of_send hsink hafter
  rw [send_eq_transfer hsink] at hafter ⊢
  obtain ⟨htaken, hbuffer, hbody⟩ := Outlet.body_transfer hconnected hafter
  refine ⟨?_, hbuffer, hbody⟩
  rw [htaken]
  rfl

theorem connected_of_sendAll (hsink : emitter.hasSink = true)
    {events : List Event}
    (hlast : (emitter.sendAll events).1.outlet.connected = true) :
    emitter.outlet.connected = true := by
  induction events generalizing emitter with
  | nil => exact hlast
  | cons event events ih =>
      exact connected_of_send hsink (ih (send_hasSink hsink event) hlast)

/-- An emitter that is connected in the end has handed over every event. -/
theorem body_sendAll (hsink : emitter.hasSink = true)
    (hbuffer : emitter.outlet.buffer = []) {events : List Event}
    (hlast : (emitter.sendAll events).1.outlet.connected = true) :
    (emitter.sendAll events).2 = events.map (fun _ => .ok ()) ∧
      (emitter.sendAll events).1.outlet.buffer = [] ∧
        (emitter.sendAll events).1.outlet.body =
          emitter.outlet.body ++
            Utf8.encode (events.flatMap Event.wireChars) := by
  induction events generalizing emitter with
  | nil => exact ⟨rfl, hbuffer, by simp [sendAll, Utf8.encode]⟩
  | cons event events ih =>
      have hfirst := connected_of_sendAll (send_hasSink hsink event) hlast
      obtain ⟨hanswer, hemptied, hbody⟩ := body_send hsink hfirst
      obtain ⟨hanswers, hrest, hall⟩ :=
        ih (send_hasSink hsink event) hemptied hlast
      refine ⟨?_, hrest, ?_⟩
      · rw [sendAll, List.map_cons, ← hanswers, ← hanswer]
      · rw [sendAll, hall, hbody, hbuffer, List.flatMap_cons,
          Utf8.encode_append, List.append_assoc]
        rfl

theorem connected_sendAll (hsink : emitter.hasSink = true)
    (h : emitter.outlet.connected = true)
    (hpatient : emitter.outlet.peer.patience = none) (events : List Event) :
    (emitter.sendAll events).1.outlet.connected = true := by
  induction events generalizing emitter with
  | nil => exact h
  | cons event events ih =>
      have hstays := Outlet.transfer_of_patient h hpatient event.wireBytes
      rw [sendAll, send_eq_transfer hsink]
      exact ih hsink hstays.1 hstays.2

/-! ## Round trip -/

/-- What a peer has got from an emitter that is not disconnected in the end is
read as the events that were sent; a peer without a limit is never
disconnected. -/
theorem readBytes_body_sendAll (capacity : Nat) (patience : Option Nat)
    (events : List Event) (h : ∀ event ∈ events, EventStream.IsPlain event) :
    let run := (new capacity ⟨patience, #[]⟩ : Emitter ι).sendAll events
    (patience = none → run.1.isDisconnected = false) ∧
      (run.1.isDisconnected = false →
        run.2 = events.map (fun _ => .ok ()) ∧ run.1.outlet.buffer = [] ∧
          EventStream.readBytes run.1.outlet.body =
            events.map EventStream.unified) := by
  intro run
  have hsink : run.1.hasSink = true := sendAll_hasSink rfl events
  have hconnected : run.1.isDisconnected = false ↔
      run.1.outlet.connected = true := by
    simp [isDisconnected, Outlet.isDisconnected, hsink]
  rw [hconnected]
  constructor
  · intro hpatient
    exact connected_sendAll rfl rfl hpatient events
  · intro hlast
    obtain ⟨hanswers, hbuffer, hbody⟩ := body_sendAll rfl rfl hlast
    refine ⟨hanswers, hbuffer, ?_⟩
    have hnothing :
        (new capacity ⟨patience, #[]⟩ : Emitter ι).outlet.body = [] := rfl
    rw [hbody, hnothing, List.nil_append, EventStream.readBytes,
      Utf8.decodeLossy_encode]
    exact EventStream.read_flatMap_wireChars h

theorem readBytes_body_sendAll_pair :
    let run := (new 3 .attentive : Emitter Unit).sendAll
      [⟨some "up", none, " a\r\nb\r\r\nc\r"⟩, ⟨none, some "7", ""⟩]
    EventStream.readBytes run.1.outlet.body =
      [⟨some "up", none, " a\nb\n\nc\n"⟩, ⟨none, some "7", ""⟩] := by
  intro run
  have hplain :
      ∀ event ∈ [⟨some "up", none, " a\r\nb\r\r\nc\r"⟩, ⟨none, some "7", ""⟩],
      EventStream.IsPlain event := by
    have hup : EventStream.IsUnbroken ['u', 'p'] := ⟨by decide, by decide⟩
    have hseven : EventStream.IsUnbroken ['7'] := ⟨by decide, by decide⟩
    simp [EventStream.IsPlain, hup, hseven]
  have hrun := readBytes_body_sendAll (ι := Unit) 3 none _ hplain
  exact (hrun.2 (hrun.1 rfl)).2.2

end Emitter

end HttpEngine
