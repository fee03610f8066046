import HttpEngine.Proofs.Event.Delivery

/-!
# Who is announced to the hooks

The hooks of a hub are called when a subscriber joins and when it leaves.
`attended_run` says, for every run of a hub whose hooks return normally, for
whom they were called and how often: a subscriber may overflow, have its stream
dropped and be closed at the same time, and leaves once.
-/

namespace HttpEngine

/-! ## Passages -/

/-- An occasion on which hooks are called. -/
inductive Passage where
  | joined (subscriber : Nat)
  | left (subscriber : Nat)
  deriving DecidableEq, Repr

namespace Passage

def isJoined : Passage → Bool
  | .joined _ => true
  | .left _ => false

def isLeft (passage : Passage) : Bool := !passage.isJoined

/-- What the hooks note on an occasion: those for joining or those for leaving,
each of them once and in order. -/
def notes (joinHooks leaveHooks : List HubHook) : Passage → List String
  | .joined subscriber => Hub.notesOf joinHooks subscriber
  | .left subscriber => Hub.notesOf leaveHooks subscriber

end Passage

namespace Traffic

variable {traffic after opening : Traffic} {move : Move} {moves : List Move}
  {subscriber : Nat} {joinHooks leaveHooks : List HubHook}

/-- The occasion that a move is. -/
def passage? (traffic : Traffic) : Move → Option Passage
  | .work =>
      match traffic.agenda with
      | .join subscriber :: _ => some (.joined subscriber)
      | .remove subscriber :: _ =>
          if traffic.hub.members.contains subscriber then
            some (.left subscriber) else none
      | _ => none
  | _ => none

def passages (traffic : Traffic) : List Move → List Passage
  | [] => []
  | move :: rest =>
      (traffic.passage? move).toList ++ (traffic.act move).passages rest

theorem passages_snoc (traffic : Traffic) (moves : List Move) (move : Move) :
    traffic.passages (moves ++ [move]) =
      traffic.passages moves ++ ((traffic.run moves).passage? move).toList := by
  induction moves generalizing traffic with
  | nil => simp [passages, run]
  | cons first rest ih => simp [passages, ih, run, List.append_assoc]

theorem passage?_of_ne_work (hwork : move ≠ .work) :
    traffic.passage? move = none := by
  cases move with
  | work => contradiction
  | _ => rfl

theorem passage?_work_of_idle (hidle : traffic.agenda = []) :
    traffic.passage? .work = none := by
  rw [passage?, hidle]

/-! ## The record of a run -/

/-- Nobody leaves before it has joined. -/
def InOrder (record : List Passage) : Prop :=
  ∀ before after subscriber, record = before ++ .left subscriber :: after →
    .joined subscriber ∈ before

theorem InOrder.snoc {record : List Passage} (hinOrder : InOrder record)
    {last : Passage}
    (hjoined : ∀ subscriber, last = .left subscriber →
      .joined subscriber ∈ record) :
    InOrder (record ++ [last]) := by
  intro before after subscriber hsplit
  rcases List.eq_nil_or_concat after with rfl | ⟨early, final, rfl⟩
  · obtain ⟨rfl, hsame⟩ := List.append_inj' hsplit rfl
    exact hjoined subscriber (List.singleton_inj.1 hsame)
  · rw [List.concat_eq_append, ← List.cons_append, ← List.append_assoc]
      at hsplit
    exact hinOrder before early subscriber (List.append_inj_left' hsplit rfl)

/-- What is on record of those who joined and left. -/
structure Recorded (joinHooks leaveHooks : List HubHook) (record : List Passage)
    (hub : Hub) : Prop where
  hooks : hub.joinHooks = joinHooks ∧ hub.leaveHooks = leaveHooks
  notes : hub.notes = record.flatMap (Passage.notes joinHooks leaveHooks)
  joined : ∀ subscriber, record.count (.joined subscriber) = hub.held subscriber
  left : ∀ subscriber, record.count (.left subscriber) =
    if (hub.queueOf subscriber).sending then 0 else 1
  balance :
    hub.count + record.countP Passage.isLeft = record.countP Passage.isJoined
  inOrder : InOrder record

namespace Recorded

variable {hub next : Hub} {record : List Passage}

theorem start (queue : Nat) (joinHooks leaveHooks : List HubHook) :
    Recorded joinHooks leaveHooks [] (.new queue joinHooks leaveHooks) where
  hooks := ⟨rfl, rfl⟩
  notes := rfl
  joined _ := rfl
  left _ := rfl
  balance := rfl
  inOrder before after subscriber hsplit := by simp at hsplit

/-- A change that calls no hooks and lets go of no queue. -/
theorem quiet (hrecorded : Recorded joinHooks leaveHooks record hub)
    (hhooks : next.joinHooks = hub.joinHooks ∧ next.leaveHooks = hub.leaveHooks)
    (hnotes : next.notes = hub.notes) (hmembers : next.members = hub.members)
    (hsending : ∀ subscriber, (next.queueOf subscriber).sending =
      (hub.queueOf subscriber).sending) :
    Recorded joinHooks leaveHooks record next where
  hooks := by rw [hhooks.1, hhooks.2]; exact hrecorded.hooks
  notes := by rw [hnotes]; exact hrecorded.notes
  joined subscriber := by
    rw [Hub.held, hmembers, hsending]
    exact hrecorded.joined subscriber
  left subscriber := by rw [hsending]; exact hrecorded.left subscriber
  balance := by rw [Hub.count, hmembers]; exact hrecorded.balance
  inOrder := hrecorded.inOrder

theorem changeQueue (hrecorded : Recorded joinHooks leaveHooks record hub)
    {change : EventQueue → EventQueue}
    (hsame : (change (hub.queueOf subscriber)).sending =
      (hub.queueOf subscriber).sending) :
    Recorded joinHooks leaveHooks record (hub.changeQueue subscriber change) :=
  hrecorded.quiet ⟨rfl, rfl⟩ rfl rfl fun _ =>
    Hub.part_changeQueue EventQueue.sending hsame

theorem withMember (hrecorded : Recorded joinHooks leaveHooks record hub)
    (subscriber : Nat) :
    Recorded joinHooks leaveHooks (record ++ [.joined subscriber])
      (hub.withMember subscriber) where
  hooks := hrecorded.hooks
  notes := by
    simp [Hub.withMember, hrecorded.notes, hrecorded.hooks.1, Passage.notes]
  joined other := by
    rw [Hub.held_withMember, List.count_append, hrecorded.joined]
    simp [List.count_singleton]
  left other := by
    rw [Hub.queueOf_withMember, List.count_append, hrecorded.left]
    simp
  balance := by
    have hbalance := hrecorded.balance
    simp only [Hub.count, Hub.members_withMember, List.length_append]
      at hbalance ⊢
    simp only [List.countP_append, List.length_singleton, List.countP_singleton]
    simp only [Passage.isLeft, Passage.isJoined, Bool.not_true,
      Bool.false_eq_true, if_false, if_true]
    omega
  inOrder := hrecorded.inOrder.snoc nofun

theorem without (hrecorded : Recorded joinHooks leaveHooks record hub)
    (hmem : subscriber ∈ hub.members) (hknown : subscriber < hub.queues.length)
    (honce : hub.held subscriber ≤ 1) :
    Recorded joinHooks leaveHooks (record ++ [.left subscriber])
      (hub.without subscriber) := by
  obtain ⟨halone, hsending⟩ := Hub.sending_of_mem hmem honce
  refine ⟨hrecorded.hooks, ?_, fun other => ?_, fun other => ?_, ?_, ?_⟩
  · simp [Hub.without, Hub.changeQueue, hrecorded.notes, hrecorded.hooks.2,
      Passage.notes]
  · rw [Hub.held_without hmem honce hknown, List.count_append, hrecorded.joined]
    simp
  · rw [Hub.queueOf_without, List.count_append, hrecorded.left]
    by_cases hsame : subscriber = other
    · subst hsame
      simp [hknown, hsending]
    · simp [hsame]
  · have hbalance := hrecorded.balance
    have hfewer := Hub.count_without halone
    simp only [List.countP_append, List.countP_singleton, Passage.isLeft,
      Passage.isJoined]
    simp only [Bool.not_false, Bool.false_eq_true, if_false, if_true]
    omega
  · have hjoined := hrecorded.joined subscriber
    rw [Hub.held, halone] at hjoined
    refine hrecorded.inOrder.snoc ?_
    rintro _ ⟨⟩
    exact List.count_pos_iff.1 (by omega)

theorem act (horderly : traffic.Orderly) (hacted : traffic.Acted move after)
    (hrecorded : Recorded joinHooks leaveHooks record traffic.hub) :
    Recorded joinHooks leaveHooks (record ++
      (traffic.passage? move).toList) after.hub := by
  cases hacted with
  | nothing _ hidle =>
      have hnobody : traffic.passage? move = none := by
        by_cases hwork : move = .work
        · rw [hwork, passage?_work_of_idle (hidle hwork)]
        · exact passage?_of_ne_work hwork
      simpa [hnobody] using hrecorded
  | subscribed =>
      simp only [passage?, Option.toList_none, List.append_nil]
      refine hrecorded.quiet ⟨rfl, rfl⟩ rfl rfl fun subscriber => ?_
      change (traffic.hub.withQueue.queueOf subscriber).sending = _
      rw [Hub.queueOf_withQueue]
  | dispatched _ hcalled =>
      rw [passage?_of_ne_work hcalled, Option.toList_none, List.append_nil]
      exact hrecorded.quiet ⟨rfl, rfl⟩ rfl rfl fun _ => rfl
  | dropped subscriber hpresent =>
      simp only [passage?, Option.toList_none, List.append_nil]
      have hchanged :
          Recorded joinHooks leaveHooks record
            (traffic.hub.changeQueue subscriber
              fun queue => { queue with receiving := false }) :=
        hrecorded.changeQueue rfl
      exact hchanged.quiet ⟨rfl, rfl⟩ rfl rfl fun _ => rfl
  | received subscriber hpresent event rest hqueued =>
      simp only [passage?, Option.toList_none, List.append_nil]
      exact hrecorded.changeQueue rfl
  | performed step rest hagenda hub left hperformed =>
      cases hperformed with
      | joined subscriber =>
          simpa [passage?, hagenda] using hrecorded.withMember subscriber
      | queued event subscriber htakes =>
          simpa [passage?, hagenda] using hrecorded.changeQueue rfl
      | refused event subscriber hrefuses =>
          simpa [passage?, hagenda] using hrecorded
      | removed subscriber hmem =>
          simpa [passage?, hagenda, hmem] using
            hrecorded.without hmem (horderly.known_of_mem hmem)
              horderly.held_le_one
      | missing subscriber habsent =>
          simpa [passage?, hagenda, habsent] using hrecorded
  | began task tasks hagenda hwaiting =>
      rw [passage?_work_of_idle hagenda, Option.toList_none, List.append_nil]
      exact hrecorded.quiet ⟨rfl, rfl⟩ rfl rfl fun _ => rfl

end Recorded

theorem Orderly.recorded_run (horderly : opening.Orderly)
    (hrecorded : Recorded joinHooks leaveHooks [] opening.hub)
    (moves : List Move) :
    Recorded joinHooks leaveHooks (opening.passages moves)
      (opening.run moves).hub := by
  induction moves using List.reverseRecOn with
  | nil => exact hrecorded
  | append_singleton moves move ih =>
      have horderly := horderly.run moves
      rw [passages_snoc, run_snoc]
      exact ih.act horderly (acted_act horderly.calm move)

/-! ## Streams that were dropped -/

/-- A leave that was dispatched is due to a stream that was dropped. -/
def Excused (traffic : Traffic) (subscriber : Nat) : Prop :=
  .leave subscriber ∈ HubTask.afterJoin subscriber traffic.dispatched ↔
    (traffic.hub.queueOf subscriber).receiving = false

theorem Excused.start (queue : Nat) (joinHooks leaveHooks : List HubHook)
    (subscriber : Nat) :
    (start queue joinHooks leaveHooks).Excused subscriber :=
  iff_of_false List.not_mem_nil nofun

theorem Excused.dispatch (hexcused : traffic.Excused subscriber)
    {task : HubTask} (hother : task ≠ .leave subscriber) :
    (traffic.dispatch task).Excused subscriber := by
  rw [Excused] at hexcused ⊢
  refine Iff.trans ?_ hexcused
  rw [Traffic.dispatch, HubTask.mem_afterJoin_snoc]
  simp [Ne.symm hother]

/-- A change of the hub that drops no stream. -/
theorem Excused.of_hub (hexcused : traffic.Excused subscriber) {hub : Hub}
    {agenda : List HubStep} {begun : List HubTask} {received : Nat → List Event}
    (hsame : (hub.queueOf subscriber).receiving =
      (traffic.hub.queueOf subscriber).receiving) :
    Excused ⟨hub, agenda, traffic.dispatched, begun, received⟩ subscriber := by
  rw [Excused, hsame]
  exact hexcused

theorem receiving_performed {step : HubStep} {rest left : List HubStep}
    {hub : Hub} (hperformed : traffic.hub.Performed rest step (hub, left)) :
    (hub.queueOf subscriber).receiving =
      (traffic.hub.queueOf subscriber).receiving := by
  cases hperformed with
  | joined => rfl
  | queued => exact Hub.part_changeQueue EventQueue.receiving rfl
  | refused => rfl
  | removed => exact Hub.part_changeQueue EventQueue.receiving rfl
  | missing => rfl

theorem Excused.drop (hexcused : traffic.Excused subscriber)
    (horderly : traffic.Orderly) {client : Nat}
    (hpresent : traffic.hub.isDropped client = false) :
    (traffic.act (.drop client)).Excused subscriber := by
  rw [act_drop_of_present hpresent]
  by_cases hsame : client = subscriber
  · subst hsame
    have hknown := Hub.known_of_not_isDropped hpresent
    have hjoins := horderly.joins client
    rw [Hub.known, if_pos hknown] at hjoins
    have hjoined : .join client ∈ traffic.dispatched :=
      List.count_pos_iff.1 (by omega)
    refine iff_of_true (HubTask.mem_afterJoin_snoc.2 (.inr ⟨hjoined, rfl⟩)) ?_
    change ((traffic.hub.changeQueue client _).queueOf client).receiving = false
    simp [Hub.queueOf_changeQueue, hknown]
  · refine Excused.dispatch (hexcused.of_hub ?_) (by simpa using hsame)
    simp [Hub.queueOf_changeQueue, hsame]

theorem Excused.act (hexcused : traffic.Excused subscriber)
    (horderly : traffic.Orderly) (move : Move) :
    (traffic.act move).Excused subscriber := by
  cases move with
  | subscribe =>
      have hqueued :
          Excused { traffic with hub := traffic.hub.withQueue } subscriber :=
        hexcused.of_hub (by rw [Hub.queueOf_withQueue])
      exact hqueued.dispatch nofun
  | broadcast event => exact hexcused.dispatch nofun
  | sendTo target event => exact hexcused.dispatch nofun
  | close => exact hexcused.dispatch nofun
  | drop client =>
      cases hpresent : traffic.hub.isDropped client with
      | true => simpa [Traffic.act, hpresent] using hexcused
      | false => exact hexcused.drop horderly hpresent
  | read client =>
      rcases act_read traffic client with
        hunchanged | ⟨_, event, rest, _, htaken⟩
      · rwa [hunchanged]
      · rw [htaken]
        exact hexcused.of_hub (Hub.part_changeQueue EventQueue.receiving rfl)
  | work =>
      have hacted := acted_act horderly.calm .work
      generalize traffic.act .work = after at hacted
      cases hacted with
      | nothing => exact hexcused
      | dispatched => contradiction
      | performed step rest hagenda hub left hperformed =>
          exact hexcused.of_hub (receiving_performed hperformed)
      | began task tasks hagenda hwaiting => exact hexcused.of_hub rfl

theorem Excused.run (hexcused : opening.Excused subscriber)
    (horderly : opening.Orderly) (moves : List Move) :
    (opening.run moves).Excused subscriber := by
  induction moves using List.reverseRecOn with
  | nil => exact hexcused
  | append_singleton moves move ih =>
      rw [run_snoc]
      exact ih.act (horderly.run moves) move

/-! ## Departures -/

/-- The causes for which a subscriber leaves. -/
inductive Departs (opening : Traffic) (moves : List Move) (subscriber : Nat) :
    Prop
  /-- An event found its queue full. -/
  | overflowed (earlier : List Move) (event : Event)
      (hfull : FoundFull opening moves earlier subscriber event)
  /-- An event found its stream dropped. -/
  | gone (earlier later : List Move) (event : Event)
      (hpart : moves = earlier ++ .work :: later)
      (hoffered : (opening.run earlier).agenda.head? =
        some (.offer event subscriber))
      (hdropped : (opening.run earlier).hub.isDropped subscriber = true)
  /-- A task that followed its join removed it: its own leave, or a close. -/
  | ended (task : HubTask) (hends : task = .leave subscriber ∨ task = .close)
      (hbegan : task ∈ HubTask.afterJoin subscriber (opening.run moves).begun)

theorem departs_of_misses (horderly : opening.Orderly)
    {earlier later : List Move} {event : Event}
    (hmisses : (opening.run earlier).Misses subscriber event) :
    Departs opening (earlier ++ .work :: later) subscriber := by
  rcases hmisses.2 with hdropped | hfull
  · exact .gone earlier later event rfl hmisses.1 hdropped
  · exact .overflowed earlier event (horderly.foundFull hmisses.1 hfull)

section

variable (horderly : opening.Orderly)
  (hnew : OnTime subscriber opening.begun (opening.share subscriber))
include horderly hnew

theorem letGo_of_misses {earlier later : List Move} {event : Event}
    (hidle : (opening.run (earlier ++ .work :: later)).agenda = [])
    (hmisses : (opening.run earlier).Misses subscriber event) :
    ((opening.run (earlier ++ .work :: later)).hub.queueOf subscriber).sending =
      false :=
  (hnew.run_behind horderly hmisses later).2.letGo (by simp [share, hidle])

/-- Between two tasks, a queue was let go of for one of the causes and for no
other reason. -/
theorem letGo_iff_departs (hidle : (opening.run moves).agenda = []) :
    ((opening.run moves).hub.queueOf subscriber).sending = false ↔
      Departs opening moves subscriber := by
  by_cases hmissed : ∃ earlier later event,
      moves = earlier ++ .work :: later ∧
      (opening.run earlier).Misses subscriber event
  · obtain ⟨earlier, later, event, rfl, hmisses⟩ := hmissed
    exact iff_of_true (letGo_of_misses horderly hnew hidle hmisses)
      (departs_of_misses horderly hmisses)
  · have honTime : OnTime subscriber (opening.run moves).begun
        ((opening.run moves).share subscriber) := by
      refine hnew.run horderly fun earlier later event hpart hmisses => ?_
      exact hmissed ⟨earlier, later, event, hpart, hmisses⟩
    rw [honTime.sending_iff (horderly.run moves) hidle, HubTask.removed_iff]
    constructor
    · rintro ⟨task, hends, hbegan⟩
      exact .ended task hends hbegan
    · rintro (⟨earlier, event, hfull⟩ | ⟨earlier, later, event, hpart, hoffered,
        hdropped⟩ | ⟨task, hends, hbegan⟩)
      · obtain ⟨later, hpart⟩ := hfull.1
        exact absurd ⟨earlier, later, event, hpart,
          hfull.misses horderly⟩ hmissed
      · exact absurd ⟨earlier, later, event, hpart, hoffered,
          .inl hdropped⟩ hmissed
      · exact ⟨task, hends, hbegan⟩

/-- Once nothing is left to do, the causes are those that a caller or a client
has brought about. -/
theorem departs_iff_of_settled
    (hexcused : (opening.run moves).Excused subscriber)
    (hknown : subscriber < (opening.run moves).hub.queues.length)
    (hsettled : (opening.run moves).begun = (opening.run moves).dispatched) :
    Departs opening moves subscriber ↔
      (opening.run moves).hub.isDropped subscriber = true ∨
        .close ∈ HubTask.afterJoin subscriber (opening.run moves).dispatched ∨
        ∃ earlier event, FoundFull opening moves earlier subscriber event := by
  have hleft : (opening.run moves).hub.isDropped subscriber = true ↔
      .leave subscriber ∈
        HubTask.afterJoin subscriber (opening.run moves).dispatched := by
    rw [Hub.isDropped_of_known hknown, Bool.not_eq_true']
    exact hexcused.symm
  rw [hleft]
  constructor
  · rintro (⟨earlier, event, hfull⟩ | ⟨earlier, later, event, hpart, hoffered,
      hdropped⟩ | ⟨task, rfl | rfl, hbegan⟩)
    · exact .inr (.inr ⟨earlier, event, hfull⟩)
    · subst hpart
      have hmisses : (opening.run earlier).Misses subscriber event :=
        ⟨hoffered, .inl hdropped⟩
      have hmember :=
        (hnew.run_of_misses horderly hmisses).mem_of_misses hmisses
      rw [Hub.isDropped_of_known ((horderly.run earlier).known_of_mem hmember)]
        at hdropped
      refine .inl (hexcused.2 ?_)
      by_contra hpresent
      rw [horderly.receiving_run _ (Bool.not_eq_false _ ▸ hpresent)] at hdropped
      contradiction
    · exact .inl (hsettled ▸ hbegan)
    · exact .inr (.inl (hsettled ▸ hbegan))
  · rintro (hleft | hclosed | ⟨earlier, event, hfull⟩)
    · exact .ended _ (.inl rfl) (hsettled ▸ hleft)
    · exact .ended _ (.inr rfl) (hsettled ▸ hclosed)
    · exact .overflowed earlier event hfull

end

/-! ## Between tasks -/

theorem Recorded.count_le_one {record : List Passage}
    (horderly : traffic.Orderly)
    (hrecorded : Recorded joinHooks leaveHooks record traffic.hub)
    (passage : Passage) :
    record.count passage ≤ 1 := by
  cases passage with
  | joined subscriber =>
      rw [hrecorded.joined]
      exact horderly.held_le_one
  | left subscriber =>
      rw [hrecorded.left]
      split <;> omega

theorem Recorded.count_left_eq_one {record : List Passage}
    (hrecorded : Recorded joinHooks leaveHooks record traffic.hub) :
    record.count (.left subscriber) = 1 ↔
      (traffic.hub.queueOf subscriber).sending = false := by
  rw [hrecorded.left]
  cases (traffic.hub.queueOf subscriber).sending <;> simp

theorem Orderly.held_of_idle (horderly : traffic.Orderly)
    (hidle : traffic.agenda = []) :
    traffic.hub.held subscriber = traffic.begun.count (.join subscriber) := by
  have hjoins := horderly.joins subscriber
  have hplaces := horderly.places subscriber
  rw [horderly.inOrder, List.count_append] at hjoins
  rw [Traffic.places, hidle, List.count_nil] at hplaces
  omega

theorem Orderly.held_of_settled (horderly : traffic.Orderly)
    (hidle : traffic.agenda = []) (hdone : traffic.hub.tasks = [])
    (hknown : subscriber < traffic.hub.queues.length) :
    traffic.hub.held subscriber = 1 := by
  have hplaces := horderly.places subscriber
  rw [Traffic.places, hidle, hdone, Hub.known, if_pos hknown] at hplaces
  simpa using hplaces

theorem dispatched_run_work (traffic : Traffic) (count : Nat) :
    (traffic.run (List.replicate count .work)).dispatched =
      traffic.dispatched := by
  induction count generalizing traffic with
  | zero => rfl
  | succ count ih =>
      have hfirst : (traffic.act .work).dispatched = traffic.dispatched := by
        simp only [Traffic.act]
        split <;> rfl
      exact (ih (traffic.act .work)).trans hfirst

theorem Orderly.run_rests (horderly : traffic.Orderly) :
    ∃ count, (traffic.run (List.replicate count .work)).agenda = [] ∧
      (traffic.run (List.replicate count .work)).hub.tasks = [] := by
  obtain ⟨count, hidle, hbegun⟩ := horderly.run_settles
  have hinOrder := (horderly.run (List.replicate count .work)).inOrder
  rw [hbegun, dispatched_run_work] at hinOrder
  exact ⟨count, hidle, List.self_eq_append_right.1 hinOrder⟩

/-! ## Who was announced -/

/-- What the hooks of a hub were told in a run. -/
structure Attended (joinHooks leaveHooks : List HubHook) (opening : Traffic)
    (moves : List Move) : Prop where
  /-- All that was noted was noted for those on record, in order, by every hook
  that is to be called for them. -/
  called : (opening.run moves).hub.notes =
    (opening.passages moves).flatMap (Passage.notes joinHooks leaveHooks)
  atMostOnce : ∀ passage, (opening.passages moves).count passage ≤ 1
  inOrder : InOrder (opening.passages moves)
  joined : (opening.run moves).agenda = [] → ∀ subscriber,
    (opening.passages moves).count (.joined subscriber) =
      (opening.run moves).begun.count (.join subscriber)
  left : (opening.run moves).agenda = [] → ∀ subscriber,
    (opening.passages moves).count (.left subscriber) = 1 ↔
    Departs opening moves subscriber
  /-- Once nothing is left to do, everyone who subscribed has joined, and those
  have left who were dropped, closed or too far behind. -/
  settled : (opening.run moves).agenda = [] →
    (opening.run moves).hub.tasks = [] →
    ∀ subscriber < (opening.run moves).hub.queues.length,
      (opening.passages moves).count (.joined subscriber) = 1 ∧
        ((opening.passages moves).count (.left subscriber) = 1 ↔
          (opening.run moves).hub.isDropped subscriber = true ∨
            .close ∈
              HubTask.afterJoin subscriber (opening.run moves).dispatched ∨
            ∃ earlier event, FoundFull opening moves earlier subscriber event)
  settles :
    ∃ count, (opening.run (moves ++ List.replicate count .work)).agenda = [] ∧
    (opening.run (moves ++ List.replicate count .work)).hub.tasks = []
  balance :
    (opening.run moves).hub.count +
      (opening.passages moves).countP Passage.isLeft =
    (opening.passages moves).countP Passage.isJoined

theorem attended_run (queue : Nat) (joinHooks leaveHooks : List HubHook)
    (hcalm : ∀ hook ∈ joinHooks ++ leaveHooks, ∀ other,
      hook.panicsFor other = false)
    (moves : List Move) :
    Attended joinHooks leaveHooks (.start queue joinHooks leaveHooks)
      moves := by
  have horderly := Orderly.start queue hcalm
  have hnew :
      ∀ subscriber, OnTime subscriber (start queue joinHooks leaveHooks).begun
      ((start queue joinHooks leaveHooks).share subscriber) :=
        fun _ => .resting rfl rfl rfl
  have hafter := horderly.run moves
  have hrecorded :=
    horderly.recorded_run (.start queue joinHooks leaveHooks) moves
  constructor
  case called => exact hrecorded.notes
  case atMostOnce => exact hrecorded.count_le_one hafter
  case inOrder => exact hrecorded.inOrder
  case joined =>
    intro hidle subscriber
    rw [hrecorded.joined, hafter.held_of_idle hidle]
  case left =>
    intro hidle subscriber
    rw [hrecorded.count_left_eq_one,
      letGo_iff_departs horderly (hnew subscriber) hidle]
  case settled =>
    intro hidle hdone subscriber hknown
    have hbegun := hafter.inOrder
    rw [hdone, List.append_nil] at hbegun
    have hexcused :=
      (Excused.start queue joinHooks leaveHooks subscriber).run horderly moves
    rw [hrecorded.joined, hafter.held_of_settled hidle hdone hknown,
      hrecorded.count_left_eq_one,
      letGo_iff_departs horderly (hnew subscriber) hidle]
    exact ⟨rfl,
      departs_iff_of_settled horderly (hnew subscriber) hexcused hknown
        hbegun.symm⟩
  case settles =>
    obtain ⟨count, hrests⟩ := hafter.run_rests
    refine ⟨count, ?_⟩
    rw [run_append]
    exact hrests
  case balance => exact hrecorded.balance

/-- The first subscriber is too far behind, then drops its stream, and then
everyone is closed. -/
def partingMoves : List Move :=
  [.subscribe, .subscribe, .work, .work, .work, .work,
    .broadcast (letter "a"), .broadcast (letter "b"), .drop 0, .close,
    .work, .work, .work, .read 1, .work, .work, .work, .work, .work, .work,
    .work, .work]

theorem attended_parting :
    (∀ hook ∈ [quietHook "joined"] ++ [quietHook "left"], ∀ other,
        hook.panicsFor other = false) ∧
      Attended [quietHook "joined"] [quietHook "left"] narrow partingMoves ∧
      (narrow.run partingMoves).agenda = [] ∧
      (narrow.run partingMoves).hub.tasks = [] ∧
      (narrow.run partingMoves).hub.notes =
        ["joined 0", "joined 1", "left 0", "left 1"] := by
  have hcalm : ∀ hook ∈ [quietHook "joined"] ++ [quietHook "left"], ∀ other,
      hook.panicsFor other = false := by
    simp [quietHook]
  have hattended :=
    attended_run 1 [quietHook "joined"] [quietHook "left"] hcalm partingMoves
  exact ⟨hcalm, hattended, by decide, by decide, by decide⟩

end Traffic

end HttpEngine
