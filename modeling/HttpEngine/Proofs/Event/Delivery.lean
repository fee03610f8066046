import HttpEngine.Proofs.Event.Standing

/-!
# What a subscriber gets

`delivered_run` says, for every run of a hub whose hooks return normally, which
of the events addressed to a subscriber it has read and which are still queued
for it, however the moves of callers, clients and the worker fall between each
other.
-/

namespace HttpEngine.Traffic

variable {traffic after opening : Traffic} {move : Move}
  {moves earlier : List Move} {subscriber : Nat} {event : Event}

/-! ## Standings after a run -/

theorem OnTime.run
    (honTime : OnTime subscriber opening.begun (opening.share subscriber))
    (horderly : opening.Orderly)
    (hmisses : ∀ earlier later event, moves = earlier ++ .work :: later →
      ¬ (opening.run earlier).Misses subscriber event) :
    OnTime subscriber (opening.run moves).begun
      ((opening.run moves).share subscriber) := by
  induction moves using List.reverseRecOn with
  | nil => exact honTime
  | append_singleton moves move ih =>
      have horderly := horderly.run moves
      rw [run_snoc]
      refine (ih ?_).act horderly (acted_act horderly.calm move) ?_
      · rintro earlier later event rfl
        exact hmisses earlier (later ++ [move]) event (by simp)
      · rintro rfl event
        exact hmisses moves [] event rfl

theorem OnTime.run_or_behind
    (honTime : OnTime subscriber opening.begun (opening.share subscriber))
    (horderly : opening.Orderly) (moves : List Move) :
    OnTime subscriber (opening.run moves).begun
      ((opening.run moves).share subscriber) ∨
      ∃ event, Behind subscriber (opening.run moves).begun
        ((opening.run moves).share subscriber) event := by
  induction moves using List.reverseRecOn with
  | nil => exact .inl honTime
  | append_singleton moves move ih =>
      have horderly := horderly.run moves
      have hacted := acted_act horderly.calm move
      rw [run_snoc]
      rcases ih with honTime | ⟨event, hbehind⟩
      · by_cases hmisses :
          move = .work ∧ ∃ event, (opening.run moves).Misses subscriber event
        · obtain ⟨rfl, event, hmisses⟩ := hmisses
          exact .inr ⟨event, (honTime.missed hacted hmisses).2⟩
        · refine .inl (honTime.act horderly hacted
            fun hwork event hmissed => ?_)
          exact hmisses ⟨hwork, event, hmissed⟩
      · exact .inr ⟨event, (hbehind.act horderly hacted).2⟩

theorem OnTime.run_of_misses
    (honTime : OnTime subscriber opening.begun (opening.share subscriber))
    (horderly : opening.Orderly)
    (hmisses : (opening.run earlier).Misses subscriber event) :
    OnTime subscriber (opening.run earlier).begun
      ((opening.run earlier).share subscriber) := by
  rcases honTime.run_or_behind horderly earlier with honTime | ⟨_, hbehind⟩
  · exact honTime
  · exact absurd hmisses hbehind.not_misses

/-- Once an event was missed, nothing more is queued. -/
theorem OnTime.run_behind
    (honTime : OnTime subscriber opening.begun (opening.share subscriber))
    (horderly : opening.Orderly)
    (hmisses : (opening.run earlier).Misses subscriber event)
    (later : List Move) :
    ((opening.run (earlier ++ .work :: later)).share subscriber).kept =
        ((opening.run earlier).share subscriber).kept ∧
      Behind subscriber (opening.run (earlier ++ .work :: later)).begun
        ((opening.run (earlier ++ .work :: later)).share subscriber) event := by
  induction later using List.reverseRecOn with
  | nil =>
      rw [run_snoc]
      exact (honTime.run_of_misses horderly hmisses).missed
        (acted_act (horderly.run earlier).calm .work) hmisses
  | append_singleton later move ih =>
      have horderly := horderly.run (earlier ++ .work :: later)
      have hafter := ih.2.act horderly (acted_act horderly.calm move)
      rw [← List.cons_append, ← List.append_assoc, run_snoc]
      exact ⟨hafter.1.trans ih.1, hafter.2⟩

/-! ## Full queues -/

/-- An event found as many events of a subscriber unread as there may be. -/
def FoundFull (opening : Traffic) (moves earlier : List Move) (subscriber : Nat)
    (event : Event) :
    Prop :=
  (∃ later, moves = earlier ++ .work :: later) ∧
    (opening.run earlier).agenda.head? = some (.offer event subscriber) ∧
    ((opening.run earlier).share subscriber).queue.events.length =
      opening.hub.capacity

theorem capacity_act (hacted : traffic.Acted move after) :
    after.hub.capacity = traffic.hub.capacity := by
  cases hacted with
  | performed step rest hagenda hub left hperformed => cases hperformed <;> rfl
  | _ => rfl

/-- A stream that is there was there before. -/
theorem receiving_act (hacted : traffic.Acted move after)
    (hpresent : (after.hub.queueOf subscriber).receiving = true) :
    (traffic.hub.queueOf subscriber).receiving = true := by
  cases hacted with
  | nothing => exact hpresent
  | subscribed => rwa [← Hub.queueOf_withQueue]
  | dispatched => exact hpresent
  | dropped => exact Hub.receiving_of_changeQueue (by simp) hpresent
  | received => exact Hub.receiving_of_changeQueue id hpresent
  | performed step rest hagenda hub left hperformed =>
      cases hperformed with
      | queued => exact Hub.receiving_of_changeQueue id hpresent
      | removed => exact Hub.receiving_of_changeQueue id hpresent
      | joined => exact hpresent
      | refused => exact hpresent
      | missing => exact hpresent
  | began => exact hpresent

theorem Orderly.capacity_run (horderly : opening.Orderly) (moves : List Move) :
    (opening.run moves).hub.capacity = opening.hub.capacity := by
  induction moves using List.reverseRecOn with
  | nil => rfl
  | append_singleton moves move ih =>
      rw [run_snoc, capacity_act (acted_act (horderly.run moves).calm move), ih]

theorem Orderly.receiving_run (horderly : opening.Orderly) (later : List Move)
    (hpresent : ((opening.run (earlier ++ later)).hub.queueOf
      subscriber).receiving = true) :
    ((opening.run earlier).hub.queueOf subscriber).receiving = true := by
  induction later using List.reverseRecOn with
  | nil => rwa [List.append_nil] at hpresent
  | append_singleton later move ih =>
      rw [← List.append_assoc, run_snoc] at hpresent
      exact ih
        (receiving_act (acted_act (horderly.run (earlier ++ later)).calm move)
          hpresent)

theorem FoundFull.misses
    (hfull : FoundFull opening moves earlier subscriber event)
    (horderly : opening.Orderly) :
    (opening.run earlier).Misses subscriber event := by
  obtain ⟨-, hnext, hfull⟩ := hfull
  refine ⟨hnext, .inr ?_⟩
  rw [horderly.capacity_run, ← hfull]
  rfl

theorem Orderly.foundFull (horderly : opening.Orderly) {later : List Move}
    (hnext : (opening.run earlier).agenda.head? =
      some (.offer event subscriber))
    (hfull : (opening.run earlier).hub.capacity ≤
      ((opening.run earlier).hub.queueOf subscriber).events.length) :
    FoundFull opening (earlier ++ .work :: later) earlier subscriber event := by
  have hbounded := (horderly.run earlier).bounded subscriber
  refine ⟨⟨later, rfl⟩, hnext, ?_⟩
  rw [← horderly.capacity_run earlier]
  exact Nat.le_antisymm hbounded hfull

/-- Where the stream was not dropped, an event is missed for want of
room only. -/
theorem OnTime.foundFull
    (honTime : OnTime subscriber opening.begun (opening.share subscriber))
    (horderly : opening.Orderly) {later : List Move}
    (hpresent : ((opening.run (earlier ++ .work :: later)).hub.queueOf
      subscriber).receiving = true)
    (hmisses : (opening.run earlier).Misses subscriber event) :
    FoundFull opening (earlier ++ .work :: later) earlier subscriber event := by
  have hmember := (honTime.run_of_misses horderly hmisses).mem_of_misses hmisses
  have hknown := (horderly.run earlier).known_of_mem hmember
  rcases hmisses.2 with hgone | hfull
  · rw [Hub.isDropped_of_known hknown, horderly.receiving_run _ hpresent]
      at hgone
    contradiction
  · exact horderly.foundFull hmisses.1 hfull

/-! ## The end of the work -/

/-- The work that the running task has left; an offer may turn into
a removal. -/
def effort (traffic : Traffic) : Nat :=
  traffic.agenda.length + (traffic.agenda.filterMap HubStep.event?).length

theorem effort_performed {step : HubStep} {rest left : List HubStep} {hub : Hub}
    (hagenda : traffic.agenda = step :: rest)
    (hperformed : traffic.hub.Performed rest step (hub, left)) :
    ({ traffic with hub := hub, agenda := left } : Traffic).effort <
      traffic.effort := by
  cases hperformed with
  | queued =>
      simp [effort, hagenda, HubStep.event?]
      omega
  | _ => simp [effort, hagenda, List.filterMap_cons, HubStep.event?]

theorem tasks_performed {step : HubStep} {rest left : List HubStep} {hub : Hub}
    (hperformed : traffic.hub.Performed rest step (hub, left)) :
    hub.tasks = traffic.hub.tasks := by
  cases hperformed <;> rfl

/-- Work alone ends the running task. -/
theorem Orderly.run_ends (horderly : traffic.Orderly) :
    ∃ count, (traffic.run (List.replicate count .work)).agenda = [] ∧
      (traffic.run (List.replicate count .work)).hub.tasks = traffic.hub.tasks ∧
      (traffic.run (List.replicate count .work)).dispatched =
        traffic.dispatched := by
  induction heffort : traffic.effort using Nat.strongRecOn
    generalizing traffic with
  | ind effort ih =>
      have hacted := acted_act horderly.calm .work
      have hnext := horderly.act hacted
      generalize hworked : traffic.act .work = after at hacted hnext
      cases hacted with
      | nothing _ hidle => exact ⟨0, hidle rfl, rfl, rfl⟩
      | dispatched => contradiction
      | began task tasks hidle hwaiting => exact ⟨0, hidle, rfl, rfl⟩
      | performed step rest hagenda hub left hperformed =>
          have hless := effort_performed hagenda hperformed
          rw [heffort] at hless
          obtain ⟨count, hended, htasks, hdispatched⟩ := ih _ hless hnext rfl
          have hfirst : traffic.run (List.replicate (count + 1) .work) =
              (traffic.act .work).run (List.replicate count .work) := rfl
          refine ⟨count + 1, ?_⟩
          rw [hfirst, hworked]
          exact ⟨hended, htasks.trans (tasks_performed hperformed), hdispatched⟩

/-- Work alone comes to the end of all that was dispatched. -/
theorem Orderly.run_settles (horderly : traffic.Orderly) :
    ∃ count, (traffic.run (List.replicate count .work)).agenda = [] ∧
      (traffic.run (List.replicate count .work)).begun =
        traffic.dispatched := by
  induction hwaiting : traffic.hub.tasks generalizing traffic with
  | nil =>
      obtain ⟨count, hended, htasks, hdispatched⟩ := horderly.run_ends
      refine ⟨count, hended, ?_⟩
      have hinOrder := (horderly.run (List.replicate count .work)).inOrder
      rw [htasks, hwaiting, List.append_nil] at hinOrder
      rw [← hinOrder, hdispatched]
  | cons task rest ih =>
      obtain ⟨count, hended, htasks, hdispatched⟩ := horderly.run_ends
      rw [hwaiting] at htasks
      have hbetween := horderly.run (List.replicate count .work)
      have hnext := hbetween.begin hended htasks
      obtain ⟨more, hsettled, hbegun⟩ := ih hnext rfl
      refine ⟨count + (more + 1), ?_⟩
      have hwhole : traffic.run (List.replicate (count + (more + 1)) .work) =
          ((traffic.run (List.replicate count .work)).act .work).run
            (List.replicate more .work) := by
        rw [List.replicate_add, run_append]
        rfl
      rw [hwhole, act_work_of_waiting hended htasks]
      exact ⟨hsettled, hbegun.trans hdispatched⟩

/-! ## Deliveries -/

section

variable (horderly : opening.Orderly)
  (hnew : OnTime subscriber opening.begun (opening.share subscriber))
include horderly hnew

theorem onTime_of_present
    (hpresent : (opening.run moves).hub.isDropped subscriber = false)
    (hfull : ∀ earlier event,
      ¬ FoundFull opening moves earlier subscriber event) :
    OnTime subscriber (opening.run moves).begun
      ((opening.run moves).share subscriber) := by
  have hknown := Hub.known_of_not_isDropped hpresent
  rw [Hub.isDropped_of_known hknown, Bool.not_eq_false'] at hpresent
  refine hnew.run horderly ?_
  rintro earlier later event rfl hmisses
  exact hfull earlier event (hnew.foundFull horderly hpresent hmisses)

theorem behind_of_foundFull
    (hfull : FoundFull opening moves earlier subscriber event) :
    ((opening.run moves).share subscriber).kept =
      ((opening.run earlier).share subscriber).kept ∧
      Behind subscriber (opening.run moves).begun
        ((opening.run moves).share subscriber) event := by
  obtain ⟨later, rfl⟩ := hfull.1
  exact hnew.run_behind horderly (hfull.misses horderly) later

theorem kept_isPrefix_addressed (moves : List Move) :
    ((opening.run moves).share subscriber).kept <+:
      HubTask.addressed subscriber (opening.run moves).begun := by
  rcases hnew.run_or_behind horderly moves with honTime | ⟨event, hbehind⟩
  · rw [honTime.addressed_eq]
    exact List.prefix_append _ _
  · obtain ⟨missed, hhanded⟩ := hbehind.handed
    rw [hhanded]
    exact List.prefix_append _ _

/-- Between two tasks, a queue was let go of if a task removed its subscriber or
an event found it full. -/
theorem sending_run_iff
    (hpresent : (opening.run moves).hub.isDropped subscriber = false)
    (hidle : (opening.run moves).agenda = []) :
    ((opening.run moves).hub.queueOf subscriber).sending = false ↔
      .join subscriber ∈ (opening.run moves).begun ∧
        (HubTask.belongs subscriber (opening.run moves).begun = false ∨
          ∃ earlier event,
            FoundFull opening moves earlier subscriber event) := by
  by_cases hfull :
    ∃ earlier event, FoundFull opening moves earlier subscriber event
  · obtain ⟨earlier, event, hfull⟩ := hfull
    have hletGo :
        ((opening.run moves).hub.queueOf subscriber).sending = false :=
      (behind_of_foundFull horderly hnew hfull).2.letGo (by simp [share, hidle])
    have hjoined := (horderly.run moves).joined_of_not_sending hletGo
    exact iff_of_true hletGo ⟨hjoined, .inr ⟨earlier, event, hfull⟩⟩
  · have honTime :=
      onTime_of_present horderly hnew hpresent (by simpa using hfull)
    rw [honTime.sending_iff (horderly.run moves) hidle]
    simp [hfull]

end

/-- What a subscriber has, after a run, of the events addressed to it. -/
structure Delivered (opening : Traffic) (moves : List Move) (subscriber : Nat) :
    Prop where
  /-- Tasks begin in the order in which they were dispatched. -/
  inOrder : (opening.run moves).dispatched =
    (opening.run moves).begun ++ (opening.run moves).hub.tasks
  /-- Work alone comes to the end of all that was dispatched. -/
  settles : ∃ count,
    (opening.run (moves ++ List.replicate count .work)).agenda = [] ∧
      (opening.run (moves ++ List.replicate count .work)).begun =
        (opening.run moves).dispatched
  bounded : ((opening.run moves).share subscriber).queue.events.length ≤
    opening.hub.capacity
  /-- A stream that was not dropped has every event, as long as none found its
  queue full. -/
  complete : (opening.run moves).hub.isDropped subscriber = false →
    (∀ earlier event, ¬ FoundFull opening moves earlier subscriber event) →
    HubTask.addressed subscriber (opening.run moves).begun =
      ((opening.run moves).share subscriber).received ++
        ((opening.run moves).share subscriber).queue.events ++
        ((opening.run moves).share subscriber).due
  /-- The events before one that found the queue full are all that a stream will
  ever have. -/
  cut : ∀ earlier event, FoundFull opening moves earlier subscriber event →
    ((opening.run moves).share subscriber).kept =
      ((opening.run earlier).share subscriber).kept ∧
      ∃ missed, HubTask.addressed subscriber (opening.run moves).begun =
        ((opening.run moves).share subscriber).received ++
          ((opening.run moves).share subscriber).queue.events ++ event :: missed
  /-- What was read is the front of what was addressed, also where the stream
  was dropped. -/
  read : ((opening.run moves).share subscriber).received <+:
    HubTask.addressed subscriber (opening.run moves).begun
  /-- A reader is given all that is queued. -/
  ready : (opening.run moves).hub.isDropped subscriber = false →
    ((opening.run moves).hub.readReady subscriber).2.1 =
      ((opening.run moves).share subscriber).queue.events
  /-- Between two tasks, the end follows if a task removed the subscriber or an
  event found its queue full, and not otherwise. -/
  ended : (opening.run moves).hub.isDropped subscriber = false →
    (opening.run moves).agenda = [] →
    (((opening.run moves).hub.readReady subscriber).2.2 = true ↔
      .join subscriber ∈ (opening.run moves).begun ∧
        (HubTask.belongs subscriber (opening.run moves).begun = false ∨
          ∃ earlier event, FoundFull opening moves earlier subscriber event))
  /-- Whatever comes next for another subscriber changes nothing for
  this one. -/
  apart : ∀ move other, (opening.run moves).actor? move = some other →
    other ≠ subscriber →
    ((opening.run moves).act move).share subscriber =
      (opening.run moves).share subscriber

theorem delivered_run (queue : Nat) (joinHooks leaveHooks : List HubHook)
    (hcalm : ∀ hook ∈ joinHooks ++ leaveHooks, ∀ other,
      hook.panicsFor other = false)
    (moves : List Move) (subscriber : Nat) :
    (start queue joinHooks leaveHooks).hub.capacity = max queue 1 ∧
      Delivered (start queue joinHooks leaveHooks) moves subscriber := by
  have horderly := Orderly.start queue hcalm
  have hnew : OnTime subscriber (start queue joinHooks leaveHooks).begun
      ((start queue joinHooks leaveHooks).share subscriber) :=
        .resting rfl rfl rfl
  have hafter := horderly.run moves
  refine ⟨rfl, ?_⟩
  constructor
  case inOrder => exact hafter.inOrder
  case settles =>
    obtain ⟨count, hsettled⟩ := hafter.run_settles
    refine ⟨count, ?_⟩
    rw [run_append]
    exact hsettled
  case bounded =>
    rw [← horderly.capacity_run moves]
    exact hafter.bounded subscriber
  case complete =>
    intro hpresent hfull
    exact (onTime_of_present horderly hnew hpresent hfull).addressed_eq
  case cut =>
    intro earlier event hfull
    obtain ⟨hkept, hbehind⟩ := behind_of_foundFull horderly hnew hfull
    exact ⟨hkept, hbehind.handed⟩
  case read =>
    exact (List.prefix_append _ _).trans
      (kept_isPrefix_addressed horderly hnew moves)
  case ready =>
    intro hpresent
    rw [Hub.readReady_of_known (Hub.known_of_not_isDropped hpresent)]
    rfl
  case ended =>
    intro hpresent hidle
    rw [Hub.readReady_of_known (Hub.known_of_not_isDropped hpresent),
      Bool.not_eq_true']
    exact sending_run_iff horderly hnew hpresent hidle
  case apart =>
    intro move other hactor hne
    exact share_acted_of_ne (acted_act hafter.calm move) hactor hne

def letter (data : String) : Event := ⟨none, none, data⟩

def quietHook (label : String) : HubHook := ⟨label, fun _ => false⟩

/-- A hub with room for one event a subscriber. -/
def narrow : Traffic := start 1 [quietHook "joined"] [quietHook "left"]

/-- Only the second subscriber reads, once between two offers of
one broadcast. -/
def slowMoves : List Move :=
  [.subscribe, .subscribe, .work, .work, .work, .work,
    .broadcast (letter "a"), .work, .work, .read 1, .work, .read 1,
    .broadcast (letter "b"), .work, .work, .work, .work, .read 1]

theorem delivered_slow :
    (∀ hook ∈ [quietHook "joined"] ++ [quietHook "left"], ∀ other,
        hook.panicsFor other = false) ∧
      Delivered narrow slowMoves 0 ∧
      FoundFull narrow slowMoves (slowMoves.take 14) 0 (letter "b") ∧
      ((narrow.run slowMoves).share 0).kept = [letter "a"] ∧
      ((narrow.run slowMoves).share 1).received = [letter "a", letter "b"] := by
  have hcalm : ∀ hook ∈ [quietHook "joined"] ++ [quietHook "left"], ∀ other,
      hook.panicsFor other = false := by
    simp [quietHook]
  have hdelivered :=
    delivered_run 1 [quietHook "joined"] [quietHook "left"] hcalm slowMoves 0
  exact ⟨hcalm, hdelivered.2, ⟨⟨_, rfl⟩, by decide, by decide⟩,
    by decide, by decide⟩

end HttpEngine.Traffic
