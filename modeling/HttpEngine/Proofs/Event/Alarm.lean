import HttpEngine.Proofs.Event.Membership

/-!
# Hooks that panic

A hook that panics ends the task of the worker, and what is left of it is not
done.  Even so a subscriber joins once at most, and who has left is not sent to
again.
-/

namespace HttpEngine

/-! ## Steps -/

namespace Hub

variable {hub : Hub} {subscriber other : Nat}

def alarms (hooks : List HubHook) (subscriber : Nat) : Bool :=
  hooks.any (·.panicsFor subscriber)

theorem runHooks_eq (hub : Hub) (subscriber : Nat) (hooks : List HubHook) :
    ∃ notes, hub.runHooks subscriber hooks =
      ({ hub with notes := notes }, alarms hooks subscriber) := by
  induction hooks generalizing hub with
  | nil => exact ⟨hub.notes, rfl⟩
  | cons hook hooks ih =>
      rw [runHooks]
      by_cases hpanics : hook.panicsFor subscriber
      · exact ⟨hub.notes, by simp [alarms, hpanics]⟩
      · obtain ⟨notes, hran⟩ :=
          ih { hub with
            notes := hub.notes ++ [hook.label ++ " " ++ toString subscriber] }
        refine ⟨notes, ?_⟩
        rw [if_neg hpanics, hran]
        simp [alarms, hpanics]

/-- The hub after a member is let go of, with other notes. -/
def released (hub : Hub) (subscriber : Nat) (notes : List String) : Hub :=
  { hub.changeQueue subscriber (fun queue =>
    { queue with sending := false }) with
      members := hub.members.filter (· != subscriber)
      notes := notes }

@[simp] theorem length_queues_released (notes : List String) :
    (hub.released subscriber notes).queues.length = hub.queues.length := by
  simp [released]

theorem events_released (notes : List String) :
    ((hub.released subscriber notes).queueOf other).events =
      (hub.queueOf other).events :=
  part_changeQueue EventQueue.events rfl

theorem remove_eq (hmem : subscriber ∈ hub.members) :
    ∃ notes, hub.remove subscriber =
      (hub.released subscriber notes, alarms hub.leaveHooks subscriber) := by
  obtain ⟨notes, hran⟩ := runHooks_eq
    ({ hub with
      members := hub.members.filter (· != subscriber) }.changeQueue subscriber
      fun queue => { queue with sending := false }) subscriber hub.leaveHooks
  refine ⟨notes, ?_⟩
  simp only [remove, List.contains_iff_mem.2 hmem, if_true, changeQueue,
    released] at hran ⊢
  exact hran

/-- All that a step can do. -/
inductive Stepped (hub : Hub) (rest : List HubStep) :
    HubStep → Hub × List HubStep → Prop
  | joined (subscriber : Nat) (notes : List String) :
      Stepped hub rest (.join subscriber)
        ({ hub with members := hub.members ++ [subscriber], notes := notes },
          if alarms hub.joinHooks subscriber then [] else rest)
  | queued (event : Event) (subscriber : Nat)
      (htakes : ¬ hub.Refuses subscriber) :
      Stepped hub rest (.offer event subscriber)
        (hub.changeQueue subscriber fun _ =>
          { hub.queueOf subscriber with
            events := (hub.queueOf subscriber).events ++ [event] },
          rest)
  | refused (event : Event) (subscriber : Nat)
      (hrefuses : hub.Refuses subscriber) :
      Stepped hub rest (.offer event subscriber) (hub,
        rest ++ [.remove subscriber])
  | removed (subscriber : Nat) (hmem : subscriber ∈ hub.members)
      (notes : List String) :
      Stepped hub rest (.remove subscriber)
        (hub.released subscriber notes,
          if alarms hub.leaveHooks subscriber then [] else rest)
  | missing (subscriber : Nat) (habsent : subscriber ∉ hub.members) :
      Stepped hub rest (.remove subscriber) (hub, rest)

theorem stepped_perform (hub : Hub) (rest : List HubStep) (step : HubStep) :
    hub.Stepped rest step (hub.perform rest step) := by
  cases step with
  | join subscriber =>
      obtain ⟨notes, hran⟩ :=
        runHooks_eq { hub with members := hub.members ++ [subscriber] }
        subscriber hub.joinHooks
      rw [perform, hran]
      exact .joined subscriber notes
  | offer event subscriber =>
      by_cases hrefuses : hub.Refuses subscriber
      · rw [perform, offer_of_refuses hrefuses]
        exact .refused event subscriber hrefuses
      · rw [perform, offer_of_not_refuses hrefuses]
        exact .queued event subscriber hrefuses
  | remove subscriber =>
      by_cases hmem : subscriber ∈ hub.members
      · obtain ⟨notes, hgone⟩ := remove_eq hmem
        rw [perform, hgone]
        exact .removed subscriber hmem notes
      · simpa [perform, remove_of_not_mem hmem]
          using Stepped.missing subscriber hmem

end Hub

/-! ## Moves -/

namespace Traffic

variable {traffic after : Traffic} {move : Move} {subscriber : Nat}

/-- All that a move can do. -/
inductive Moved (traffic : Traffic) : Move → Traffic → Prop
  | called (move : Move) (hcalled : move ≠ .work) (after : Traffic)
      (hacted : traffic.Acted move after) : Moved traffic move after
  | rested (hagenda : traffic.agenda = []) (hnone : traffic.hub.tasks = []) :
      Moved traffic .work traffic
  | performed (step : HubStep) (rest : List HubStep)
      (hagenda : traffic.agenda = step :: rest) (hub : Hub)
      (left : List HubStep)
      (hstepped : traffic.hub.Stepped rest step (hub, left)) :
      Moved traffic .work { traffic with hub := hub, agenda := left }
  | began (task : HubTask) (tasks : List HubTask)
      (hagenda : traffic.agenda = [])
      (hwaiting : traffic.hub.tasks = task :: tasks) :
      Moved traffic .work
        { traffic with
          hub := { traffic.hub with tasks := tasks }
          agenda := task.steps traffic.hub.members
          begun := traffic.begun ++ [task] }

theorem moved_act (traffic : Traffic) (move : Move) :
    traffic.Moved move (traffic.act move) := by
  by_cases hcalled : move = .work
  · subst hcalled
    cases hagenda : traffic.agenda with
    | cons step rest =>
        rw [act_work_of_agenda hagenda]
        exact .performed step rest hagenda _ _
          (traffic.hub.stepped_perform rest step)
    | nil =>
        cases hwaiting : traffic.hub.tasks with
        | nil =>
            simpa [act, hagenda, hwaiting] using Moved.rested hagenda hwaiting
        | cons task tasks =>
            rw [act_work_of_waiting hagenda hwaiting]
            exact .began task tasks hagenda hwaiting
  · exact .called move hcalled _ (acted_of_called traffic hcalled)

/-! ## Joining once -/

/-- The joins of a subscriber that are still to be performed. -/
def pending (traffic : Traffic) (subscriber : Nat) : Nat :=
  traffic.hub.tasks.count (.join subscriber) +
    traffic.agenda.count (.join subscriber)

/-- A subscriber is about to join, or is a member once, or neither. -/
def Seated (traffic : Traffic) : Prop :=
  ∀ subscriber,
    traffic.pending subscriber + traffic.hub.members.count subscriber ≤
    traffic.hub.known subscriber

namespace Seated

theorem known_of_mem (hseated : traffic.Seated)
    (hmem : subscriber ∈ traffic.hub.members) :
    subscriber < traffic.hub.queues.length := by
  have hseat := hseated subscriber
  have hmember := List.count_pos_iff.2 hmem
  exact Hub.known_eq_one (by omega)

theorem pending_of_mem (hseated : traffic.Seated)
    (hmem : subscriber ∈ traffic.hub.members) :
    traffic.pending subscriber = 0 := by
  have hseat := hseated subscriber
  have hmember := List.count_pos_iff.2 hmem
  have hmost : traffic.hub.known subscriber ≤ 1 := Hub.known_le_one
  omega

theorem nodup (hseated : traffic.Seated) : traffic.hub.members.Nodup := by
  rw [List.nodup_iff_count]
  intro subscriber
  have hseat := hseated subscriber
  have hmost : traffic.hub.known subscriber ≤ 1 := Hub.known_le_one
  omega

theorem start (queue : Nat) (joinHooks leaveHooks : List HubHook) :
    (start queue joinHooks leaveHooks).Seated :=
  fun _ => Nat.zero_le _

end Seated

theorem pending_dispatch (task : HubTask) :
    (traffic.dispatch task).pending subscriber = traffic.pending subscriber +
      [task].count (.join subscriber) := by
  simp only [pending, dispatch, Hub.dispatch, List.count_append]
  omega

theorem pending_began {task : HubTask} {tasks : List HubTask}
    (hagenda : traffic.agenda = [])
    (hwaiting : traffic.hub.tasks = task :: tasks) {hub : Hub}
    (hleft : hub.tasks = tasks) :
    pending { traffic with
      hub := hub
      agenda := task.steps traffic.hub.members
      begun := traffic.begun ++ [task] } subscriber =
        traffic.pending subscriber := by
  simp only [pending, HubTask.count_join_steps, hagenda, hwaiting, hleft,
    List.count_cons, List.count_nil]
  omega

/-- What callers and clients leave as it is. -/
structure Aside (traffic after : Traffic) : Prop where
  agenda : after.agenda = traffic.agenda
  begun : after.begun = traffic.begun
  members : after.hub.members = traffic.hub.members
  leaveHooks : after.hub.leaveHooks = traffic.hub.leaveHooks
  queues : traffic.hub.queues.length ≤ after.hub.queues.length
  pending :
    ∀ subscriber, after.pending subscriber + traffic.hub.known subscriber =
    traffic.pending subscriber + after.hub.known subscriber
  events : ∀ subscriber,
    (after.hub.queueOf subscriber).events <:+
      (traffic.hub.queueOf subscriber).events

theorem Acted.aside (hacted : traffic.Acted move after)
    (hcalled : move ≠ .work) :
    traffic.Aside after := by
  have hsuffix_changeQueue (other subscriber : Nat)
      (change : EventQueue → EventQueue)
      (hshorter : (change (traffic.hub.queueOf other)).events <:+
        (traffic.hub.queueOf other).events) :
      ((traffic.hub.changeQueue other change).queueOf subscriber).events <:+
        (traffic.hub.queueOf subscriber).events := by
    rw [Hub.queueOf_changeQueue]
    split
    · rename_i hhere
      rw [← hhere.1]
      exact hshorter
    · exact List.suffix_rfl
  cases hacted with
  | nothing =>
      exact ⟨rfl, rfl, rfl, rfl, Nat.le_refl _, fun _ => rfl,
        fun _ => List.suffix_rfl⟩
  | subscribed =>
      refine ⟨rfl, rfl, rfl, rfl, ?_, fun subscriber => ?_,
        fun subscriber => ?_⟩
      · simp [dispatch, Hub.dispatch, Hub.withQueue]
      · rw [pending_dispatch]
        change _ = _ + traffic.hub.withQueue.known subscriber
        rw [Hub.known_withQueue, Nat.add_right_comm, Nat.add_assoc]
        rfl
      · change (traffic.hub.withQueue.queueOf subscriber).events <:+ _
        simp only [Hub.queueOf_withQueue, List.suffix_rfl]
  | dispatched _ _ task hother =>
      refine ⟨rfl, rfl, rfl, rfl, Nat.le_refl _, fun subscriber => ?_,
        fun _ => List.suffix_rfl⟩
      have hnone : [task].count (.join subscriber) = 0 := by
        simpa [List.count_eq_zero] using (hother subscriber).symm
      rw [pending_dispatch, hnone]
      rfl
  | dropped other hpresent =>
      refine ⟨rfl, rfl, rfl, rfl, ?_, fun subscriber => ?_,
        fun subscriber => ?_⟩
      · simp [dispatch, Hub.dispatch]
      · rw [pending_dispatch]
        simp [Traffic.pending, Hub.known, dispatch, Hub.dispatch,
          Hub.changeQueue]
      · exact hsuffix_changeQueue other subscriber _ List.suffix_rfl
  | received other hpresent event rest hqueued =>
      refine ⟨rfl, rfl, rfl, rfl, ?_, fun subscriber => ?_,
        fun subscriber => ?_⟩
      · simp
      · simp [Traffic.pending, Hub.known, Hub.changeQueue]
      · exact hsuffix_changeQueue other subscriber _
          (hqueued ▸ List.suffix_cons event rest)
  | performed => contradiction
  | began => contradiction

theorem Seated.act (hseated : traffic.Seated)
    (hmoved : traffic.Moved move after) :
    after.Seated := by
  intro subscriber
  have hseat := hseated subscriber
  cases hmoved with
  | called _ hcalled _ hacted =>
      have haside := hacted.aside hcalled
      have hpending := haside.pending subscriber
      rw [haside.members]
      omega
  | rested => exact hseat
  | performed step rest hagenda hub left hstepped =>
      rw [pending, hagenda] at hseat
      have hcut (stops : Bool) :
          (if stops then [] else rest).count (.join subscriber) ≤
          rest.count (.join subscriber) := by
        cases stops <;> simp
      cases hstepped with
      | joined other notes =>
          have hjoins : (HubStep.join other :: rest).count (.join subscriber) =
              rest.count (.join subscriber) + [other].count subscriber := by
            simp [List.count_cons]
          have hnext := hcut (Hub.alarms traffic.hub.joinHooks other)
          rw [hjoins] at hseat
          change _ ≤ traffic.hub.known subscriber
          dsimp only [pending]
          rw [List.count_append]
          omega
      | queued event other htakes =>
          simpa [pending, Hub.known, Hub.changeQueue] using hseat
      | refused event other hrefuses => simpa [pending] using hseat
      | removed other hmem notes =>
          have hfewer :
              (traffic.hub.members.filter (· != other)).count subscriber ≤
              traffic.hub.members.count subscriber :=
            List.filter_sublist.count_le _
          have hnext := hcut (Hub.alarms traffic.hub.leaveHooks other)
          have hknown : (traffic.hub.released other notes).known subscriber =
              traffic.hub.known subscriber := by
            rw [Hub.known, Hub.length_queues_released, Hub.known]
          have hapart : HubStep.remove other ≠ .join subscriber := by simp
          rw [List.count_cons_of_ne hapart] at hseat
          rw [hknown]
          dsimp only [pending, Hub.released, Hub.changeQueue]
          omega
      | missing other habsent => simpa [pending] using hseat
  | began task tasks hagenda hwaiting =>
      rw [pending_began hagenda hwaiting rfl]
      exact hseat

theorem seated_run (queue : Nat) (joinHooks leaveHooks : List HubHook)
    (moves : List Move) :
    ((start queue joinHooks leaveHooks).run moves).Seated := by
  induction moves using List.reverseRecOn with
  | nil => exact Seated.start queue joinHooks leaveHooks
  | append_singleton moves move ih =>
      rw [run_snoc]
      exact ih.act (moved_act _ move)

/-! ## Leaving for good -/

/-- The subscriber is not to join any more. -/
structure Settled (subscriber : Nat) (traffic : Traffic) : Prop where
  known : subscriber < traffic.hub.queues.length
  tasks : .join subscriber ∉ traffic.hub.tasks
  agenda : .join subscriber ∉ traffic.agenda

/-- The subscriber has left as well, and the task in hand has nothing for it. -/
structure Gone (subscriber : Nat) (traffic : Traffic) : Prop
    extends Settled subscriber traffic where
  absent : subscriber ∉ traffic.hub.members
  unoffered : ∀ event, .offer event subscriber ∉ traffic.agenda

theorem pending_eq_zero :
    traffic.pending subscriber = 0 ↔
      .join subscriber ∉ traffic.hub.tasks ∧
      .join subscriber ∉ traffic.agenda := by
  rw [pending, Nat.add_eq_zero_iff, List.count_eq_zero, List.count_eq_zero]

theorem Settled.act (hsettled : traffic.Settled subscriber)
    (hmoved : traffic.Moved move after) :
    after.Settled subscriber := by
  obtain ⟨hknown, htasks, hagenda⟩ := id hsettled
  have hnone := pending_eq_zero.2 ⟨htasks, hagenda⟩
  cases hmoved with
  | called _ hcalled _ hacted =>
      have haside := hacted.aside hcalled
      have hlater := Nat.lt_of_lt_of_le hknown haside.queues
      have hsame := haside.pending subscriber
      rw [Hub.known, Hub.known, if_pos hknown, if_pos hlater, hnone] at hsame
      obtain ⟨htasks, hagenda⟩ := pending_eq_zero.1 (Nat.add_right_cancel hsame)
      exact ⟨hlater, htasks, hagenda⟩
  | rested => exact hsettled
  | performed step rest hdoing hub left hstepped =>
      rw [hdoing, List.mem_cons, not_or] at hagenda
      have hcut (stops : Bool) :
          .join subscriber ∉ if stops then [] else rest := by
        cases stops <;> simp [hagenda.2]
      cases hstepped with
      | joined other notes => exact ⟨hknown, htasks, hcut _⟩
      | queued event other htakes =>
          exact ⟨by rwa [Hub.length_queues_changeQueue], htasks, hagenda.2⟩
      | refused event other hrefuses =>
          exact ⟨hknown, htasks, by simpa using hagenda.2⟩
      | removed other hmem notes =>
          exact ⟨by rwa [Hub.length_queues_released], htasks, hcut _⟩
      | missing other hmissing => exact ⟨hknown, htasks, hagenda.2⟩
  | began task later hidle hwaiting =>
      have hbegan := @pending_began traffic subscriber task later hidle hwaiting
        { traffic.hub with tasks := later } rfl
      obtain ⟨htasks, hagenda⟩ := pending_eq_zero.1 (hbegan.trans hnone)
      exact ⟨hknown, htasks, hagenda⟩

theorem Settled.run (hsettled : traffic.Settled subscriber)
    (moves : List Move) :
    (traffic.run moves).Settled subscriber := by
  induction moves generalizing traffic with
  | nil => exact hsettled
  | cons move moves ih => exact ih (hsettled.act (moved_act traffic move))

theorem offer_not_mem_steps {members : List Nat}
    (habsent : subscriber ∉ members) (task : HubTask) (event : Event) :
    .offer event subscriber ∉ task.steps members := by
  cases task with
  | broadcast sent =>
      rw [HubTask.steps, List.mem_map]
      rintro ⟨other, hmem, hsame⟩
      exact habsent ((HubStep.offer.inj hsame).2 ▸ hmem)
  | sendTo other sent =>
      rw [HubTask.steps]
      split
      · rename_i hmem
        rw [List.mem_singleton]
        intro hsame
        exact habsent
          ((HubStep.offer.inj hsame).2 ▸ List.contains_iff_mem.1 hmem)
      · exact List.not_mem_nil
  | _ => simp [HubTask.steps]

/-- A subscriber that is gone stays so, and its queue does not grow. -/
theorem Gone.act (hgone : traffic.Gone subscriber)
    (hmoved : traffic.Moved move after) :
    after.Gone subscriber ∧
      (after.hub.queueOf subscriber).events <:+
        (traffic.hub.queueOf subscriber).events := by
  obtain ⟨hsettled, habsent, hunoffered⟩ := id hgone
  have hnext := hsettled.act hmoved
  cases hmoved with
  | called _ hcalled _ hacted =>
      have haside := hacted.aside hcalled
      exact ⟨⟨hnext, haside.members ▸ habsent, haside.agenda ▸ hunoffered⟩,
        haside.events subscriber⟩
  | rested => exact ⟨hgone, List.suffix_rfl⟩
  | performed step rest hagenda hub left hstepped =>
      have hunplanned : .join subscriber ∉ traffic.agenda := hsettled.agenda
      rw [hagenda, List.mem_cons, not_or] at hunplanned
      simp only [hagenda, List.mem_cons, not_or] at hunoffered
      have hcut (stops : Bool) (event : Event) :
          .offer event subscriber ∉ if stops then [] else rest := by
        cases stops <;> simp [(hunoffered event).2]
      cases hstepped with
      | joined other notes =>
          refine ⟨⟨hnext, ?_, hcut _⟩, List.suffix_rfl⟩
          rw [List.mem_append, List.mem_singleton]
          rintro (hmem | rfl)
          · exact habsent hmem
          · exact hunplanned.1 rfl
      | queued event other htakes =>
          have hapart : ¬ other = subscriber := by
            rintro rfl
            exact (hunoffered event).1 rfl
          refine ⟨⟨hnext, habsent, fun event => (hunoffered event).2⟩, ?_⟩
          simp only [Hub.queueOf_changeQueue, hapart, false_and, if_false,
            List.suffix_rfl]
      | refused event other hrefuses =>
          refine ⟨⟨hnext, habsent, fun event => ?_⟩, List.suffix_rfl⟩
          simpa using (hunoffered event).2
      | removed other hmem notes =>
          refine ⟨⟨hnext, fun hmem => habsent (List.mem_filter.1 hmem).1,
            hcut _⟩, ?_⟩
          simp only [Hub.events_released, List.suffix_rfl]
      | missing other hmissing =>
          exact ⟨⟨hnext, habsent, fun event => (hunoffered event).2⟩,
            List.suffix_rfl⟩
  | began task tasks hagenda hwaiting =>
      exact ⟨⟨hnext, habsent, offer_not_mem_steps habsent task⟩,
        List.suffix_rfl⟩

/-- The subscriber is no member any more and gets no event, whatever happens. -/
def Departed (subscriber : Nat) (traffic : Traffic) : Prop :=
  ∀ moves, subscriber ∉ (traffic.run moves).hub.members ∧
    ((traffic.run moves).hub.queueOf subscriber).events <:+
      (traffic.hub.queueOf subscriber).events

theorem Gone.departed (hgone : traffic.Gone subscriber) :
    traffic.Departed subscriber := by
  intro moves
  have hkept : (traffic.run moves).Gone subscriber ∧
      ((traffic.run moves).hub.queueOf subscriber).events <:+
        (traffic.hub.queueOf subscriber).events := by
    induction moves using List.reverseRecOn with
    | nil => exact ⟨hgone, List.suffix_rfl⟩
    | append_singleton moves move ih =>
        rw [run_snoc]
        obtain ⟨hstays, hshorter⟩ := ih.1.act (moved_act _ move)
        exact ⟨hstays, hshorter.trans ih.2⟩
  exact ⟨hkept.1.absent, hkept.2⟩

end Traffic

end HttpEngine
