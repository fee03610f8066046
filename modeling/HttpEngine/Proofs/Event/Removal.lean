import HttpEngine.Proofs.Event.Alarm
import Mathlib.Data.List.Nodup

/-!
# Whom a task removes

A task removes subscribers one after the other, and a hook that panics for one
of them keeps the others.  Those that were to leave have left for good after the
task exactly if no hook panicked before the last of them was let go of:
`leavers_departed_iff` says so of every task, whatever callers and clients do
meanwhile.
-/

namespace HttpEngine

/-! ## Cutting a list short -/

section

variable {α : Type} {p : α → Bool} {xs : List α}

/-- The elements up to the first with a property, which is the last one then. -/
def upTo (p : α → Bool) : List α → List α
  | [] => []
  | x :: xs => if p x then [x] else x :: upTo p xs

theorem forall_mem_upTo_iff (hdistinct : xs.Nodup) :
    (∀ x ∈ xs, x ∈ upTo p xs) ↔ ∀ x ∈ xs.dropLast, p x = false := by
  induction xs with
  | nil => simp
  | cons x xs ih =>
      rw [List.nodup_cons] at hdistinct
      cases xs with
      | nil => simp [upTo]
      | cons y ys =>
          obtain ⟨hapart, hdistinct⟩ := hdistinct
          rw [List.dropLast_cons_cons, @List.forall_mem_cons _ (p · = false),
            ← ih hdistinct, upTo]
          cases hstops : p x with
          | true =>
              have hkept : y ∉ [x] := by
                rw [List.mem_singleton]
                rintro rfl
                exact hapart List.mem_cons_self
              rw [if_pos rfl]
              constructor
              · intro hall
                exact absurd (hall y
                  (List.mem_cons_of_mem _ List.mem_cons_self)) hkept
              · rintro ⟨hnone, -⟩
                contradiction
          | false =>
              rw [if_neg Bool.false_ne_true]
              constructor
              · intro hall
                refine ⟨rfl, fun z hmem => ?_⟩
                refine (List.mem_cons.1
                  (hall z (List.mem_cons_of_mem _ hmem))).resolve_left ?_
                rintro rfl
                exact hapart hmem
              · rintro ⟨-, hall⟩ z hmem
                rcases List.mem_cons.1 hmem with rfl | hmem
                · exact List.mem_cons_self
                · exact List.mem_cons_of_mem _ (hall z hmem)

end

namespace Traffic

variable {traffic : Traffic} {subscriber : Nat}

/-! ## Answers -/

/-- Whom a move offers an event to, and whether it is queued. -/
def answer? (traffic : Traffic) : Move → Option (Nat × Bool)
  | .work =>
      match traffic.agenda with
      | .offer event subscriber :: _ =>
          some (subscriber, (traffic.hub.offer event subscriber).2)
      | _ => none
  | _ => none

/-- The answers to the offers of a run, in order. -/
def answers (traffic : Traffic) : List Move → List (Nat × Bool)
  | [] => []
  | move :: moves =>
      (traffic.answer? move).toList ++ (traffic.act move).answers moves

def refused (answers : List (Nat × Bool)) : List Nat :=
  (answers.filter (!·.2)).map Prod.fst

theorem answer?_of_called {move : Move} (hcalled : move ≠ .work) :
    traffic.answer? move = none := by
  cases move <;> first | rfl | contradiction

/-! ## A task in hand -/

theorem begun_grows (traffic : Traffic) (moves : List Move) :
    traffic.begun <+: (traffic.run moves).begun := by
  induction moves generalizing traffic with
  | nil => exact List.prefix_rfl
  | cons move moves ih =>
      refine List.IsPrefix.trans ?_ (ih (traffic.act move))
      have hmoved := moved_act traffic move
      generalize traffic.act move = after at hmoved
      cases hmoved with
      | called _ hcalled _ hacted =>
          exact (hacted.aside hcalled).begun ▸ List.prefix_rfl
      | rested => exact List.prefix_rfl
      | performed => exact List.prefix_rfl
      | began => exact List.prefix_append _ _

theorem begun_act (traffic : Traffic) (move : Move) (moves : List Move)
    (halone : (traffic.run (move :: moves)).begun = traffic.begun) :
    (traffic.act move).begun = traffic.begun := by
  have hfirst := traffic.begun_grows [move]
  have hlater := (traffic.act move).begun_grows moves
  rw [show ((traffic.act move).run moves).begun = traffic.begun from halone]
    at hlater
  exact (hfirst.eq_of_length_le hlater.length_le).symm

theorem run_idle (hidle : traffic.agenda = []) (moves : List Move)
    (halone : (traffic.run moves).begun = traffic.begun) :
    (traffic.run moves).hub.members = traffic.hub.members ∧
      traffic.answers moves = [] := by
  induction moves generalizing traffic with
  | nil => exact ⟨rfl, rfl⟩
  | cons move moves ih =>
      have hnext := traffic.begun_act move moves halone
      have hsilent : traffic.answer? move = none := by
        cases move <;> simp [answer?, hidle]
      rw [answers, hsilent]
      have hmoved := moved_act traffic move
      change ((traffic.act move).run moves).begun = _ at halone
      change ((traffic.act move).run moves).hub.members = _ ∧
        (traffic.act move).answers moves = []
      generalize traffic.act move = after at *
      cases hmoved with
      | called _ hcalled _ hacted =>
          have haside := hacted.aside hcalled
          rw [← haside.members]
          exact ih (haside.agenda.trans hidle) (halone.trans hnext.symm)
      | rested => exact ih hidle halone
      | performed step rest hagenda => simp [hidle] at hagenda
      | began => simp at hnext

/-- An offer leaves the members as they are; who refuses it is to be removed in
the end. -/
theorem act_offer {event : Event} {rest : List HubStep}
    (hagenda : traffic.agenda = .offer event subscriber :: rest) :
    (traffic.act .work).hub.members = traffic.hub.members ∧
      (traffic.act .work).hub.leaveHooks = traffic.hub.leaveHooks ∧
      ((traffic.act .work).agenda = rest ∧
        traffic.answer? .work = some (subscriber, true) ∨
        (traffic.act .work).agenda = rest ++ [.remove subscriber] ∧
          traffic.answer? .work = some (subscriber, false)) := by
  rw [act_work_of_agenda hagenda, Hub.perform, answer?]
  simp only [hagenda]
  by_cases hrefuses : traffic.hub.Refuses subscriber
  · rw [Hub.offer_of_refuses hrefuses]
    exact ⟨rfl, rfl, .inr ⟨rfl, rfl⟩⟩
  · rw [Hub.offer_of_not_refuses hrefuses]
    exact ⟨rfl, rfl, .inl ⟨rfl, rfl⟩⟩

/-- A removal is the last step of its task if a hook panics. -/
theorem act_remove {rest : List HubStep}
    (hagenda : traffic.agenda = .remove subscriber :: rest)
    (hmem : subscriber ∈ traffic.hub.members) :
    (traffic.act .work).hub.members =
      traffic.hub.members.filter (· != subscriber) ∧
      (traffic.act .work).hub.leaveHooks = traffic.hub.leaveHooks ∧
      (traffic.act .work).agenda =
        (if Hub.alarms traffic.hub.leaveHooks subscriber then [] else rest) ∧
      traffic.answer? .work = none := by
  obtain ⟨notes, hgone⟩ := Hub.remove_eq hmem
  rw [act_work_of_agenda hagenda, Hub.perform, hgone]
  exact ⟨rfl, rfl, rfl, by simp only [answer?, hagenda]⟩

theorem run_removals {removals : List Nat}
    (hagenda : traffic.agenda = removals.map .remove)
    (hdistinct : removals.Nodup)
    (hamong : ∀ subscriber ∈ removals, subscriber ∈ traffic.hub.members)
    (moves : List Move) (hfinished : (traffic.run moves).agenda = [])
    (halone : (traffic.run moves).begun = traffic.begun) :
    (traffic.run moves).hub.members =
        traffic.hub.members.filter (· ∉
          upTo (Hub.alarms traffic.hub.leaveHooks) removals) ∧
      traffic.answers moves = [] := by
  induction moves generalizing traffic removals with
  | nil =>
      obtain rfl : removals = [] :=
        List.map_eq_nil_iff.1 (hagenda.symm.trans hfinished)
      simp [answers, upTo, run]
  | cons move moves ih =>
      have hnext := traffic.begun_act move moves halone
      change ((traffic.act move).run moves).agenda = _ at hfinished
      cases removals with
      | nil =>
          obtain ⟨hstay, hnone⟩ := run_idle hagenda (move :: moves) halone
          exact ⟨hstay.trans (by simp [upTo]), hnone⟩
      | cons subscriber removals =>
          change ((traffic.act move).run moves).begun = _ at halone
          change ((traffic.act move).run moves).hub.members = _ ∧ _
          rw [← hnext] at halone
          by_cases hcalled : move = .work
          · subst hcalled
            obtain ⟨hmembers, hleaveHooks, hleft, hanswer⟩ :=
              act_remove hagenda (hamong subscriber List.mem_cons_self)
            rw [answers, hanswer, upTo]
            cases hstops : Hub.alarms traffic.hub.leaveHooks subscriber with
            | true =>
                -- the task is over, and nobody leaves until the next begins
                rw [hstops, if_pos rfl] at hleft
                obtain ⟨hstay, hnone⟩ := run_idle hleft moves halone
                rw [hstay, hmembers, if_pos rfl]
                refine ⟨List.filter_congr fun other _ => ?_, hnone⟩
                rw [Bool.eq_iff_iff]
                simp
            | false =>
                -- those still to come are members still, as nobody is removed
                -- twice
                rw [hstops, if_neg Bool.false_ne_true] at hleft
                rw [List.nodup_cons] at hdistinct
                have hstill : ∀ other ∈ removals,
                    other ∈ (traffic.act .work).hub.members := by
                  intro other hmem
                  rw [hmembers, List.mem_filter, bne_iff_ne]
                  refine ⟨hamong other (List.mem_cons_of_mem _ hmem), ?_⟩
                  rintro rfl
                  exact hdistinct.1 hmem
                obtain ⟨hstay, hnone⟩ :=
                  ih hleft hdistinct.2 hstill hfinished halone
                rw [hstay, hmembers, hleaveHooks, List.filter_filter,
                  if_neg Bool.false_ne_true]
                refine ⟨List.filter_congr fun other _ => ?_, hnone⟩
                rw [Bool.eq_iff_iff]
                simp [and_comm]
          · have haside := (acted_of_called traffic hcalled).aside hcalled
            rw [answers, answer?_of_called hcalled, ← haside.members,
              ← haside.leaveHooks]
            exact ih (haside.agenda.trans hagenda) hdistinct
              (haside.members ▸ hamong) hfinished halone

theorem run_last_removals {removals : List Nat}
    (hagenda : traffic.agenda = removals.map .remove)
    (hdistinct : (removals ++ []).Nodup)
    (hamong : ∀ subscriber ∈ removals ++ [], subscriber ∈ traffic.hub.members)
    (moves : List Move) (hfinished : (traffic.run moves).agenda = [])
    (halone : (traffic.run moves).begun = traffic.begun) :
    (traffic.run moves).hub.members = traffic.hub.members.filter
        (· ∉ upTo (Hub.alarms traffic.hub.leaveHooks)
          (removals ++ refused (traffic.answers moves))) ∧
      (traffic.answers moves).map Prod.fst = [] := by
  rw [List.append_nil] at hdistinct hamong
  obtain ⟨hstay, hnone⟩ :=
    run_removals hagenda hdistinct hamong moves hfinished halone
  rw [hnone]
  exact ⟨hstay.trans (by simp [refused]), rfl⟩

/-- Who refuses an offer is removed with those that were to be
removed before. -/
theorem run_offers {event : Event} {offers removals : List Nat}
    (hagenda : traffic.agenda = offers.map (.offer event) ++
      removals.map .remove)
    (hdistinct : (removals ++ offers).Nodup)
    (hamong : ∀ subscriber ∈ removals ++ offers,
      subscriber ∈ traffic.hub.members)
    (moves : List Move) (hfinished : (traffic.run moves).agenda = [])
    (halone : (traffic.run moves).begun = traffic.begun) :
    (traffic.run moves).hub.members = traffic.hub.members.filter
        (· ∉ upTo (Hub.alarms traffic.hub.leaveHooks)
          (removals ++ refused (traffic.answers moves))) ∧
      (traffic.answers moves).map Prod.fst = offers := by
  induction moves generalizing traffic offers removals with
  | nil =>
      cases offers with
      | nil =>
          exact run_last_removals hagenda hdistinct hamong [] hfinished halone
      | cons subscriber offers =>
          have hbusy := hagenda.symm.trans hfinished
          simp at hbusy
  | cons move moves ih =>
      cases offers with
      | nil =>
          exact run_last_removals hagenda hdistinct hamong (move :: moves)
            hfinished halone
      | cons subscriber offers =>
          have hnext := traffic.begun_act move moves halone
          change ((traffic.act move).run moves).agenda = _ at hfinished
          change ((traffic.act move).run moves).begun = _ at halone
          change ((traffic.act move).run moves).hub.members = _ ∧ _
          rw [← hnext] at halone
          by_cases hcalled : move = .work
          · subst hcalled
            obtain ⟨hmembers, hleaveHooks, hoffered⟩ := act_offer hagenda
            rw [← hmembers] at hamong ⊢
            rw [answers, ← hleaveHooks]
            rcases hoffered with ⟨hleft, hanswer⟩ | ⟨hleft, hanswer⟩
            · have hshorter :
                  (removals ++ offers).Sublist (removals ++ subscriber ::
                    offers) :=
                (List.sublist_cons_self _ _).append_left _
              obtain ⟨hstay, hasked⟩ := ih hleft (hdistinct.sublist hshorter)
                (fun other hmem => hamong other (hshorter.subset hmem))
                  hfinished halone
              rw [hanswer]
              exact ⟨hstay, congrArg (subscriber :: ·) hasked⟩
            · have hleft :
                  (traffic.act .work).agenda = offers.map (.offer event) ++
                  (removals ++ [subscriber]).map .remove := by
                simpa using hleft
              rw [List.append_cons] at hdistinct hamong
              obtain ⟨hstay, hasked⟩ :=
                ih hleft hdistinct hamong hfinished halone
              rw [List.append_assoc] at hstay
              rw [hanswer]
              exact ⟨hstay, congrArg (subscriber :: ·) hasked⟩
          · have haside := (acted_of_called traffic hcalled).aside hcalled
            rw [answers, answer?_of_called hcalled, ← haside.members,
              ← haside.leaveHooks]
            exact ih (haside.agenda.trans hagenda) hdistinct
              (haside.members ▸ hamong) hfinished halone

/-! ## Tasks -/

/-- Those that a task is to remove, by the members there are when it begins and
by the answers to its offers. -/
def leavers (members : List Nat) (answers : List (Nat × Bool)) :
    HubTask → List Nat
  | .join _ => []
  | .leave subscriber => members.filter fun other => other = subscriber
  | .broadcast _ => members.filter fun other => (other, true) ∉ answers
  | .sendTo subscriber _ =>
      members.filter fun other => other = subscriber ∧ (other, true) ∉ answers
  | .close => members

theorem leavers_sublist (members : List Nat) (answers : List (Nat × Bool))
    (task : HubTask) :
    (leavers members answers task).Sublist members := by
  cases task with
  | join other => exact List.nil_sublist _
  | close => exact List.Sublist.refl _
  | _ => exact List.filter_sublist

theorem refused_eq {answers : List (Nat × Bool)}
    (hdistinct : (answers.map Prod.fst).Nodup) :
    refused answers = (answers.map Prod.fst).filter fun other =>
      (other, true) ∉ answers := by
  induction answers with
  | nil => rfl
  | cons answer answers ih =>
      rcases answer with ⟨subscriber, taken⟩
      rw [List.map_cons, List.nodup_cons] at hdistinct
      have hapart (other : Nat) (hmem : other ∈ answers.map Prod.fst) :
          other ≠ subscriber := by
        rintro rfl
        exact hdistinct.1 hmem
      have hrest :
        (answers.map Prod.fst).filter (fun other => (other, true) ∉ answers) =
          (answers.map Prod.fst).filter
            fun other => (other, true) ∉ (subscriber, taken) :: answers := by
        refine List.filter_congr fun other hmem => ?_
        simp [hapart other hmem]
      have habsent : (subscriber, true) ∉ answers := fun hmem =>
        hdistinct.1 (List.mem_map.2 ⟨_, hmem, rfl⟩)
      rw [List.map_cons, List.filter_cons, ← hrest, ← ih hdistinct.2]
      cases taken <;> simp [refused, habsent]

theorem leaveHooks_run (traffic : Traffic) (moves : List Move) :
    (traffic.run moves).hub.leaveHooks = traffic.hub.leaveHooks := by
  induction moves generalizing traffic with
  | nil => rfl
  | cons move moves ih =>
      refine (ih (traffic.act move)).trans ?_
      have hmoved := moved_act traffic move
      generalize traffic.act move = after at hmoved
      cases hmoved with
      | called _ hcalled _ hacted => exact (hacted.aside hcalled).leaveHooks
      | rested => rfl
      | performed step rest hagenda hub left hstepped => cases hstepped <;> rfl
      | began => rfl

theorem filter_eq_singleton {members : List Nat} (hdistinct : members.Nodup)
    (hmem : subscriber ∈ members) :
    members.filter (fun other => other = subscriber) = [subscriber] := by
  rw [List.filter_eq, List.count_eq_one_of_mem hdistinct hmem,
    List.replicate_one]

/-- A task removes those that it is to remove up to the first for which a hook
panics. -/
theorem mem_members_run_iff {task : HubTask}
    (hdistinct : traffic.hub.members.Nodup)
    (hagenda : traffic.agenda = task.steps traffic.hub.members)
    (moves : List Move) (hfinished : (traffic.run moves).agenda = [])
    (halone : (traffic.run moves).begun = traffic.begun)
    (hleaves : subscriber ∈
      leavers traffic.hub.members (traffic.answers moves) task) :
    subscriber ∈ (traffic.run moves).hub.members ↔
      subscriber ∉ upTo (Hub.alarms traffic.hub.leaveHooks)
        (leavers traffic.hub.members (traffic.answers moves) task) := by
  have hmem := (leavers_sublist _ _ _).subset hleaves
  have hoffered (event : Event) (offers : List Nat)
      (hagenda : traffic.agenda =
        offers.map (.offer event)) (hdistinct : offers.Nodup)
      (hamong : ∀ other ∈ offers, other ∈ traffic.hub.members) :
      (traffic.run moves).hub.members = traffic.hub.members.filter
        (· ∉ upTo (Hub.alarms traffic.hub.leaveHooks)
          (offers.filter fun other => (other, true) ∉
            traffic.answers moves)) := by
    obtain ⟨hstay, hasked⟩ :=
      @run_offers traffic event offers [] (by simpa using hagenda) hdistinct
      hamong moves hfinished halone
    rw [hstay, List.nil_append, refused_eq (hasked ▸ hdistinct), hasked]
  have hstay : (traffic.run moves).hub.members = traffic.hub.members.filter
      (· ∉ upTo (Hub.alarms traffic.hub.leaveHooks)
        (leavers traffic.hub.members (traffic.answers moves) task)) := by
    cases task with
    | join other => contradiction
    | close =>
        exact (run_removals hagenda hdistinct (fun _ => id) moves
          hfinished halone).1
    | leave other =>
        obtain rfl : subscriber = other := by
          simpa [leavers] using (List.mem_filter.1 hleaves).2
        rw [leavers, filter_eq_singleton hdistinct hmem]
        exact (run_removals hagenda (List.nodup_singleton _)
          (by simpa using hmem) moves hfinished halone).1
    | broadcast event => exact hoffered event _ hagenda hdistinct fun _ => id
    | sendTo other event =>
        obtain rfl : subscriber = other := by
          have hboth := (List.mem_filter.1 hleaves).2
          rw [decide_eq_true_eq] at hboth
          exact hboth.1
        have honly :
            leavers traffic.hub.members (traffic.answers moves)
              (.sendTo subscriber event) =
            [subscriber].filter fun other =>
              (other, true) ∉ traffic.answers moves := by
          rw [← filter_eq_singleton hdistinct hmem, List.filter_filter, leavers]
          refine List.filter_congr fun other _ => ?_
          rw [Bool.eq_iff_iff]
          simp [and_comm]
        rw [honly]
        refine hoffered event [subscriber] ?_ (List.nodup_singleton _)
          (by simpa using hmem)
        rw [hagenda, HubTask.steps, if_pos (List.contains_iff_mem.2 hmem)]
        rfl
  rw [hstay, List.mem_filter]
  simp [hmem]

theorem departed_iff_of_agenda {task : HubTask} (hseated : traffic.Seated)
    (hagenda : traffic.agenda = task.steps traffic.hub.members)
    (moves : List Move) (hfinished : (traffic.run moves).agenda = [])
    (halone : (traffic.run moves).begun = traffic.begun) :
    (∀ subscriber ∈ leavers traffic.hub.members (traffic.answers moves) task,
        (traffic.run moves).Departed subscriber) ↔
      ∀ subscriber ∈
        (leavers traffic.hub.members (traffic.answers moves) task).dropLast,
        Hub.alarms traffic.hub.leaveHooks subscriber = false := by
  have hamong :=
    leavers_sublist traffic.hub.members (traffic.answers moves) task
  rw [← forall_mem_upTo_iff (hseated.nodup.sublist hamong)]
  refine forall₂_congr fun subscriber hleaves => ?_
  have hstays :=
    mem_members_run_iff hseated.nodup hagenda moves hfinished halone hleaves
  constructor
  · intro hdeparted
    by_contra hkept
    exact (hdeparted []).1 (hstays.2 hkept)
  · intro hremoved
    have hmem := hamong.subset hleaves
    obtain ⟨htasks, hunplanned⟩ :=
      pending_eq_zero.1 (hseated.pending_of_mem hmem)
    have hsettled : traffic.Settled subscriber :=
      ⟨hseated.known_of_mem hmem, htasks, hunplanned⟩
    apply Gone.departed
    exact ⟨hsettled.run moves, fun hstill => hstays.1 hstill hremoved,
      by simp [hfinished]⟩

/-- A task begins, and is over after some moves, with no other task begun. -/
structure Completes (traffic : Traffic) (task : HubTask) (moves : List Move) :
    Prop where
  idle : traffic.agenda = []
  waiting : traffic.hub.tasks.head? = some task
  finished : (traffic.run (.work :: moves)).agenda = []
  alone : (traffic.run (.work :: moves)).begun = traffic.begun ++ [task]

theorem Completes.departed_iff {task : HubTask} {moves : List Move}
    (hcompletes : traffic.Completes task moves) (hseated : traffic.Seated) :
    (∀ subscriber ∈
      leavers traffic.hub.members (traffic.answers (.work :: moves)) task,
        (traffic.run (.work :: moves)).Departed subscriber) ↔
      ∀ subscriber ∈
          (leavers traffic.hub.members (traffic.answers (.work :: moves))
            task).dropLast,
        Hub.alarms traffic.hub.leaveHooks subscriber = false := by
  obtain ⟨hidle, hwaiting, hfinished, halone⟩ := hcompletes
  obtain ⟨tasks, hwaiting⟩ := List.head?_eq_some_iff.1 hwaiting
  have hsilent :
      traffic.answers (.work :: moves) = (traffic.act .work).answers moves := by
    simp [answers, answer?, hidle]
  have hbegan := act_work_of_waiting hidle hwaiting
  have hnext : (traffic.act .work).Seated :=
    hseated.act (moved_act traffic .work)
  rw [hsilent]
  change (∀ subscriber ∈ _,
    ((traffic.act .work).run moves).Departed subscriber) ↔ _
  have hdone :=
    @departed_iff_of_agenda (traffic.act .work) task hnext (by rw [hbegan])
      moves hfinished
    (halone.trans (by rw [hbegan]))
  rw [hbegan] at hdone ⊢
  exact hdone

/-- For every task in the course of every run: those that it is to remove have
left for good when it is over, exactly if no hook panics for any of them but the
last. -/
theorem leavers_departed_iff (queue : Nat) (joinHooks leaveHooks : List HubHook)
    (moves more : List Move) (task : HubTask)
    (hcompletes : ((start queue joinHooks leaveHooks).run moves).Completes
      task more) :
    let before := (start queue joinHooks leaveHooks).run moves
    let leaving :=
      leavers before.hub.members (before.answers (.work :: more)) task
    (∀ subscriber ∈ leaving, (before.run (.work :: more)).Departed subscriber) ↔
      ∀ subscriber ∈ leaving.dropLast, ∀ hook ∈ leaveHooks,
        hook.panicsFor subscriber = false := by
  intro before leaving
  have hseated : before.Seated := seated_run queue joinHooks leaveHooks moves
  have hhooks : before.hub.leaveHooks = leaveHooks :=
    leaveHooks_run (start queue joinHooks leaveHooks) moves
  rw [hcompletes.departed_iff hseated, hhooks]
  exact forall₂_congr fun subscriber _ => by simp [Hub.alarms]

/-- Two subscribers have joined, and a close waits; a hook panics when
`alarming` leaves. -/
def closing (alarming : Nat) : Traffic :=
  (start 4 [] [⟨"left", (· == alarming)⟩]).run
    [.subscribe, .subscribe, .work, .work, .work, .work, .close]

theorem leavers_departed_iff_last :
    (closing 1).Completes .close [.work, .work] ∧
      ∀ subscriber ∈ [0, 1],
        ((closing 1).run [.work, .work, .work]).Departed subscriber := by
  have hcompletes : (closing 1).Completes .close [.work, .work] :=
    ⟨rfl, rfl, rfl, rfl⟩
  refine ⟨hcompletes,
    (leavers_departed_iff 4 [] _ _ [.work, .work] .close hcompletes).2 ?_⟩
  decide

theorem not_departed_after_panic :
    (closing 0).Completes .close [.work] ∧ 1 ∈ (closing 0).hub.members ∧
      ¬ ((closing 0).run [.work, .work]).Departed 1 :=
  ⟨⟨rfl, rfl, rfl, rfl⟩,
    by decide, fun hdeparted => (hdeparted []).1 (by decide)⟩

end Traffic

end HttpEngine
