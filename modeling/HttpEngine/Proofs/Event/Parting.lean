import HttpEngine.Proofs.Event.Alarm
import HttpEngine.Proofs.Event.Delivery

/-!
# The way out

To drop a stream only dispatches the leave.  The tasks that are ahead of it are
finite in number, and each has two steps at most for every member; what callers
and clients do meanwhile is dispatched behind the leave and does not hold it up.
-/

namespace HttpEngine

def HubStep.isJoin : HubStep → Bool
  | .join _ => true
  | _ => false

theorem HubTask.countP_isJoin_steps (members : List Nat) (task : HubTask) :
    (task.steps members).countP HubStep.isJoin ≤ 1 := by
  cases task with
  | join subscriber => exact Nat.le_refl 1
  | leave subscriber => exact Nat.zero_le 1
  | broadcast event =>
      simp [steps, List.countP_map, Function.comp_def, HubStep.isJoin]
  | sendTo subscriber event =>
      rw [steps]
      split <;> exact Nat.zero_le 1
  | close => simp [steps, List.countP_map, Function.comp_def, HubStep.isJoin]

namespace Traffic

variable {traffic after : Traffic} {move : Move} {subscriber : Nat}

/-! ## What is left to do -/

theorem effort_steps (task : HubTask) (traffic : Traffic) (members : List Nat) :
    effort { traffic with agenda := task.steps members } ≤
      2 * members.length + 2 := by
  cases task with
  | join subscriber => exact Nat.le_add_left _ _
  | leave subscriber => exact Nat.le_add_left _ _
  | broadcast event =>
      have hoffered :=
        List.length_filterMap_le HubStep.event? (members.map (.offer event))
      rw [List.length_map] at hoffered
      simp only [effort, HubTask.steps, List.length_map]
      omega
  | sendTo subscriber event =>
      simp only [effort, HubTask.steps]
      split <;> simp [HubStep.event?]
  | close =>
      have hoffered :=
        List.length_filterMap_le HubStep.event? (members.map .remove)
      rw [List.length_map] at hoffered
      simp only [effort, HubTask.steps, List.length_map]
      omega

/-- The members there may be when the tasks ahead are done. -/
def crowd (traffic : Traffic) (ahead : List HubTask) : Nat :=
  traffic.hub.members.length + traffic.agenda.countP HubStep.isJoin +
    ahead.length

/-- The steps of work that suffice for the task in hand and those ahead. -/
def toil (traffic : Traffic) (ahead : List HubTask) : Nat :=
  traffic.effort + ahead.length * (2 * traffic.crowd ahead + 3)

/-- A step leaves less to do, and no more members than there might have been. -/
theorem less_of_stepped {step : HubStep} {rest left : List HubStep} {hub : Hub}
    (hagenda : traffic.agenda = step :: rest)
    (hstepped : traffic.hub.Stepped rest step (hub, left)) :
    effort { traffic with hub := hub, agenda := left } < traffic.effort ∧
      hub.members.length + left.countP HubStep.isJoin ≤
        traffic.hub.members.length + traffic.agenda.countP HubStep.isJoin ∧
      hub.tasks = traffic.hub.tasks ∧
      hub.queues.length = traffic.hub.queues.length := by
  cases hstepped with
  | joined subscriber notes =>
      refine ⟨?_, ?_, rfl, rfl⟩
      · split <;> simp [effort, hagenda, HubStep.event?, List.filterMap_cons,
          Nat.add_right_comm]
      · rw [hagenda, List.countP_cons_of_pos rfl, List.length_append,
          List.length_singleton]
        split
        · simp
        · omega
  | queued event subscriber htakes =>
      refine ⟨?_, ?_, rfl, Hub.length_queues_changeQueue _⟩
      · simp [effort, hagenda, HubStep.event?]
        omega
      · simp [hagenda, HubStep.isJoin]
  | refused event subscriber hrefuses =>
      refine ⟨?_, ?_, rfl, rfl⟩
      · simp [effort, hagenda, HubStep.event?]
      · simp [hagenda, HubStep.isJoin]
  | removed subscriber hmem notes =>
      have hfewer := List.length_filter_le (· != subscriber) traffic.hub.members
      refine ⟨?_, ?_, rfl, Hub.length_queues_released notes⟩
      · split <;> simp [effort, hagenda, HubStep.event?, List.filterMap_cons,
          Nat.add_right_comm]
      · rw [hagenda, List.countP_cons_of_neg (by simp [HubStep.isJoin])]
        apply Nat.add_le_add hfewer
        split
        · exact Nat.zero_le _
        · exact Nat.le_refl _
  | missing subscriber habsent =>
      refine ⟨?_, ?_, rfl, rfl⟩
      · simp [effort, hagenda, HubStep.event?, List.filterMap_cons]
      · simp [hagenda, HubStep.isJoin]

theorem toil_stepped {step : HubStep} {rest left : List HubStep} {hub : Hub}
    (hagenda : traffic.agenda = step :: rest)
    (hstepped : traffic.hub.Stepped rest step (hub, left))
    (ahead : List HubTask) :
    toil { traffic with hub := hub, agenda := left } ahead <
      traffic.toil ahead := by
  obtain ⟨hless, hfewer, -⟩ := less_of_stepped hagenda hstepped
  have hcrowd : crowd { traffic with hub := hub, agenda := left } ahead ≤
      traffic.crowd ahead :=
    Nat.add_le_add_right hfewer ahead.length
  apply Nat.add_lt_add_of_lt_of_le hless
  apply Nat.mul_le_mul_left
  omega

theorem toil_began {task : HubTask} (hidle : traffic.agenda = [])
    (hagenda : after.agenda = task.steps traffic.hub.members)
    (hsame : after.hub.members = traffic.hub.members) (ahead : List HubTask) :
    after.toil ahead < traffic.toil (task :: ahead) := by
  have heffort : after.effort ≤ 2 * traffic.hub.members.length + 2 := by
    rw [Traffic.effort, hagenda]
    exact effort_steps task after traffic.hub.members
  have hcrowd : after.crowd ahead ≤ traffic.crowd (task :: ahead) := by
    have hjoins := task.countP_isJoin_steps traffic.hub.members
    simp only [Traffic.crowd, hagenda, hsame, hidle, List.countP_nil,
      List.length_cons]
    omega
  have hmembers :
      traffic.hub.members.length ≤ traffic.crowd (task :: ahead) := by
    rw [Traffic.crowd, Nat.add_assoc]
    exact Nat.le_add_right _ _
  calc after.toil ahead
      ≤ after.effort + ahead.length *
        (2 * traffic.crowd (task :: ahead) + 3) := by
        apply Nat.add_le_add_left
        apply Nat.mul_le_mul_left
        omega
    _ < (2 * traffic.crowd (task :: ahead) + 3) +
        ahead.length * (2 * traffic.crowd (task :: ahead) + 3) := by
        apply Nat.add_lt_add_right
        omega
    _ = (task :: ahead).length * (2 * traffic.crowd (task :: ahead) + 3) := by
        rw [Nat.add_comm]
        exact (Nat.add_one_mul _ _).symm
    _ ≤ traffic.toil (task :: ahead) := Nat.le_add_left _ _

/-! ## Leaving -/

/-- After so many steps of work the subscriber is gone. -/
inductive Parting (subscriber : Nat) (traffic : Traffic) (count : Nat) : Prop
  | waiting (ahead behind : List HubTask)
      (hknown : subscriber < traffic.hub.queues.length)
      (htasks : traffic.hub.tasks = ahead ++ .leave subscriber :: behind)
      (hlast : .join subscriber ∉ behind)
      (henough : traffic.toil ahead + 2 ≤ count)
  | leaving (hsettled : traffic.Settled subscriber)
      (hagenda : traffic.agenda = [.remove subscriber]) (henough : 1 ≤ count)
  | gone (hgone : traffic.Gone subscriber)

/-- Callers dispatch behind what waits, and joins only of subscribers there were
not. -/
theorem Acted.tasks_of_called (hacted : traffic.Acted move after)
    (hcalled : move ≠ .work) :
    ∃ more, after.hub.tasks = traffic.hub.tasks ++ more ∧
      ∀ subscriber < traffic.hub.queues.length, .join subscriber ∉ more := by
  cases hacted with
  | nothing => exact ⟨[], by simp⟩
  | subscribed =>
      refine ⟨[.join traffic.hub.queues.length], rfl,
        fun subscriber hknown hamong => ?_⟩
      rw [HubTask.join.inj (List.mem_singleton.1 hamong)] at hknown
      exact Nat.lt_irrefl _ hknown
  | dispatched _ _ task hother =>
      refine ⟨[task], rfl, fun subscriber _ hamong => ?_⟩
      exact hother subscriber (List.mem_singleton.1 hamong).symm
  | dropped other hpresent => exact ⟨[.leave other], rfl, by simp⟩
  | received other hpresent event rest hqueued =>
      exact ⟨[], by simp [Hub.changeQueue]⟩
  | performed => contradiction
  | began => contradiction

namespace Parting

variable {count : Nat}

theorem called (hparting : traffic.Parting subscriber count)
    (hacted : traffic.Acted move after) (hcalled : move ≠ .work) :
    after.Parting subscriber count := by
  have haside := hacted.aside hcalled
  have hmoved := Moved.called move hcalled after hacted
  cases hparting with
  | waiting ahead behind hknown htasks hlast henough =>
      obtain ⟨more, happended, hothers⟩ := hacted.tasks_of_called hcalled
      rw [htasks, List.append_assoc, List.cons_append] at happended
      refine .waiting ahead (behind ++ more)
        (Nat.lt_of_lt_of_le hknown haside.queues) happended ?_ ?_
      · rw [List.mem_append, not_or]
        exact ⟨hlast, hothers subscriber hknown⟩
      · simp only [toil, effort, crowd, haside.agenda, haside.members]
        exact henough
  | leaving hsettled hagenda henough =>
      exact .leaving (hsettled.act hmoved) (haside.agenda.trans hagenda) henough
  | gone hgone => exact .gone (hgone.act hmoved).1

theorem gone_of_removed (hsettled : traffic.Settled subscriber)
    (hagenda : traffic.agenda = [.remove subscriber])
    (hmoved : traffic.Moved .work after) :
    after.Gone subscriber := by
  have hnext := hsettled.act hmoved
  cases hmoved with
  | called _ hcalled => contradiction
  | rested hidle => simp [hidle] at hagenda
  | performed step rest hdoing hub left hstepped =>
      obtain ⟨rfl, rfl⟩ := List.cons.inj (hdoing.symm.trans hagenda)
      cases hstepped with
      | removed _ hmem notes => exact ⟨hnext, by simp [Hub.released], by simp⟩
      | missing _ habsent => exact ⟨hnext, habsent, by simp⟩
  | began task tasks hidle => simp [hidle] at hagenda

theorem work (hparting : traffic.Parting subscriber count)
    (hmoved : traffic.Moved .work after) :
    after.Parting subscriber (count - 1) := by
  cases hparting with
  | waiting ahead behind hknown htasks hlast henough =>
      cases hmoved with
      | called _ hcalled => contradiction
      | rested hidle hnone => simp [hnone] at htasks
      | performed step rest hagenda hub left hstepped =>
          have hless := toil_stepped hagenda hstepped ahead
          obtain ⟨-, -, hsame, hqueues⟩ := less_of_stepped hagenda hstepped
          exact .waiting ahead behind (hqueues ▸ hknown) (hsame.trans htasks)
            hlast (by omega)
      | began task later hidle hwaiting =>
          rw [htasks] at hwaiting
          cases ahead with
          | nil =>
              obtain ⟨rfl, rfl⟩ := List.cons.inj hwaiting
              refine .leaving ⟨hknown, hlast, ?_⟩ rfl (by omega)
              simp [HubTask.steps]
          | cons first ahead =>
              obtain ⟨rfl, rfl⟩ := List.cons.inj hwaiting
              have hless (after : Traffic) (hagenda : after.agenda =
                first.steps traffic.hub.members)
                  (hsame : after.hub.members = traffic.hub.members) :
                  after.toil ahead + 2 ≤ count - 1 := by
                have hless := toil_began hidle hagenda hsame ahead
                omega
              exact .waiting ahead behind hknown rfl hlast (hless _ rfl rfl)
  | leaving hsettled hagenda henough =>
      exact .gone (gone_of_removed hsettled hagenda hmoved)
  | gone hgone => exact .gone (hgone.act hmoved).1

theorem run (hparting : traffic.Parting subscriber count) (moves : List Move)
    (hworked : count ≤ moves.count .work) :
    (traffic.run moves).Gone subscriber := by
  induction moves generalizing traffic count with
  | nil =>
      cases hparting with
      | gone hgone => exact hgone
      | _ => simp at hworked; omega
  | cons move moves ih =>
      by_cases hwork : move = .work
      · subst hwork
        rw [List.count_cons_self] at hworked
        exact ih (hparting.work (moved_act traffic .work)) (by omega)
      · rw [List.count_cons_of_ne hwork] at hworked
        exact ih (hparting.called (acted_of_called traffic hwork) hwork) hworked

end Parting

theorem parting_drop (hpresent : traffic.hub.isDropped subscriber = false) :
    (traffic.act (.drop subscriber)).Parting subscriber
      ((traffic.act (.drop subscriber)).toil traffic.hub.tasks + 2) := by
  have hknown := Hub.known_of_not_isDropped hpresent
  rw [act_drop_of_present hpresent]
  refine .waiting traffic.hub.tasks [] ?_ rfl List.not_mem_nil (Nat.le_refl _)
  simpa [dispatch, Hub.dispatch] using hknown

/-- Enough work after a drop lets the subscriber go for good, whatever it is
interleaved with. -/
theorem departed_of_drop (hpresent : traffic.hub.isDropped subscriber = false) :
    ∃ count, ∀ moves : List Move, count ≤ moves.count .work →
      (traffic.run (.drop subscriber :: moves)).Departed subscriber :=
  ⟨_, fun moves hworked => ((parting_drop hpresent).run moves hworked).departed⟩

end Traffic

end HttpEngine
