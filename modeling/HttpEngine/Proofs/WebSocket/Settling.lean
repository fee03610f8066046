import HttpEngine.Proofs.WebSocket.Course
import Mathlib.Algebra.GroupWithZero.Nat
import Mathlib.Data.List.Induction

/-!
# Doing all there is to do

The tasks of a course come to an end: an act is part of a listener that is
notified, so what it leaves to be done is less than itself.  A session begins an
operation only when nothing is left of the one before, which makes its course
one of the runs (`following_eq_run`).
-/

namespace HttpEngine.WebSocket

/-! ## Work -/

mutual

/-- How much work an act can come to. -/
def Act.toil : Act → Nat
  | .onDisconnect acts => Act.toilAll acts + 1
  | _ => 1

def Act.toilAll : List Act → Nat
  | [] => 0
  | act :: rest => act.toil + Act.toilAll rest

end

def Task.toil : Task → Nat
  | .call _ act => act.toil
  | .give _ _ acts | .part _ acts => Act.toilAll acts + 1

theorem Act.toil_pos (act : Act) : 0 < act.toil := by
  cases act <;> simp [toil]

theorem Task.toil_pos (task : Task) : 0 < task.toil := by
  cases task with
  | call message act => exact act.toil_pos
  | give listener message acts => exact Nat.succ_pos _
  | part listener acts => exact Nat.succ_pos _

theorem sum_toil_toDo (message : Option Message) (acts : List Act) :
    ((toDo message acts).map Task.toil).sum = Act.toilAll acts := by
  induction acts with
  | nil => rfl
  | cons act rest ih =>
      rw [toDo, List.map_cons, List.map_cons, List.sum_cons]
      exact congrArg (act.toil + ·) ih

theorem sum_toil_followUps_lt (channel : Channel) (act : Act) :
    ((channel.followUps act).map Task.toil).sum < act.toil := by
  cases act with
  | onDisconnect acts =>
      rw [Channel.followUps, Act.toil]
      split
      · rw [sum_toil_toDo]
        exact Nat.lt_succ_self _
      · exact Nat.succ_pos _
  | _ => simp [Channel.followUps, Act.toil]

namespace Course

variable {course after : Course}

def toil (course : Course) : Nat := (course.agenda.map Task.toil).sum

/-- Does as many tasks as there can be; nothing is left then. -/
def settle (course : Course) : Course :=
  course.run (List.replicate course.toil .work)

theorem toil_work_lt (hbusy : course.agenda ≠ []) :
    course.work.toil < course.toil := by
  obtain ⟨session, agenda, history⟩ := course
  cases agenda with
  | nil => contradiction
  | cons task rest =>
      cases task with
      | call message act =>
          have hless := sum_toil_followUps_lt session.channel act
          simpa [toil, work, call, Task.toil] using hless
      | give listener message acts =>
          simp [toil, work, Task.toil, sum_toil_toDo]
      | part listener acts =>
          simp [toil, work, Task.toil, sum_toil_toDo]

theorem run_work_of_idle (hidle : course.agenda = []) (count : Nat) :
    course.run (List.replicate count .work) = course := by
  have hstays : course.work = course := by rw [work, hidle]
  induction count with
  | zero => rfl
  | succ count ih =>
      rw [List.replicate_succ, run, List.foldl_cons]
      exact (congrArg (run · _) hstays).trans ih

theorem agenda_run_work (course : Course) {count : Nat}
    (henough : course.toil ≤ count) :
    (course.run (List.replicate count .work)).agenda = [] := by
  induction count generalizing course with
  | zero =>
      cases hagenda : course.agenda with
      | nil => exact hagenda
      | cons task rest =>
          have hpositive := task.toil_pos
          rw [toil, hagenda, List.map_cons, List.sum_cons] at henough
          omega
  | succ count ih =>
      by_cases hidle : course.agenda = []
      · rw [run_work_of_idle hidle]
        exact hidle
      · have hless := toil_work_lt hidle
        rw [List.replicate_succ]
        exact ih course.work (by omega)

theorem agenda_settle (course : Course) : course.settle.agenda = [] :=
  course.agenda_run_work (Nat.le_refl _)

/-- Any work that leaves nothing to be done settles a course. -/
theorem settle_eq {count : Nat}
    (hreached : course.run (List.replicate count .work) = after)
    (hidle : after.agenda = []) : course.settle = after := by
  have hsettled :
      (course.run (List.replicate course.toil .work)).run
        (List.replicate count .work) = course.settle :=
    run_work_of_idle course.agenda_settle count
  rw [← hsettled, ← run_append, List.replicate_append_replicate, Nat.add_comm,
    ← List.replicate_append_replicate, run_append, hreached,
    run_work_of_idle hidle]

/-! ## The course of a session -/

def perform (course : Course) (step : Step) : Course :=
  (course.commence step).settle

/-- A session opens: the listeners of its script are registered, and its
opening acts done. -/
def opening (script : Script) : Course :=
  let listens := script.listeners.map fun (scope, acts) => .listen scope acts
  start.perform (.act (listens ++ script.opening))

def following (script : Script) (steps : List Step) : Course :=
  steps.foldl perform (opening script)

theorem perform_eq_run (course : Course) (step : Step) :
    ∃ moves, course.perform step = course.run moves :=
  ⟨.commence step :: List.replicate (course.commence step).toil .work, rfl⟩

theorem following_eq_run (script : Script) (steps : List Step) :
    ∃ moves, following script steps = start.run moves := by
  induction steps using List.reverseRecOn with
  | nil => exact start.perform_eq_run _
  | append_singleton steps step ih =>
      obtain ⟨moves, hmoves⟩ := ih
      obtain ⟨more, hmore⟩ := (following script steps).perform_eq_run step
      refine ⟨moves ++ more, ?_⟩
      rw [run_append, ← hmoves, ← hmore]
      exact List.foldl_append

end Course

end HttpEngine.WebSocket
