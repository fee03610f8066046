import HttpEngine.Proofs.WebSocket.Course

/-!
# What tasks are for

Tasks are left for the listeners there are, each with its number, its acts and
the message that it hears.
-/

namespace HttpEngine.WebSocket

open History

variable {history : List Happening} {ended : Bool} {task : Task}

/-- What is still to happen when the tasks are done, calls apart. -/
def errands (agenda : List Task) : List Happening :=
  agenda.filterMap Task.happening?

@[simp] theorem errands_nil : errands [] = [] := rfl

@[simp] theorem errands_cons (task : Task) (rest : List Task) :
    errands (task :: rest) = task.happening?.toList ++ errands rest := by
  rw [errands, List.filterMap_cons]
  cases task.happening? <;> rfl

@[simp] theorem errands_toDo_append (message : Option Message)
    (acts : List Act) (rest : List Task) :
    errands (toDo message acts ++ rest) = errands rest := by
  induction acts with
  | nil => rfl
  | cons act acts ih => exact ih

theorem errands_deliveriesFrom (message : Message)
    (listeners : List (Scope × List Act)) (first : Nat) :
    errands (Channel.deliveriesFrom message first listeners) =
      (listeners.findIdxs (fun listener => listener.1.hears message) first).map
        (.given · message) := by
  induction listeners generalizing first with
  | nil => rfl
  | cons listener listeners ih =>
      rw [Channel.deliveriesFrom, List.findIdxs_cons]
      split <;> simp [ih]

theorem errands_partingsFrom (farewells : List (List Act)) (first : Nat) :
    errands (Channel.partingsFrom first farewells) =
      (List.range' first farewells.length).map .parted := by
  induction farewells generalizing first with
  | nil => rfl
  | cons acts farewells ih =>
      rw [Channel.partingsFrom, List.length_cons, List.range'_succ]
      simp [ih]

theorem errands_deliveries (channel : Channel) (message : Message) :
    errands (channel.deliveries message) =
      (recipients channel.listeners message).map (.given · message) :=
  errands_deliveriesFrom message channel.listeners 0

theorem errands_partings (channel : Channel) :
    errands channel.partings =
      (List.range channel.farewells.length).map .parted := by
  rw [List.range_eq_range']
  exact errands_partingsFrom channel.farewells 0

/-- A task is for the listener under its number: before the end for one that
hears the message, and after it for one for the end. -/
def Task.Suits (ended : Bool) (history : List Happening) : Task → Prop
  | .call _ _ => True
  | .give listener message acts =>
      ended = false ∧ ∃ scope,
        (listeners history)[listener]? = some (scope, acts) ∧
          scope.hears message = true
  | .part listener acts =>
      ended = true ∧ (farewells history)[listener]? = some acts

theorem Task.Suits.append (hsuits : task.Suits ended history)
    (more : List Happening) : task.Suits ended (history ++ more) := by
  cases task with
  | call message act => trivial
  | give listener message acts =>
      obtain ⟨hrunning, scope, hfound, hhears⟩ := hsuits
      refine ⟨hrunning, scope, ?_, hhears⟩
      rw [History.listeners, readings_append]
      have hknown := (List.getElem?_eq_some_iff.1 hfound).1
      exact (List.getElem?_append_left hknown).trans hfound
  | part listener acts =>
      obtain ⟨hended, hfound⟩ := hsuits
      refine ⟨hended, ?_⟩
      rw [History.farewells, readings_append]
      have hknown := (List.getElem?_eq_some_iff.1 hfound).1
      exact (List.getElem?_append_left hknown).trans hfound

theorem exists_call_of_mem_toDo {message : Option Message} {acts : List Act}
    (hmem : task ∈ toDo message acts) :
    ∃ message act, task = .call message act := by
  obtain ⟨act, -, rfl⟩ := List.mem_map.1 hmem
  exact ⟨message, act, rfl⟩

theorem suits_of_mem_deliveriesFrom {message : Message}
    {earlier later : List (Scope × List Act)}
    (hlisteners : listeners history = earlier ++ later)
    (hmem : task ∈ Channel.deliveriesFrom message earlier.length later) :
    task.Suits false history := by
  induction later generalizing earlier with
  | nil => simp [Channel.deliveriesFrom] at hmem
  | cons listener later ih =>
      have hfurther : listeners history = earlier ++ [listener] ++ later := by
        rw [hlisteners, List.append_cons]
      rw [Channel.deliveriesFrom] at hmem
      have hnext :
          (earlier ++ [listener]).length = earlier.length + 1 := by simp
      rw [← hnext] at hmem
      split at hmem
      · rename_i hhears
        rcases List.mem_cons.1 hmem with rfl | hmem
        · refine ⟨rfl, listener.1, ?_, hhears⟩
          rw [hlisteners]
          simp
        · exact ih hfurther hmem
      · exact ih hfurther hmem

theorem suits_of_mem_deliveries {channel : Channel} {message : Message}
    (hlisteners : channel.listeners = listeners history)
    (hmem : task ∈ channel.deliveries message) : task.Suits false history := by
  have hall : listeners history = [] ++ channel.listeners := hlisteners.symm
  exact suits_of_mem_deliveriesFrom hall hmem

theorem suits_of_mem_partingsFrom {earlier later : List (List Act)}
    (hfarewells : farewells history = earlier ++ later)
    (hmem : task ∈ Channel.partingsFrom earlier.length later) :
    task.Suits true history := by
  induction later generalizing earlier with
  | nil => simp [Channel.partingsFrom] at hmem
  | cons acts later ih =>
      have hfurther : farewells history = earlier ++ [acts] ++ later := by
        rw [hfarewells, List.append_cons]
      have hnext : (earlier ++ [acts]).length = earlier.length + 1 := by simp
      rw [Channel.partingsFrom, ← hnext] at hmem
      rcases List.mem_cons.1 hmem with rfl | hmem
      · refine ⟨rfl, ?_⟩
        rw [hfarewells]
        simp
      · exact ih hfurther hmem

theorem suits_of_mem_partings {channel : Channel}
    (hfarewells : channel.farewells = farewells history)
    (hmem : task ∈ channel.partings) : task.Suits true history := by
  have hall : farewells history = [] ++ channel.farewells := hfarewells.symm
  exact suits_of_mem_partingsFrom hall hmem

end HttpEngine.WebSocket
