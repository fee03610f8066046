import HttpEngine.Proofs.WebSocket.Errands
import HttpEngine.Proofs.WebSocket.Operations

/-!
# Order in a session

Whatever listeners and other holders of the channel call, and however messages
and writes become ready: messages are given in order to the listeners there
were, writes are made in the order in which they were accepted, and every
listener for the end is notified once.  `sessions_inOrder` says so of every
session, and of every run.
-/

namespace HttpEngine.WebSocket.Course

open History

variable {course after : Course} {move : Move}

/-! ## The session and its history -/

/-- What the session holds is what its history says. -/
structure Mirrored (course : Course) : Prop where
  disconnected : course.session.channel.disconnected = course.session.ended
  ended : .ended ∈ course.history ↔ course.session.ended = true
  listening : course.session.ended = false →
    course.session.channel.listeners = listeners course.history
  awaiting : course.session.ended = false →
    course.session.channel.farewells = farewells course.history

namespace Mirrored

theorem start : start.Mirrored := by
  constructor <;> simp [Course.start, Channel.new]

theorem finish : course.finish.Mirrored := by
  constructor <;> simp [Course.finish, Channel.shut]

theorem act (hmirrored : course.Mirrored) (hacted : course.Acted move after) :
    after.Mirrored := by
  obtain ⟨hdisconnected, hended, hlistening, hawaiting⟩ := id hmirrored
  cases hacted with
  | nothing => exact hmirrored
  | entered acts => constructor <;> simp_all
  | delivered message hrunning hidle => constructor <;> simp_all
  | overheard incoming hrunning hidle hother => constructor <;> simp_all
  | left incoming hrunning hidle hother => exact finish
  | wrote fails item rest hrunning hqueued => constructor <;> simp_all
  | failed fails item rest hrunning hidle hqueued => exact finish
  | called message act rest channel more tasks hagenda hcalled =>
      cases hcalled <;> constructor <;> simp_all [Channel.note]
  | gave listener message acts rest hagenda => constructor <;> simp_all
  | parted listener acts rest hagenda => constructor <;> simp_all

end Mirrored

/-! ## Tasks -/

/-- The tasks are for the listeners there are. -/
def Suited (course : Course) : Prop :=
  ∀ task ∈ course.agenda, task.Suits course.session.ended course.history

namespace Suited

theorem start : start.Suited := nofun

theorem finish (hmirrored : course.Mirrored)
    (hrunning : course.session.ended = false) : course.finish.Suited := by
  intro task hmem
  exact (suits_of_mem_partings (hmirrored.awaiting hrunning) hmem).append
    [.ended]

/-- More happens, and the first task is replaced by acts. -/
theorem snoc (hsuited : course.Suited) {session : Session}
    (hsame : session.ended = course.session.ended) {task : Task}
    {tasks rest : List Task} (hagenda : course.agenda = task :: rest)
    (hacts : ∀ task ∈ tasks, ∃ message act, task = .call message act)
    (more : List Happening) :
    Suited ⟨session, tasks ++ rest, course.history ++ more⟩ := by
  intro other hmem
  dsimp only at hmem ⊢
  rw [hsame]
  rcases List.mem_append.1 hmem with hmem | hmem
  · obtain ⟨message, act, rfl⟩ := hacts other hmem
    trivial
  · have hlater : other ∈ course.agenda := by
      rw [hagenda]
      exact List.mem_cons_of_mem _ hmem
    exact (hsuited other hlater).append more

theorem act (hsuited : course.Suited) (hmirrored : course.Mirrored)
    (hacted : course.Acted move after) : after.Suited := by
  cases hacted with
  | nothing => exact hsuited
  | entered acts =>
      intro task hmem
      rcases List.mem_append.1 hmem with hmem | hmem
      · obtain ⟨message, act, rfl⟩ := exists_call_of_mem_toDo hmem
        trivial
      · exact hsuited task hmem
  | delivered message hrunning hidle =>
      intro task hmem
      have hsuits : task.Suits false course.history :=
        suits_of_mem_deliveries (hmirrored.listening hrunning) hmem
      dsimp only
      rw [hrunning]
      exact hsuits.append _
  | overheard incoming hrunning hidle hother =>
      exact fun task hmem => (hsuited task hmem).append _
  | left incoming hrunning hidle hother =>
      exact finish (hmirrored.act (.overheard incoming hrunning hidle hother))
        hrunning
  | wrote fails item rest hrunning hqueued =>
      exact fun task hmem => (hsuited task hmem).append _
  | failed fails item rest hrunning hidle hqueued =>
      exact finish ⟨hmirrored.disconnected, hmirrored.ended,
        hmirrored.listening, hmirrored.awaiting⟩ hrunning
  | called message act rest channel more tasks hagenda hcalled =>
      refine hsuited.snoc rfl hagenda (fun task hmem => ?_) more
      cases hcalled with
      | notified acts hclosed => exact exists_call_of_mem_toDo hmem
      | _ => exact absurd hmem List.not_mem_nil
  | gave listener message acts rest hagenda =>
      exact hsuited.snoc rfl hagenda (fun _ => exists_call_of_mem_toDo) _
  | parted listener acts rest hagenda =>
      exact hsuited.snoc rfl hagenda (fun _ => exists_call_of_mem_toDo) _

end Suited

/-! ## Writes -/

/-- Where the accepted items are: written, or in line, unless the session has
ended. -/
structure Queued (course : Course) : Prop where
  recorded : course.session.written = written course.history
  inLine : course.session.ended = false →
    accepted course.history =
      course.session.written ++ course.session.channel.outgoing
  inOrder : course.session.written <+: accepted course.history

namespace Queued

theorem start : start.Queued := by
  constructor <;> simp [Course.start, Channel.new]

theorem act (hqueued : course.Queued) (hmirrored : course.Mirrored)
    (hacted : course.Acted move after) : after.Queued := by
  obtain ⟨hrecorded, hinLine, hinOrder⟩ := id hqueued
  cases hacted with
  | nothing => exact hqueued
  | entered acts => exact ⟨hrecorded, hinLine, hinOrder⟩
  | delivered message hrunning hidle => constructor <;> simp_all
  | overheard incoming hrunning hidle hother => constructor <;> simp_all
  | left incoming hrunning hidle hother => constructor <;> simp_all [finish]
  | wrote fails item rest hrunning hqueued => constructor <;> simp_all
  | failed fails item rest hrunning hidle hqueued =>
      constructor <;> simp_all [finish]
  | called message act rest channel more tasks hagenda hcalled =>
      have hagree := hmirrored.disconnected
      cases hcalled <;> constructor <;> simp_all [Channel.note]
  | gave listener message acts rest hagenda => constructor <;> simp_all
  | parted listener acts rest hagenda => constructor <;> simp_all

end Queued

/-! ## Deliveries -/

theorem deliveries_given (message : Message) (numbers : List Nat) :
    deliveries (numbers.map (.given · message)) = numbers.map (·, message) := by
  induction numbers with
  | nil => rfl
  | cons number numbers ih => simp [ih]

theorem deliveries_parted (numbers : List Nat) :
    deliveries (numbers.map .parted) = [] := by
  induction numbers with
  | nil => rfl
  | cons number numbers ih => simp [ih]

theorem dueAfter_of_other {incoming : Incoming}
    (hother : ∀ message, incoming ≠ .message message)
    (listeners : List (Scope × List Act)) :
    dueAfter listeners [.arrived incoming] = [] := by
  cases incoming with
  | message message => exact absurd rfl (hother message)
  | _ => rfl

/-- What was given and what is still to be given is what was due. -/
def Served (course : Course) : Prop :=
  deliveries course.history ++ deliveries (errands course.agenda) =
    due course.history

namespace Served

theorem start : start.Served := rfl

theorem of_idle (hserved : course.Served) (hidle : course.agenda = []) :
    deliveries course.history = due course.history := by
  rw [Served, hidle] at hserved
  simpa using hserved

theorem finish (hserved : deliveries course.history = due course.history) :
    course.finish.Served := by
  simpa [Served, Course.finish, errands_partings, deliveries_parted]
    using hserved

theorem act (hserved : course.Served) (hmirrored : course.Mirrored)
    (hacted : course.Acted move after) : after.Served := by
  cases hacted with
  | nothing => exact hserved
  | entered acts => simpa [Served] using hserved
  | delivered message hrunning hidle =>
      have hgiven := hserved.of_idle hidle
      simp [Served, errands_deliveries, deliveries_given,
        hmirrored.listening hrunning, hgiven]
  | overheard incoming hrunning hidle hother =>
      rw [Served, due_append, dueAfter_of_other hother]
      simpa [Served] using hserved
  | left incoming hrunning hidle hother =>
      apply finish
      rw [due_append, dueAfter_of_other hother]
      simpa using hserved.of_idle hidle
  | wrote fails item rest hrunning hqueued => simpa [Served] using hserved
  | failed fails item rest hrunning hidle hqueued =>
      exact finish (hserved.of_idle hidle)
  | called message act rest channel more tasks hagenda hcalled =>
      -- no call gives anything, or makes anything due
      rw [Served, hagenda] at hserved
      unfold Served
      cases hcalled <;> simpa using hserved
  | gave listener message acts rest hagenda =>
      rw [Served, hagenda] at hserved
      simpa [Served] using hserved
  | parted listener acts rest hagenda =>
      rw [Served, hagenda] at hserved
      simpa [Served] using hserved

end Served

/-! ## Farewells -/

theorem partings_parted (numbers : List Nat) :
    partings (numbers.map .parted) = numbers := by
  induction numbers with
  | nil => rfl
  | cons number numbers ih => simp [ih]

structure Dismissed (course : Course) : Prop where
  unparted : course.session.ended = false → partings course.history = []
  parted : course.session.ended = true → ∀ listener,
    (partings course.history ++ partings (errands course.agenda)).count
        listener =
      if listener < (farewells course.history).length then 1 else 0
  lawful : Lawful course.history
  prompt : Prompt course.history

namespace Dismissed

theorem start : start.Dismissed := by
  constructor <;> simp [Course.start, Lawful, Prompt]

theorem finish (hdismissed : course.Dismissed) (hmirrored : course.Mirrored)
    (hrunning : course.session.ended = false) : course.finish.Dismissed := by
  constructor
  · intro hstill
    simp [Course.finish] at hstill
  · intro _ listener
    have hawaiting := hmirrored.awaiting hrunning
    have hnone := hdismissed.unparted hrunning
    simp [Course.finish, errands_partings, partings_parted, hnone, hawaiting]
  · apply hdismissed.lawful.snoc
    simp [Allowed, hmirrored.ended, hrunning]
  · exact hdismissed.prompt.snoc (by simp)

/-- Something happens that is about no listener for the end. -/
theorem snoc (hdismissed : course.Dismissed) {session : Session}
    {agenda : List Task} {event : Happening}
    (hsame : session.ended = course.session.ended)
    (hkept : session.ended = true →
      partings (errands agenda) = partings (errands course.agenda))
    (hquiet : event.farewell? = none) (hsilent : event.parting? = none)
    (hallowed : Allowed course.history event) :
    Dismissed ⟨session, agenda, course.history ++ [event]⟩ := by
  have hpartings : partings (course.history ++ [event]) =
      partings course.history := readings_snoc_of_eq_none _ hsilent _
  have hfarewells : farewells (course.history ++ [event]) =
      farewells course.history := readings_snoc_of_eq_none _ hquiet _
  constructor
  · intro hrunning
    rw [hpartings]
    exact hdismissed.unparted (hsame ▸ hrunning)
  · intro hclosed listener
    rw [hpartings, hfarewells, hkept hclosed]
    exact hdismissed.parted (hsame ▸ hclosed) listener
  · exact hdismissed.lawful.snoc hallowed
  · apply hdismissed.prompt.snoc
    rintro acts rfl
    contradiction

/-- A listener for the end is registered after it, and notified at once. -/
theorem notified (hdismissed : course.Dismissed) (hmirrored : course.Mirrored)
    (hclosed : course.session.ended = true) {agenda : List Task}
    (hkept : partings (errands agenda) = partings (errands course.agenda))
    (acts : List Act) :
    Dismissed ⟨course.session, agenda, course.history ++
      [.awaited acts, .parted (farewells course.history).length]⟩ := by
  have hlate : .ended ∈ course.history := hmirrored.ended.2 hclosed
  have hfresh := hdismissed.parted hclosed (farewells course.history).length
  rw [List.count_append, if_neg (Nat.lt_irrefl _), Nat.add_eq_zero_iff,
    List.count_eq_zero, List.count_eq_zero] at hfresh
  constructor
  · intro hrunning
    rw [hclosed] at hrunning
    contradiction
  · intro _ listener
    have hparted := hdismissed.parted hclosed listener
    rw [List.count_append] at hparted
    simp only [readings_append, readings_cons, readings_nil,
      Happening.parting?, Happening.farewell?, Option.toList_some,
      Option.toList_none, List.nil_append, List.append_nil, hkept,
      List.count_append, List.length_append, List.length_singleton,
      List.count_singleton]
    by_cases hnew : (farewells course.history).length = listener
    · subst hnew
      simp [List.count_eq_zero.2 hfresh.1, List.count_eq_zero.2 hfresh.2]
    · have hbefore : listener < (farewells course.history).length + 1 ↔
          listener < (farewells course.history).length := by omega
      simp only [beq_iff_eq, hnew, hbefore, if_false, Nat.add_zero]
      exact hparted
  · rw [List.append_cons]
    apply Lawful.snoc
    · have hallowed : Allowed course.history (.awaited acts) := trivial
      exact hdismissed.lawful.snoc hallowed
    · simp [Allowed, hlate, hfresh.1]
  · exact hdismissed.prompt.notified acts

theorem act (hdismissed : course.Dismissed) (hmirrored : course.Mirrored)
    (hsuited : course.Suited) (hacted : course.Acted move after) :
    after.Dismissed := by
  have hearly (hrunning : course.session.ended = false) :
      .ended ∉ course.history := by
    simp [hmirrored.ended, hrunning]
  cases hacted with
  | nothing => exact hdismissed
  | entered acts =>
      refine ⟨hdismissed.unparted, ?_, hdismissed.lawful, hdismissed.prompt⟩
      simpa using hdismissed.parted
  | delivered message hrunning hidle =>
      exact hdismissed.snoc rfl (by simp [hrunning]) rfl rfl (hearly hrunning)
  | overheard incoming hrunning hidle hother =>
      exact hdismissed.snoc rfl (fun _ => rfl) rfl rfl (hearly hrunning)
  | left incoming hrunning hidle hother =>
      have hheard : Dismissed
          { course with history := course.history ++ [.arrived incoming] } :=
        hdismissed.snoc rfl (fun _ => rfl) rfl rfl (hearly hrunning)
      exact hheard.finish
        (hmirrored.act (.overheard incoming hrunning hidle hother)) hrunning
  | wrote fails item rest hrunning hqueued =>
      exact hdismissed.snoc rfl (fun _ => rfl) rfl rfl (hearly hrunning)
  | failed fails item rest hrunning hidle hqueued =>
      have hpopped : Dismissed { course with
          session := { course.session with
            channel :=
              { course.session.channel with outgoing := rest } } } :=
        ⟨hdismissed.unparted, hdismissed.parted, hdismissed.lawful,
          hdismissed.prompt⟩
      exact hpopped.finish ⟨hmirrored.disconnected, hmirrored.ended,
        hmirrored.listening, hmirrored.awaiting⟩ hrunning
  | called message act rest channel more tasks hagenda hcalled =>
      have hrest : partings (errands course.agenda) =
          partings (errands rest) := by
        rw [hagenda]
        rfl
      have hagree := hmirrored.disconnected
      cases hcalled with
      | listened scope acts =>
          exact hdismissed.snoc rfl (fun _ => hrest.symm) rfl rfl trivial
      | awaited acts hopen =>
          have hrunning := hagree.symm.trans hopen
          refine ⟨fun _ => ?_, by simp [hrunning], ?_, ?_⟩
          · simpa using hdismissed.unparted hrunning
          · have hallowed : Allowed course.history (.awaited acts) := trivial
            exact hdismissed.lawful.snoc hallowed
          · exact hdismissed.prompt.awaited (hearly hrunning) acts
      | notified acts hclosed =>
          refine hdismissed.notified hmirrored (hagree.symm.trans hclosed) ?_
            acts
          rw [errands_toDo_append, hrest]
      | accepted _ item hsends hopen =>
          exact hdismissed.snoc rfl (fun _ => hrest.symm) rfl rfl
            (hearly (hagree.symm.trans hopen))
      | refused _ item name hsends hclosed =>
          exact hdismissed.snoc rfl (fun _ => hrest.symm) rfl rfl
            (hmirrored.ended.2 (hagree.symm.trans hclosed))
      | noted _ hsends notes =>
          rw [List.append_nil]
          refine ⟨hdismissed.unparted, ?_, hdismissed.lawful,
            hdismissed.prompt⟩
          rw [List.nil_append, ← hrest]
          exact hdismissed.parted
  | gave listener message acts rest hagenda =>
      obtain ⟨hrunning, -⟩ := hsuited (.give listener message acts)
        (hagenda ▸ List.mem_cons_self)
      exact hdismissed.snoc rfl (by simp [hrunning]) rfl rfl (hearly hrunning)
  | parted listener acts rest hagenda =>
      obtain ⟨hclosed, hfound⟩ := hsuited (.part listener acts)
        (hagenda ▸ List.mem_cons_self)
      have hknown := (List.getElem?_eq_some_iff.1 hfound).1
      have hparted := hdismissed.parted hclosed
      have hfirst : partings (errands course.agenda) =
          listener :: partings (errands rest) := by
        rw [hagenda]
        rfl
      rw [hfirst] at hparted
      -- it counts once, as it is the next task, so it is not in the history
      have honce := hparted listener
      rw [List.count_append, List.count_cons_self, if_pos hknown] at honce
      constructor
      · intro hrunning
        rw [hclosed] at hrunning
        contradiction
      · intro _ other
        simpa using hparted other
      · apply hdismissed.lawful.snoc
        exact ⟨hmirrored.ended.2 hclosed, hknown,
          List.count_eq_zero.1 (by omega)⟩
      · exact hdismissed.prompt.snoc nofun

end Dismissed

/-! ## Runs -/

structure Kept (course : Course) : Prop where
  mirrored : course.Mirrored
  suited : course.Suited
  queued : course.Queued
  served : course.Served
  dismissed : course.Dismissed

theorem Kept.act (hkept : course.Kept) (hacted : course.Acted move after) :
    after.Kept := by
  obtain ⟨hmirrored, hsuited, hqueued, hserved, hdismissed⟩ := hkept
  exact ⟨hmirrored.act hacted, hsuited.act hmirrored hacted,
    hqueued.act hmirrored hacted, hserved.act hmirrored hacted,
    hdismissed.act hmirrored hsuited hacted⟩

theorem kept_run (moves : List Move) : (start.run moves).Kept := by
  induction moves using List.reverseRecOn with
  | nil => exact ⟨.start, .start, .start, .start, .start⟩
  | append_singleton moves move ih =>
      rw [run_snoc]
      exact ih.act (acted_act _ move)

theorem kept_following (script : Script) (steps : List Step) :
    (following script steps).Kept := by
  obtain ⟨moves, hmoves⟩ := following_eq_run script steps
  rw [hmoves]
  exact kept_run moves

/-- The course of a session has that session, has nothing left to do, and what
came before the end has arrived. -/
theorem following_eq (script : Script) (steps : List Step) :
    ∃ history,
      following script steps = ⟨Session.following script steps, [], history⟩ ∧
      arrivals history = (Session.ofScript script).arrived steps := by
  induction steps using List.reverseRecOn with
  | nil => exact opening_eq script
  | append_singleton steps step ih =>
      obtain ⟨history, hfollows, harrivals⟩ := ih
      have hagree := (kept_following script steps).mirrored.disconnected
      rw [hfollows] at hagree
      obtain ⟨more, hperforms, harrived⟩ := Performs.perform hagree step history
      have hcourse : following script (steps ++ [step]) =
          (following script steps).perform step := List.foldl_append
      have hsession : Session.following script (steps ++ [step]) =
          (Session.following script steps).perform step := List.foldl_append
      refine ⟨history ++ more, ?_, ?_⟩
      · rw [hcourse, hfollows, hperforms, hsession]
      · rw [Session.arrived_snoc, arrivals, readings_append]
        exact congrArg₂ (· ++ ·) harrivals harrived

/-- What holds at every moment of a course. -/
structure InOrder (course : Course) : Prop where
  ended : .ended ∈ course.history ↔ course.session.ended = true
  /-- Each message goes to the listeners registered when it arrived, in the
  order of their registration, and messages go in the order of their arrival. -/
  given : deliveries course.history ++ deliveries (errands course.agenda) =
    due course.history
  /-- The tasks are for the listeners there are, and have their acts. -/
  suits : ∀ task ∈ course.agenda,
    task.Suits course.session.ended course.history
  /-- The listeners return, and nothing is left to be done. -/
  settles : course.settle.agenda = []
  hears : .ended ∉ course.history → course.agenda = [] → ∀ incoming,
    (course.hear incoming).history = course.history ++ .arrived incoming ::
      if incoming = .close ∨ incoming = .failure then [.ended] else []
  written : course.session.written = written course.history ∧
    course.session.written <+: accepted course.history
  /-- Until the end, what is not written waits in line. -/
  waits : .ended ∉ course.history →
    accepted course.history =
      course.session.written ++ course.session.channel.outgoing
  accepts : .ended ∉ course.history → ∀ message act item,
    act.item? message = some item →
      course.call message act =
        { course with
          session.channel.outgoing :=
            course.session.channel.outgoing ++ [item]
          history := course.history ++ [.accepted item] }
  /-- After the end a write fails, which leaves a note and nothing else. -/
  refuses : .ended ∈ course.history → ∀ message act item,
    act.item? message = some item → ∃ name,
      course.call message act =
        { course with
          session.channel := course.session.channel.note
            (name ++ " failed: " ++ Channel.closedMessage)
          history := course.history ++ [.refused item] }
  /-- Every listener for the end is notified of it once. -/
  parted : .ended ∈ course.history →
    ∀ listener < (farewells course.history).length,
      (partings course.history ++ partings (errands course.agenda)).count
        listener = 1
  lawful : Lawful course.history
  prompt : Prompt course.history

theorem Kept.inOrder (hkept : course.Kept) : course.InOrder := by
  obtain ⟨hmirrored, hsuited, hqueued, hserved, hdismissed⟩ := hkept
  constructor
  case ended => exact hmirrored.ended
  case given => exact hserved
  case suits => exact hsuited
  case settles => exact course.agenda_settle
  case hears =>
    intro hearly hidle incoming
    have hrunning : ¬ course.session.ended = true :=
      fun hended => hearly (hmirrored.ended.2 hended)
    cases incoming <;> simp [hear, hrunning, hidle, finish]
  case written => exact ⟨hqueued.recorded, hqueued.inOrder⟩
  case waits =>
    intro hearly
    apply hqueued.inLine
    simpa [hmirrored.ended] using hearly
  case accepts =>
    intro hearly message act item hsends
    have hopen : course.session.channel.disconnected = false := by
      simpa [hmirrored.disconnected, hmirrored.ended] using hearly
    obtain ⟨hcalled, hhappens, hleaves⟩ :=
      Channel.call_of_open hopen hsends (farewells course.history).length
    rw [call, hcalled, hhappens, hleaves]
    rfl
  case refuses =>
    intro hlate message act item hsends
    have hclosed := hmirrored.disconnected.trans (hmirrored.ended.1 hlate)
    obtain ⟨⟨name, hcalled⟩, hhappens, hleaves⟩ :=
      Channel.call_of_closed hclosed hsends (farewells course.history).length
    refine ⟨name, ?_⟩
    rw [call, hcalled, hhappens, hleaves]
    rfl
  case parted =>
    intro hlate listener hknown
    have hparted := hdismissed.parted (hmirrored.ended.1 hlate) listener
    rwa [if_pos hknown] at hparted
  case lawful => exact hdismissed.lawful
  case prompt => exact hdismissed.prompt

/-- In every session all is in order once the listeners have returned, and so it
is at any moment before, whatever is called in between. -/
theorem sessions_inOrder :
    (∀ script steps, ∃ history,
      following script steps = ⟨Session.following script steps, [], history⟩ ∧
      arrivals history = (Session.ofScript script).arrived steps ∧
      InOrder ⟨Session.following script steps, [], history⟩) ∧
    ∀ moves, (start.run moves).InOrder := by
  constructor
  · intro script steps
    obtain ⟨history, hfollows, harrivals⟩ := following_eq script steps
    have hkept := kept_following script steps
    rw [hfollows] at hkept
    exact ⟨history, hfollows, harrivals, hkept.inOrder⟩
  · exact fun moves => (kept_run moves).inOrder

/-- Echoes a text, and closes when the session has ended. -/
def echoing : Script :=
  ⟨[(.text, [.echo ""])], [.onDisconnect [.close]]⟩

/-- A message is echoed and the peer leaves; the second listener for the end
comes too late. -/
theorem sessions_inOrder_echoing :
    let steps : List Step := [.receive (.message (.text "on")),
      .transmit false, .receive .close, .act [.onDisconnect [.text "late"]]]
    ∃ history, InOrder ⟨Session.following echoing steps, [], history⟩ ∧
      history = [.listened .text [.echo ""], .awaited [.close],
        .arrived (.message (.text "on")), .given 0 (.text "on"),
        .accepted (.message (.text "on")), .written (.message (.text "on")),
        .arrived .close, .ended, .parted 0, .refused .close,
        .awaited [.text "late"], .parted 1,
        .refused (.message (.text "late"))] := by
  intro steps
  obtain ⟨history, hfollows, -, hinOrder⟩ := sessions_inOrder.1 echoing steps
  refine ⟨history, hinOrder, ?_⟩
  have hhistory : (following echoing steps).history = history :=
    congrArg Course.history hfollows
  rw [← hhistory]
  rfl

end HttpEngine.WebSocket.Course
