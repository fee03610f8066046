import HttpEngine.Proofs.WebSocket.Settling

/-!
# The operations of a session, taken apart

The operations let every listener do its acts before anything else happens.
Each of them comes to the same as its beginning and the work on the tasks that
this leaves, so the course of a session has the session that follows the same
steps.
-/

namespace HttpEngine.WebSocket

open Course History

variable {session between after : Session} {agenda rest left : List Task}

/-- Work leads from a session with tasks to another, whatever has happened
before; meanwhile nothing arrives. -/
def Works (session : Session) (agenda : List Task) (after : Session)
    (left : List Task) : Prop :=
  ∀ history, ∃ count more,
    (Course.mk session agenda history).run (List.replicate count .work) =
        ⟨after, left, history ++ more⟩ ∧
      arrivals more = []

namespace Works

theorem refl : Works session agenda session agenda :=
  fun history => ⟨0, [], by rw [List.append_nil]; rfl, rfl⟩

theorem trans (hfirst : Works session agenda between rest)
    (hsecond : Works between rest after left) :
    Works session agenda after left := by
  intro history
  obtain ⟨count, more, hreached, hquiet⟩ := hfirst history
  obtain ⟨others, last, hended, hsilent⟩ := hsecond (history ++ more)
  refine ⟨count + others, more ++ last, ?_, ?_⟩
  · rw [← List.replicate_append_replicate, run_append, hreached, hended,
      List.append_assoc]
  · exact (readings_append _ more last).trans
      (congrArg₂ (· ++ ·) hquiet hsilent)

theorem of_work (more : List Happening) (hquiet : arrivals more = [])
    (hworked : ∀ history,
      (Course.mk session agenda history).work =
        ⟨after, left, history ++ more⟩) :
    Works session agenda after left :=
  fun history => ⟨1, more, hworked history, hquiet⟩

theorem call (session : Session) (message : Option Message) (act : Act)
    (rest : List Task) :
    Works session (.call message act :: rest)
      { session with channel := session.channel.call message act }
      (session.channel.followUps act ++ rest) := by
  intro history
  refine ⟨1, _, rfl, ?_⟩
  have hcalled := Channel.called_call message session.channel
    (farewells history).length act
  generalize session.channel.call message act = channel at hcalled
  generalize session.channel.followUps act = tasks at hcalled
  generalize session.channel.happenings message _ act = more at hcalled ⊢
  cases hcalled <;> rfl

/-! ## Acts -/

mutual

theorem perform (session : Session) (message : Option Message)
    (rest : List Task) : ∀ act,
    Works session (.call message act :: rest)
      { session with channel := session.channel.perform message act } rest
  | .onDisconnect acts => by
      have hcalled := call session message (.onDisconnect acts) rest
      rw [Channel.call, Channel.followUps] at hcalled
      by_cases hclosed : session.channel.disconnected
      · rw [if_pos hclosed, if_pos hclosed] at hcalled
        rw [Channel.perform, if_pos hclosed]
        exact hcalled.trans (performAll session none rest acts)
      · rwa [if_neg hclosed, if_neg hclosed] at hcalled
  | .note text => call session message (.note text) rest
  | .text content => call session message (.text content) rest
  | .binary content => call session message (.binary content) rest
  | .echo before => call session message (.echo before) rest
  | .reveal => call session message .reveal rest
  | .state => call session message .state rest
  | .close => call session message .close rest
  | .listen scope acts => call session message (.listen scope acts) rest

theorem performAll (session : Session) (message : Option Message)
    (rest : List Task) : ∀ acts,
    Works session (toDo message acts ++ rest)
      { session with channel := session.channel.performAll message acts } rest
  | [] => refl
  | act :: acts =>
      (perform session message (toDo message acts ++ rest) act).trans
        (performAll _ message rest acts)

end

/-! ## Deliveries and farewells -/

theorem give (session : Session) (listener : Nat) (message : Message)
    (acts : List Act) (rest : List Task) :
    Works session (.give listener message acts :: rest)
      { session with
        channel := session.channel.performAll (some message) acts } rest :=
  (of_work [.given listener message] rfl fun _ => rfl).trans
    (performAll session (some message) rest acts)

theorem part (session : Session) (listener : Nat) (acts : List Act)
    (rest : List Task) :
    Works session (.part listener acts :: rest)
      { session with channel := session.channel.performAll none acts } rest :=
  (of_work [.parted listener] rfl fun _ => rfl).trans
    (performAll session none rest acts)

theorem deliveries (message : Message) (listeners : List (Scope × List Act))
    (first : Nat) (session : Session) :
    Works session (Channel.deliveriesFrom message first listeners)
      { session with
        channel := listeners.foldl (fun channel (scope, acts) =>
          if scope.hears message then channel.performAll (some message) acts
          else channel) session.channel } [] := by
  induction listeners generalizing first session with
  | nil => exact refl
  | cons listener listeners ih =>
      obtain ⟨scope, acts⟩ := listener
      rw [Channel.deliveriesFrom, List.foldl_cons]
      dsimp only
      split
      · exact (give session first message acts _).trans (ih _ _)
      · exact ih _ _

theorem partings (farewells : List (List Act)) (first : Nat)
    (session : Session) :
    Works session (Channel.partingsFrom first farewells)
      { session with
        channel :=
          farewells.foldl (Channel.performAll none) session.channel } [] := by
  induction farewells generalizing first session with
  | nil => exact refl
  | cons acts farewells ih =>
      rw [Channel.partingsFrom, List.foldl_cons]
      exact (part session first acts _).trans (ih _ _)

theorem finish (hopen : session.channel.disconnected = false) :
    Works { session with ended := true, channel := session.channel.shut }
      session.channel.partings session.finish [] := by
  rw [Session.finish, Channel.disconnect, if_neg (Bool.eq_false_iff.1 hopen)]
  exact partings session.channel.farewells 0 _

end Works

/-! ## Operations -/

/-- The course of a session that has nothing left to do makes a step, in which
something may arrive. -/
def Performs (session : Session) (step : Step) (arrived : List Incoming)
    (after : Session) : Prop :=
  ∀ history, ∃ more,
    (Course.mk session [] history).perform step =
        ⟨after, [], history ++ more⟩ ∧
      arrivals more = arrived

namespace Performs

variable {step : Step}

theorem of_commence (begun : List Happening)
    (hcommence : ∀ history, (Course.mk session [] history).commence step =
      ⟨between, agenda, history ++ begun⟩)
    (hworks : Works between agenda after []) :
    Performs session step (arrivals begun) after := by
  intro history
  obtain ⟨count, more, hreached, hquiet⟩ := hworks (history ++ begun)
  refine ⟨begun ++ more, ?_, ?_⟩
  · rw [Course.perform, hcommence, settle_eq hreached rfl, List.append_assoc]
  · rw [arrivals, readings_append]
    exact (congrArg _ hquiet).trans (List.append_nil _)

theorem act (session : Session) (acts : List Act) :
    Performs session (.act acts) [] (session.act acts) :=
  of_commence [] (fun history => by
    rw [Course.commence, List.append_nil history])
    (Works.performAll session none [] acts)

/-- Nothing is taken in or written after the end. -/
theorem of_nothing
    (hcommence : ∀ history, (Course.mk session [] history).commence step =
      ⟨session, [], history⟩) : Performs session step [] session :=
  of_commence [] (fun history => by rw [hcommence, List.append_nil]) .refl

theorem receive (hagree : session.channel.disconnected = session.ended)
    (incoming : Incoming) :
    Performs session (.receive incoming)
      (if session.ended then [] else [incoming])
      (session.receive incoming) := by
  rw [Session.receive.eq_def]
  by_cases hended : session.ended
  · rw [if_pos hended, if_pos hended]
    exact of_nothing fun history => if_pos (.inl hended)
  · rw [if_neg hended, if_neg hended]
    have hopen : session.channel.disconnected = false := by
      simpa [hagree] using hended
    cases incoming with
    | message message =>
        refine of_commence [.arrived (.message message)] (fun history => ?_)
          (Works.deliveries message session.channel.listeners 0 session)
        simp [Course.commence, Course.hear, hended, Channel.deliveries]
    | ping payload =>
        refine of_commence [.arrived (.ping payload)] (fun history => ?_) .refl
        simp [Course.commence, Course.hear, hended]
    | pong payload =>
        refine of_commence [.arrived (.pong payload)] (fun history => ?_) .refl
        simp [Course.commence, Course.hear, hended]
    | close =>
        refine of_commence [.arrived .close, .ended] (fun history => ?_)
          (Works.finish hopen)
        simp [Course.commence, Course.hear, hended, Course.finish]
    | failure =>
        refine of_commence [.arrived .failure, .ended] (fun history => ?_)
          (Works.finish hopen)
        simp [Course.commence, Course.hear, hended, Course.finish]

theorem transmit (hagree : session.channel.disconnected = session.ended)
    (fails : Bool) :
    Performs session (.transmit fails) [] (session.transmit fails) := by
  rw [Session.transmit.eq_def]
  by_cases hended : session.ended
  · rw [if_pos hended]
    exact of_nothing fun history => if_pos (.inl hended)
  · rw [if_neg hended]
    have hopen : session.channel.disconnected = false := by
      simpa [hagree] using hended
    cases hqueued : session.channel.outgoing with
    | nil =>
        refine of_nothing fun history => ?_
        simp [Course.commence, Course.transmit, hended, hqueued]
    | cons item rest =>
        dsimp only
        by_cases hfails : fails || session.closing
        · rw [if_pos hfails]
          refine of_commence [.ended] (fun history => ?_) (Works.finish hopen)
          simp only [Course.commence, Course.transmit, hended, hqueued]
          simp [hfails, Course.finish, Channel.shut, Channel.partings]
        · rw [if_neg hfails]
          refine of_commence [.written item] (fun history => ?_) .refl
          simp only [Course.commence, Course.transmit, hended, hqueued]
          simp [hfails]

theorem perform (hagree : session.channel.disconnected = session.ended)
    (step : Step) :
    Performs session step (if session.ended then [] else step.incoming?.toList)
      (session.perform step) := by
  cases step with
  | act acts => simpa [Session.perform] using act session acts
  | receive incoming => exact receive hagree incoming
  | transmit fails => simpa [Session.perform] using transmit hagree fails

end Performs

/-- Acts that register listeners one after the other leave them all on the
channel, for the acts that follow. -/
theorem Channel.performAll_listen_append (listeners : List (Scope × List Act))
    (others : List Act) (channel : Channel) :
    channel.performAll none
        (listeners.map (fun (scope, acts) => .listen scope acts) ++ others) =
      { channel with
        listeners := channel.listeners ++ listeners }.performAll none
          others := by
  induction listeners generalizing channel with
  | nil => simp
  | cons listener listeners ih => simp [performAll, perform, ih]

theorem opening_eq (script : Script) :
    ∃ history, opening script = ⟨.ofScript script, [], history⟩ ∧
      arrivals history = [] := by
  obtain ⟨history, hopened, hquiet⟩ := Performs.act ⟨.new, false, false, []⟩
    (script.listeners.map (fun (scope, acts) => .listen scope acts) ++
      script.opening) []
  refine ⟨history, hopened.trans ?_, hquiet⟩
  rw [Session.act, Channel.performAll_listen_append]
  rfl

end HttpEngine.WebSocket
