import HttpEngine.Proofs.Event.Share

/-!
# Subscribers that keep up and subscribers that do not

A subscriber is on time as long as each event addressed to it was queued or is
about to be offered.  The first event that finds its queue full, or its stream
gone, makes it fall behind: it is removed before the next task begins, so that
nothing addressed to it later reaches it.
-/

namespace HttpEngine.Traffic

variable {traffic after : Traffic} {move : Move} {subscriber other : Nat}

/-! ## Standings -/

/-- Every event addressed to the subscriber was queued for it, or is about to be
offered. -/
inductive OnTime (subscriber : Nat) (begun : List HubTask) (share : Share) :
    Prop
  | resting (herrands : share.errands = [])
      (hplace : HubTask.belongs subscriber begun = share.member)
      (hhanded : HubTask.addressed subscriber begun = share.kept)
  | joining (herrands : share.errands = [.join subscriber])
      (hplace : HubTask.belongs subscriber begun = true)
      (hhanded : HubTask.addressed subscriber begun = share.kept)
  | offered (event : Event)
      (herrands : share.errands = [.offer event subscriber])
      (hplace : HubTask.belongs subscriber begun = true)
      (hmember : share.member = true)
      (hhanded : HubTask.addressed subscriber begun = share.kept ++ [event])
  | leaving (herrands : share.errands = [.remove subscriber])
      (hplace : HubTask.belongs subscriber begun = false)
      (hhanded : HubTask.addressed subscriber begun = share.kept)

/-- An event was refused: the subscriber is to be removed before the next task,
or was removed. -/
inductive Behind (subscriber : Nat) (begun : List HubTask) (share : Share)
    (event : Event) : Prop
  | leaving (herrands : share.errands = [.remove subscriber])
      (hmember : share.member = true)
      (hhanded : ∃ missed, HubTask.addressed subscriber begun =
        share.kept ++ event :: missed)
  | left (herrands : share.errands = [] ∨ share.errands = [.remove subscriber])
      (hsending : share.queue.sending = false)
      (hhanded : ∃ missed, HubTask.addressed subscriber begun =
        share.kept ++ event :: missed)

variable {begun : List HubTask} {event : Event}

theorem Behind.handed {share : Share}
    (hbehind : Behind subscriber begun share event) :
    ∃ missed, HubTask.addressed subscriber begun = share.kept ++ event ::
      missed := by
  cases hbehind with
  | leaving _ _ hhanded => exact hhanded
  | left _ _ hhanded => exact hhanded

theorem OnTime.of_same {first second : Share}
    (honTime : OnTime subscriber begun second) (hsame : first.Same second) :
    OnTime subscriber begun first := by
  obtain ⟨hkept, hsending, herrands, hmember⟩ := hsame
  cases honTime with
  | resting hnothing hplace hhanded =>
      exact .resting (herrands.trans hnothing) (hplace.trans hmember.symm)
        (hhanded.trans hkept.symm)
  | joining hjoins hplace hhanded =>
      exact .joining (herrands.trans hjoins) hplace (hhanded.trans hkept.symm)
  | offered event hoffers hplace hamong hhanded =>
      exact .offered event (herrands.trans hoffers) hplace
        (hmember.trans hamong) (by rw [hhanded, hkept])
  | leaving hleaves hplace hhanded =>
      exact .leaving (herrands.trans hleaves) hplace (hhanded.trans hkept.symm)

theorem Behind.of_same {first second : Share}
    (hbehind : Behind subscriber begun second event)
    (hsame : first.Same second) : Behind subscriber begun first event := by
  obtain ⟨hkept, hsending, herrands, hmember⟩ := hsame
  cases hbehind with
  | leaving hleaves hamong hhanded =>
      exact .leaving (herrands.trans hleaves) (hmember.trans hamong)
        (by rwa [hkept])
  | left hleaves hgone hhanded =>
      exact .left (by rwa [herrands]) (hsending.trans hgone) (by rwa [hkept])

theorem OnTime.addressed_eq {share : Share}
    (honTime : OnTime subscriber begun share) :
    HubTask.addressed subscriber begun = share.kept ++ share.due := by
  cases honTime with
  | resting herrands _ hhanded => simp [hhanded, Share.due, herrands]
  | joining herrands _ hhanded =>
      simp [hhanded, Share.due, herrands, HubStep.event?]
  | offered event herrands _ _ hhanded =>
      simp [hhanded, Share.due, herrands, HubStep.event?]
  | leaving herrands _ hhanded =>
      simp [hhanded, Share.due, herrands, HubStep.event?]

theorem OnTime.of_idle {share : Share} (honTime : OnTime subscriber begun share)
    (hidle : share.errands = []) :
    HubTask.belongs subscriber begun = share.member ∧
      HubTask.addressed subscriber begun = share.kept := by
  cases honTime with
  | resting _ hplace hhanded => exact ⟨hplace, hhanded⟩
  | joining herrands => simp [herrands] at hidle
  | offered _ herrands => simp [herrands] at hidle
  | leaving herrands => simp [herrands] at hidle

theorem OnTime.of_offer {share : Share} {rest : List HubStep}
    (honTime : OnTime subscriber begun share)
    (hnext : share.errands = .offer event subscriber :: rest) :
    rest = [] ∧ share.member = true ∧
      HubTask.addressed subscriber begun = share.kept ++ [event] := by
  cases honTime with
  | resting herrands => simp [herrands] at hnext
  | joining herrands => simp [herrands] at hnext
  | offered offered herrands _ hmember hhanded =>
      obtain ⟨hsame, hnone⟩ := List.cons.inj (hnext.symm.trans herrands)
      rw [(HubStep.offer.inj hsame).1]
      exact ⟨hnone, hmember, hhanded⟩
  | leaving herrands => simp [herrands] at hnext

/-- Between two tasks, a subscriber that is on time is a member or was removed
by a task. -/
theorem OnTime.sending_iff (horderly : traffic.Orderly)
    (hidle : traffic.agenda = [])
    (honTime : OnTime subscriber traffic.begun (traffic.share subscriber)) :
    (traffic.hub.queueOf subscriber).sending = false ↔
      .join subscriber ∈ traffic.begun ∧
      HubTask.belongs subscriber traffic.begun = false := by
  have hplace : HubTask.belongs subscriber traffic.begun =
      traffic.hub.members.contains subscriber :=
    (honTime.of_idle (by simp [share, hidle])).1
  rw [hplace]
  constructor
  · intro hletGo
    exact ⟨horderly.joined_of_not_sending hletGo,
      by simpa using (horderly.not_mem_of_not_sending hletGo).1⟩
  · rintro ⟨hjoined, hout⟩
    exact horderly.not_sending_of_joined hidle hjoined (by simpa using hout)

/-! ### Steps of the running task -/

theorem errands_of_agenda {step : HubStep} {rest : List HubStep}
    (hagenda : traffic.agenda = step :: rest)
    (hown : step.subscriber = subscriber) :
    (traffic.share subscriber).errands =
      step :: rest.filter (·.subscriber = subscriber) := by
  simp [share, hagenda, hown]

/-- A removal takes nothing out of a queue. -/
theorem kept_without (left : List HubStep) :
    (({ traffic with
        hub := traffic.hub.without subscriber
        agenda := left } : Traffic).share subscriber).kept =
          (traffic.share subscriber).kept := by
  simp only [Share.kept, share, Hub.queueOf_without]
  split <;> rfl

/-- The next step of the worker offers an event to a subscriber that cannot take
it. -/
def Misses (traffic : Traffic) (subscriber : Nat) (event : Event) : Prop :=
  traffic.agenda.head? = some (.offer event subscriber) ∧
  traffic.hub.Refuses subscriber

theorem OnTime.perform {step : HubStep} {rest left : List HubStep} {hub : Hub}
    (honTime : OnTime subscriber traffic.begun (traffic.share subscriber))
    (hagenda : traffic.agenda = step :: rest)
    (hperformed : traffic.hub.Performed rest step (hub, left))
    (hmisses : ∀ event, ¬ traffic.Misses subscriber event) :
    OnTime subscriber traffic.begun
      (({ traffic with hub := hub, agenda := left } : Traffic).share
        subscriber) := by
  by_cases hown : step.subscriber = subscriber
  · have hshape := errands_of_agenda hagenda hown
    cases honTime with
    | resting herrands => simp [herrands] at hshape
    | joining herrands hplace hhanded =>
        obtain ⟨rfl, hnone⟩ := List.cons.inj (hshape.symm.trans herrands)
        cases hperformed with
        | joined =>
            refine .resting hnone ?_ hhanded
            simp [share, hplace]
    | offered event herrands hplace hmember hhanded =>
        obtain ⟨rfl, hnone⟩ := List.cons.inj (hshape.symm.trans herrands)
        cases hperformed with
        | queued _ _ htakes =>
            have hknown := Hub.known_of_not_refuses htakes
            refine .resting hnone (hplace.trans hmember.symm) ?_
            rw [hhanded]
            simp [Share.kept, share, Hub.queueOf_changeQueue, hknown]
        | refused _ _ hrefuses =>
            exact absurd ⟨by simp [hagenda], hrefuses⟩ (hmisses event)
    | leaving herrands hplace hhanded =>
        obtain ⟨rfl, hnone⟩ := List.cons.inj (hshape.symm.trans herrands)
        cases hperformed with
        | removed _ hmem =>
            refine .resting hnone ?_ ?_
            · simp [share, hplace]
            · rw [hhanded, kept_without]
        | missing _ habsent =>
            refine .resting hnone ?_ hhanded
            simp [share, hplace, habsent]
  · rw [share_performed_of_ne hagenda hperformed hown]
    exact honTime

theorem OnTime.refused {rest left : List HubStep} {hub : Hub}
    (honTime : OnTime subscriber traffic.begun (traffic.share subscriber))
    (hagenda : traffic.agenda = .offer event subscriber :: rest)
    (hperformed : traffic.hub.Performed rest (.offer event subscriber)
      (hub, left))
    (hrefuses : traffic.hub.Refuses subscriber) :
    (({ traffic with hub := hub, agenda := left } : Traffic).share
        subscriber).kept = (traffic.share subscriber).kept ∧
      Behind subscriber traffic.begun
        (({ traffic with hub := hub, agenda := left } : Traffic).share
          subscriber) event := by
  obtain ⟨hnone, hmember, hhanded⟩ :=
    honTime.of_offer
      (errands_of_agenda hagenda (HubStep.subscriber_offer subscriber event))
  cases hperformed with
  | queued _ _ htakes => exact absurd hrefuses htakes
  | refused =>
      refine ⟨rfl, .leaving ?_ hmember ⟨[], hhanded⟩⟩
      simp [share, hnone]

theorem Behind.perform (horderly : traffic.Orderly) {step : HubStep}
    {rest left : List HubStep} {hub : Hub}
    (hbehind : Behind subscriber traffic.begun (traffic.share subscriber) event)
    (hagenda : traffic.agenda = step :: rest)
    (hperformed : traffic.hub.Performed rest step (hub, left)) :
    (({ traffic with hub := hub, agenda := left } : Traffic).share
        subscriber).kept = (traffic.share subscriber).kept ∧
      Behind subscriber traffic.begun
        (({ traffic with hub := hub, agenda := left } : Traffic).share
          subscriber) event := by
  by_cases hown : step.subscriber = subscriber
  · have hshape := errands_of_agenda hagenda hown
    -- the subscriber has no other errand than its removal
    obtain ⟨rfl, hnone⟩ : step = .remove subscriber ∧
        rest.filter (·.subscriber = subscriber) = [] := by
      rcases hbehind with ⟨herrands, _, _⟩ | ⟨herrands | herrands, _, _⟩
      · exact List.cons.inj (hshape.symm.trans herrands)
      · simp [herrands] at hshape
      · exact List.cons.inj (hshape.symm.trans herrands)
    cases hperformed with
    | removed _ hmem =>
        refine ⟨kept_without _, .left (.inl hnone) ?_ ?_⟩
        · simp [share, Hub.queueOf_without, horderly.known_of_mem hmem]
        · rw [kept_without]
          exact hbehind.handed
    | missing _ habsent =>
        cases hbehind with
        | leaving _ hmember hhanded => simp [share, habsent] at hmember
        | left _ hsending hhanded =>
            exact ⟨rfl, .left (.inl hnone) hsending hhanded⟩
  · rw [share_performed_of_ne hagenda hperformed hown]
    exact ⟨rfl, hbehind⟩

/-! ### Beginning a task -/

theorem OnTime.begin {before after : Share}
    (honTime : OnTime subscriber begun before) (hidle : before.errands = [])
    (task : HubTask)
    (hfresh : task = .join subscriber → .join subscriber ∉ begun)
    (hkept : after.kept = before.kept) (hmember : after.member = before.member)
    (herrands : after.errands = task.errands subscriber before.member) :
    OnTime subscriber (begun ++ [task]) after := by
  have hbelongs := HubTask.belongs_snoc task hfresh
  have haddressed := @HubTask.addressed_snoc subscriber begun task
  obtain ⟨hplace, hhanded⟩ := honTime.of_idle hidle
  rw [hplace, ← hmember] at hbelongs haddressed
  rw [hhanded, ← hkept] at haddressed
  rw [← hmember] at herrands
  simp only [HubTask.errands, HubTask.eventFor?, HubTask.keeps]
    at herrands haddressed hbelongs
  cases task with
  | join other =>
      by_cases hsame : other = subscriber
      · exact .joining (by simpa [hsame]
          using herrands) (by rw [hbelongs]; simp [hsame])
          (by simpa using haddressed)
      · exact .resting (by simpa [hsame]
          using herrands) (by rw [hbelongs]; simp [hsame])
          (by simpa using haddressed)
  | leave other =>
      by_cases hsame : other = subscriber
      · exact .leaving (by simpa [hsame]
          using herrands) (by rw [hbelongs]; simp [hsame])
          (by simpa using haddressed)
      · exact .resting (by simpa [hsame]
          using herrands) (by rw [hbelongs]; simp [hsame])
          (by simpa using haddressed)
  | broadcast event =>
      cases hamong : after.member with
      | true =>
          exact .offered event (by simpa [hamong]
            using herrands) (by rw [hbelongs]; simp [hamong])
            hamong (by simpa [hamong] using haddressed)
      | false =>
          exact .resting (by simpa [hamong]
            using herrands) (by rw [hbelongs]; simp [hamong])
            (by simpa [hamong] using haddressed)
  | sendTo other event =>
      by_cases htakes : other = subscriber ∧ after.member = true
      · exact .offered event (by simpa [htakes]
          using herrands) (by rw [hbelongs]; simp [htakes])
          htakes.2 (by simpa [htakes] using haddressed)
      · refine .resting (by simpa [htakes]
          using herrands) (by rw [hbelongs]; simp) ?_
        rw [haddressed]
        by_cases hsame : other = subscriber
        · have hout : after.member = false := by simpa [hsame] using htakes
          simp [hout]
        · simp [hsame]
  | close =>
      cases hamong : after.member with
      | true =>
          exact .leaving (by simpa [hamong]
            using herrands) (by rw [hbelongs]; simp) (by simpa using haddressed)
      | false =>
          exact .resting (by simpa [hamong]
            using herrands) (by rw [hbelongs]; simp [hamong])
            (by simpa using haddressed)

theorem Behind.letGo {share : Share}
    (hbehind : Behind subscriber begun share event)
    (hidle : share.errands = []) : share.queue.sending = false := by
  cases hbehind with
  | leaving herrands => simp [herrands] at hidle
  | left _ hletGo => exact hletGo

theorem Behind.begin {before after : Share}
    (hbehind : Behind subscriber begun before event)
    (hidle : before.errands = []) (hout : before.member = false)
    (task : HubTask) (hfresh : task ≠ .join subscriber)
    (hkept : after.kept = before.kept)
    (hsending : after.queue.sending = before.queue.sending)
    (herrands : after.errands = task.errands subscriber before.member) :
    Behind subscriber (begun ++ [task]) after event := by
  refine .left ?_ (hsending.trans (hbehind.letGo hidle)) ?_
  · rw [herrands, hout]
    cases task with
    | join other =>
        have hother : other ≠ subscriber := fun hsame => hfresh (by rw [hsame])
        simp [HubTask.errands, hother]
    | leave other =>
        by_cases hsame : other = subscriber <;> simp [HubTask.errands, hsame]
    | broadcast event => simp [HubTask.errands]
    | sendTo other event => simp [HubTask.errands]
    | close => simp [HubTask.errands]
  · obtain ⟨missed, hhanded⟩ := hbehind.handed
    rw [HubTask.addressed_snoc, hhanded, ← hkept, List.append_assoc]
    exact ⟨_, rfl⟩

/-! ### Moves -/

theorem OnTime.act (horderly : traffic.Orderly)
    (hacted : traffic.Acted move after)
    (honTime : OnTime subscriber traffic.begun (traffic.share subscriber))
    (hmisses : move = .work → ∀ event, ¬ traffic.Misses subscriber event) :
    OnTime subscriber after.begun (after.share subscriber) := by
  by_cases hwork : move = .work
  · subst hwork
    cases hacted with
    | nothing => exact honTime
    | dispatched => contradiction
    | performed step rest hagenda hub left hperformed =>
        exact honTime.perform hagenda hperformed (hmisses rfl)
    | began task tasks hagenda hwaiting =>
        refine honTime.begin (by simp [share, hagenda]) task (fun hjoins => ?_)
          rfl rfl ?_
        · exact horderly.not_mem_begun (by simp [hwaiting, hjoins])
        · exact HubTask.filter_steps horderly.count_members task
  · obtain ⟨hsame, hbegun⟩ := same_of_acted hacted hwork
    rw [hbegun]
    exact honTime.of_same hsame

theorem Behind.act (horderly : traffic.Orderly)
    (hacted : traffic.Acted move after)
    (hbehind : Behind subscriber traffic.begun
      (traffic.share subscriber) event) :
    (after.share subscriber).kept = (traffic.share subscriber).kept ∧
      Behind subscriber after.begun (after.share subscriber) event := by
  by_cases hwork : move = .work
  · subst hwork
    cases hacted with
    | nothing => exact ⟨rfl, hbehind⟩
    | dispatched => contradiction
    | performed step rest hagenda hub left hperformed =>
        exact hbehind.perform horderly hagenda hperformed
    | began task tasks hagenda hwaiting =>
        have hidle : (traffic.share subscriber).errands = [] := by
          simp [share, hagenda]
        obtain ⟨hout, hjoined⟩ :=
          horderly.not_mem_of_not_sending (hbehind.letGo hidle)
        refine ⟨rfl,
          hbehind.begin hidle (by simp [share, hout]) task (fun hjoins => ?_)
            rfl rfl ?_⟩
        · exact hjoined (by simp [hwaiting, hjoins])
        · exact HubTask.filter_steps horderly.count_members task
  · obtain ⟨hsame, hbegun⟩ := same_of_acted hacted hwork
    rw [hbegun]
    exact ⟨hsame.kept, hbehind.of_same hsame⟩

theorem OnTime.missed (hacted : traffic.Acted .work after)
    (honTime : OnTime subscriber traffic.begun (traffic.share subscriber))
    (hmisses : traffic.Misses subscriber event) :
    (after.share subscriber).kept = (traffic.share subscriber).kept ∧
      Behind subscriber after.begun (after.share subscriber) event := by
  obtain ⟨hnext, hrefuses⟩ := hmisses
  cases hacted with
  | nothing _ hidle => simp [hidle rfl] at hnext
  | dispatched => contradiction
  | performed step rest hagenda hub left hperformed =>
      rw [hagenda, List.head?_cons, Option.some.injEq] at hnext
      subst hnext
      exact honTime.refused hagenda hperformed hrefuses
  | began task tasks hagenda hwaiting => simp [hagenda] at hnext

theorem Misses.errands (hmisses : traffic.Misses subscriber event) :
    ∃ rest, (traffic.share subscriber).errands = .offer event subscriber ::
      rest := by
  obtain ⟨rest, hagenda⟩ := List.head?_eq_some_iff.1 hmisses.1
  exact ⟨_,
    errands_of_agenda hagenda (HubStep.subscriber_offer subscriber event)⟩

theorem OnTime.mem_of_misses
    (honTime : OnTime subscriber traffic.begun (traffic.share subscriber))
    (hmisses : traffic.Misses subscriber event) :
    subscriber ∈ traffic.hub.members := by
  obtain ⟨rest, hnext⟩ := hmisses.errands
  simpa [share] using (honTime.of_offer hnext).2.1

/-- A subscriber that is behind is offered nothing. -/
theorem Behind.not_misses {missed : Event}
    (hbehind : Behind subscriber traffic.begun
      (traffic.share subscriber) missed) :
    ¬ traffic.Misses subscriber event := by
  intro hmisses
  obtain ⟨rest, hshape⟩ := hmisses.errands
  rcases hbehind with ⟨herrands, _, _⟩ | ⟨herrands | herrands, _, _⟩ <;>
    simp [herrands] at hshape

end HttpEngine.Traffic
