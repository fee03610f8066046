import HttpEngine.Proofs.Stream.Calls

/-!
# A peer that goes away

A peer takes some chunks and then goes away.  `perform_cutOff` says that the
sink it leaves behind is a function of the sink as it would be if the peer had
stayed: the same one as long as no further chunk was needed, and a disconnected
one that has notified its listeners from then on.
-/

namespace HttpEngine

namespace Outlet

variable {ι : Type} {outlet : Outlet ι}

/-! ## Chunks that are not taken -/

/-- The sink after a peer that is about to go away has taken as many chunks as
it would. -/
def served (outlet : Outlet ι) (left : Nat) (chunks : List Bytes) : Outlet ι :=
  { outlet with
    peer :=
      ⟨some (left - chunks.length), outlet.peer.received ++ chunks.take left⟩ }

theorem sendAll_of_patience (hconnected : outlet.connected = true) {left : Nat}
    (hpatience : outlet.peer.patience = some left) (chunks : List Bytes) :
    outlet.sendAll chunks =
      if chunks.length ≤ left then (outlet.served left chunks, true)
      else ((outlet.served left chunks).disconnect, false) := by
  obtain ⟨_, buffer, capacity, listeners, notified, _, received⟩ := outlet
  obtain rfl := hconnected
  obtain rfl := hpatience
  induction chunks generalizing left received with
  | nil => simp [sendAll, served]
  | cons chunk chunks ih =>
      cases left with
      | zero => simp [sendAll, send, Peer.take?, disconnect, served]
      | succ left =>
          have hnext := @ih left (received.push chunk)
          rw [sendAll]
          simp only [send, Peer.take?] at hnext ⊢
          simpa [served] using hnext

/-- The sink as it is if its peer goes away after some chunks, by what it is if
the peer stays. -/
def cutOff (outlet : Outlet ι) (count : Nat) : Outlet ι :=
  let left : Outlet ι := { outlet with
    peer :=
      ⟨some (count - outlet.delivered.length),
        (outlet.delivered.take count).toArray⟩ }
  if outlet.delivered.length ≤ count then left else left.disconnect

theorem cutOff_of_le {count : Nat} (henough : outlet.delivered.length ≤ count) :
    outlet.cutOff count = { outlet with
      peer :=
        ⟨some (count - outlet.delivered.length),
          outlet.delivered.toArray⟩ } := by
  rw [cutOff, if_pos henough, List.take_of_length_le henough]

theorem cutOff_of_lt {count : Nat} (hmore : count < outlet.delivered.length) :
    outlet.cutOff count =
      { outlet with
        connected := false
        buffer := []
        listeners := []
        notified := outlet.notified ++ outlet.listeners
        peer := ⟨some 0, (outlet.delivered.take count).toArray⟩ } := by
  rw [cutOff, if_neg (Nat.not_le.2 hmore),
    Nat.sub_eq_zero_of_le (Nat.le_of_lt hmore)]
  rfl

@[simp] theorem delivered_cutOff (count : Nat) :
    (outlet.cutOff count).delivered = outlet.delivered.take count := by
  rw [cutOff]
  split <;> rfl

theorem cutOff_new (capacity count : Nat) :
    (new capacity .attentive : Outlet ι).cutOff count =
      new capacity ⟨some count, #[]⟩ := by
  simp [cutOff, new, delivered, Peer.attentive]

/-! ## One call -/

theorem sendAll_cutOff (hconnected : outlet.connected = true) {count : Nat}
    (henough : outlet.delivered.length ≤ count) (chunks : List Bytes) :
    (outlet.cutOff count).sendAll chunks =
      ((outlet.handed chunks).cutOff count,
        decide ((outlet.handed chunks).delivered.length ≤ count)) := by
  have htaken : (outlet.delivered ++ chunks).take count =
      outlet.delivered ++ chunks.take (count - outlet.delivered.length) := by
    rw [List.take_append, List.take_of_length_le henough]
  have hleft :
    (outlet.cutOff count).served (count - outlet.delivered.length) chunks =
      { outlet with
        peer := ⟨some (count - (outlet.delivered ++ chunks).length),
          ((outlet.delivered ++ chunks).take count).toArray⟩ } := by
    rw [cutOff_of_le henough, htaken]
    simp [served, Nat.sub_sub]
  have hstill : (outlet.cutOff count).connected = true := by
    rw [cutOff_of_le henough]
    exact hconnected
  have hpatience : (outlet.cutOff count).peer.patience =
      some (count - outlet.delivered.length) := by
    rw [cutOff_of_le henough]
  rw [sendAll_of_patience hstill hpatience, hleft, cutOff, delivered_handed,
    List.length_append]
  by_cases hall : outlet.delivered.length + chunks.length ≤ count
  · rw [if_pos (by omega), if_pos hall, decide_eq_true hall]
    rfl
  · rw [if_neg (by omega), if_neg hall, decide_eq_false hall]
    rfl

theorem perform_cutOff (hstays : outlet.Stays) (count : Nat)
    (call : SinkCall ι) :
    (outlet.cutOff count).perform call =
      ((outlet.perform call).1.cutOff count,
        decide ((outlet.perform call).1.delivered.length ≤ count)) := by
  rw [perform_of_stays hstays]
  rcases Nat.lt_or_ge count outlet.delivered.length with hmore | henough
  · -- the peer has been missed before, and nothing is handed over any more
    have hstill : count < ((outlet.prepared call).handed
        (outlet.due call).1).delivered.length := by
      rw [delivered_handed, List.length_append]
      exact Nat.lt_add_right _ hmore
    have hsame :
        (((outlet.prepared call).handed (outlet.due call).1).delivered.take
          count) =
        outlet.delivered.take count := by
      rw [delivered_handed]
      exact List.take_append_of_le_length (Nat.le_of_lt hmore)
    rw [decide_eq_false (Nat.not_le.2 hstill), cutOff_of_lt hmore,
      cutOff_of_lt hstill, hsame]
    cases call <;>
      simp [perform, write, flush, onDisconnect, prepared, handed,
        SinkCall.listeners]
  · have hbefore : (outlet.cutOff count).prepared call =
        (outlet.prepared call).cutOff count := by
      rw [cutOff_of_le henough,
        @cutOff_of_le _ (outlet.prepared call) _ henough]
      rfl
    have hdue : (outlet.cutOff count).due call = outlet.due call := by
      rw [cutOff_of_le henough]
      cases call <;> rfl
    have hconnected : (outlet.cutOff count).connected = true := by
      rw [cutOff_of_le henough]
      exact hstays.connected
    rw [perform_eq hconnected, hbefore, hdue]
    exact @sendAll_cutOff _ (outlet.prepared call) hstays.connected _ henough _

theorem performAll_cutOff (hstays : outlet.Stays) (count : Nat)
    (calls : List (SinkCall ι)) :
    (outlet.cutOff count).performAll calls =
      (outlet.performAll calls).cutOff count := by
  induction calls generalizing outlet with
  | nil => rfl
  | cons call calls ih =>
      change ((outlet.cutOff count).perform call).1.performAll calls = _
      rw [perform_cutOff hstays]
      exact ih (hstays.perform call)

theorem finish_cutOff (hstays : outlet.Stays) (count : Nat) (ending : SinkEnd) :
    (outlet.cutOff count).finish ending =
      (outlet.finish ending).cutOff count := by
  have hkept : (outlet.cutOff count).connected = false →
      (outlet.cutOff count).buffer = [] := by
    rcases Nat.lt_or_ge count outlet.delivered.length with hmore | henough
    · rw [cutOff_of_lt hmore]
      exact fun _ => rfl
    · rw [cutOff_of_le henough]
      exact hstays.kept
  rw [finish_eq_flush hkept, finish_eq_flush hstays.kept]
  exact congrArg Prod.fst (perform_cutOff hstays count .flush)

/-! ## The course of a script -/

/-- The peer has not been missed. -/
structure Undisturbed (outlet : Outlet ι) : Prop where
  isDisconnected : outlet.isDisconnected = false
  notified : outlet.notified = []

/-- The peer has been missed, which the listeners that were registered know. -/
structure Deserted (outlet : Outlet ι) (registered : List ι) : Prop where
  isDisconnected : outlet.isDisconnected = true
  buffer : outlet.buffer = []
  notified : outlet.notified = registered
  write : ∀ bytes, outlet.write bytes = (outlet, false)
  flush : outlet.flush = (outlet, false)
  onDisconnect : ∀ listener,
    (outlet.onDisconnect listener).notified = outlet.notified ++ [listener]

theorem undisturbed_cutOff (hstays : outlet.Stays)
    (hsilent : outlet.notified = []) {count : Nat}
    (henough : outlet.delivered.length ≤ count) :
    (outlet.cutOff count).Undisturbed := by
  rw [cutOff_of_le henough]
  exact ⟨by simp [Outlet.isDisconnected, hstays.connected], hsilent⟩

theorem deserted_cutOff (hsilent : outlet.notified = []) {count : Nat}
    (hmore : count < outlet.delivered.length) :
    (outlet.cutOff count).Deserted outlet.listeners := by
  rw [cutOff_of_lt hmore, hsilent]
  constructor <;> simp [Outlet.isDisconnected, Outlet.write, Outlet.flush,
    Outlet.onDisconnect]

theorem length_delivered_performAll (hstays : outlet.Stays)
    (calls : List (SinkCall ι)) :
    outlet.delivered.length ≤ (outlet.performAll calls).delivered.length := by
  induction calls generalizing outlet with
  | nil => exact Nat.le_refl _
  | cons call calls ih =>
      have hmore :
          outlet.delivered.length ≤
            (outlet.perform call).1.delivered.length := by
        rw [perform_of_stays hstays, delivered_handed, List.length_append]
        exact Nat.le_add_right _ _
      exact Nat.le_trans hmore (ih (hstays.perform call))

/-! ## Two peers -/

section

variable (capacity count : Nat) (calls : List (SinkCall ι))

/-- The sink after some calls when its peer stays. -/
def staying : Outlet ι := (new capacity .attentive).performAll calls

/-- The sink after some calls when its peer goes away after some chunks. -/
def leaving : Outlet ι := (new capacity ⟨some count, #[]⟩).performAll calls

theorem stays_staying : (staying capacity calls).Stays :=
  (stays_new capacity).performAll calls

theorem notified_staying : (staying capacity calls).notified = [] :=
  (listeners_performAll (stays_new capacity) calls).2

theorem listeners_staying :
    (staying capacity calls).listeners = calls.flatMap SinkCall.listeners :=
  (listeners_performAll (stays_new capacity) calls).1

theorem leaving_eq_cutOff :
    leaving capacity count calls = (staying capacity calls).cutOff count := by
  rw [leaving, ← cutOff_new]
  exact performAll_cutOff (stays_new capacity) count calls

/-- Giving up the sink is one more flush. -/
theorem finish_staying (ending : SinkEnd) :
    (staying capacity calls).finish ending =
      staying capacity (calls ++ [.flush]) := by
  rw [finish_eq_flush (stays_staying capacity calls).kept]
  exact (performAll_snoc _ calls .flush).symm

theorem finish_leaving (ending : SinkEnd) :
    (leaving capacity count calls).finish ending =
      leaving capacity count (calls ++ [.flush]) := by
  rw [leaving_eq_cutOff, leaving_eq_cutOff,
    finish_cutOff (stays_staying capacity calls), finish_staying]

theorem length_delivered_staying (more : List (SinkCall ι)) :
    (staying capacity calls).delivered.length ≤
      (staying capacity (calls ++ more)).delivered.length := by
  rw [staying, staying, performAll_append]
  exact length_delivered_performAll (stays_staying capacity calls) more

end

variable {capacity count : Nat} {calls : List (SinkCall ι)}

theorem undisturbed_leaving
    (henough : (staying capacity calls).delivered.length ≤ count) :
    (leaving capacity count calls).Undisturbed := by
  rw [leaving_eq_cutOff]
  apply undisturbed_cutOff
  · exact stays_staying capacity calls
  · exact notified_staying capacity calls
  · exact henough

theorem deserted_leaving
    (hmissed : count < (staying capacity calls).delivered.length) :
    (leaving capacity count calls).Deserted
      (calls.flatMap SinkCall.listeners) := by
  rw [leaving_eq_cutOff, ← listeners_staying capacity]
  exact deserted_cutOff (notified_staying capacity calls) hmissed

theorem perform_leaving_fails {call : SinkCall ι}
    (hmissed : count < (staying capacity (calls ++ [call])).delivered.length) :
    ((leaving capacity count calls).perform call).2 = false := by
  rw [staying, performAll_snoc] at hmissed
  rw [leaving_eq_cutOff, perform_cutOff (stays_staying capacity calls)]
  exact decide_eq_false (Nat.not_le.2 hmissed)

/-- A peer goes away after some chunks.  It has got as many of those that the
script sends to a peer that stays.  The first call that needs one more fails, or
giving up the sink does; the listeners registered until then are notified by it,
and those registered later at once. -/
theorem course_of_patience (capacity count : Nat) (calls : List (SinkCall ι))
    (ending : SinkEnd) :
    let registered (calls : List (SinkCall ι)) : List ι :=
      calls.flatMap SinkCall.listeners
    ((leaving capacity count calls).finish ending).delivered =
        ((staying capacity calls).finish ending).delivered.take count ∧
      (∀ before call after, calls = before ++ call :: after →
        (staying capacity before).delivered.length ≤ count →
        count < (staying capacity (before ++ [call])).delivered.length →
          (leaving capacity count before).Undisturbed ∧
            ((leaving capacity count before).perform call).2 = false ∧
            (∀ later,
              (leaving capacity count (before ++ call :: later)).Deserted
              (registered (before ++ call :: later))) ∧
            ((leaving capacity count calls).finish ending).Deserted
              (registered calls)) ∧
      ((staying capacity calls).delivered.length ≤ count →
        count < ((staying capacity calls).finish ending).delivered.length →
          (leaving capacity count calls).Undisturbed ∧
            (leaving capacity count calls).close.2 = false ∧
            ((leaving capacity count calls).finish ending).Deserted
              (registered calls)) ∧
      (((staying capacity calls).finish ending).delivered.length ≤ count →
        ((leaving capacity count calls).finish ending).Undisturbed) := by
  intro registered
  have hsame : registered (calls ++ [.flush]) = registered calls := by
    simp [registered, SinkCall.listeners]
  rw [finish_staying, finish_leaving, ← hsame]
  refine ⟨?_, ?_, ?_, undisturbed_leaving⟩
  · rw [leaving_eq_cutOff, delivered_cutOff]
  · rintro before call after rfl henough hmissed
    have hlost (later : List (SinkCall ι)) :
        (leaving capacity count (before ++ call :: later)).Deserted
          (registered (before ++ call :: later)) := by
      have hmore := length_delivered_staying capacity (before ++ [call]) later
      rw [List.append_assoc] at hmore
      exact deserted_leaving (Nat.lt_of_lt_of_le hmissed hmore)
    have hended := hlost (after ++ [.flush])
    rw [← List.cons_append, ← List.append_assoc] at hended
    exact ⟨undisturbed_leaving henough, perform_leaving_fails hmissed,
      hlost, hended⟩
  · intro henough hmissed
    exact ⟨undisturbed_leaving henough, perform_leaving_fails hmissed,
      deserted_leaving hmissed⟩

/-- Five bytes between two listeners. -/
def listening : List (SinkCall Nat) :=
  [.listen 0, .write [1, 2, 3, 4, 5], .listen 1]

/-- The second chunk is missed by the write, or the third by the drop. -/
theorem course_of_patience_listening :
    ((staying 2 [SinkCall.listen 0]).delivered.length ≤ 1 ∧
        1 < (staying 2 (listening.take 2)).delivered.length ∧
        ((leaving 2 1 listening).finish .drop).Deserted [0, 1]) ∧
      (staying 2 listening).delivered.length ≤ 2 ∧
        2 < ((staying 2 listening).finish .drop).delivered.length ∧
        ((leaving 2 2 listening).finish .drop).Deserted [0, 1] := by
  have hbefore : (staying 2 [SinkCall.listen 0]).delivered.length ≤ 1 := by
    decide
  have hmissed : 1 < (staying 2 (listening.take 2)).delivered.length := by
    decide +kernel
  have hkept : (staying 2 listening).delivered.length ≤ 2 := by
    decide +kernel
  have hrest : 2 < ((staying 2 listening).finish .drop).delivered.length := by
    decide +kernel
  have hwriting :=
    (course_of_patience 2 1 listening .drop).2.1 [.listen 0]
      (.write [1, 2, 3, 4, 5])
    [.listen 1] rfl hbefore hmissed
  have hdropping := (course_of_patience 2 2 listening .drop).2.2.1 hkept hrest
  exact ⟨⟨hbefore, hmissed, hwriting.2.2.2⟩, hkept, hrest, hdropping.2.2⟩

end Outlet

end HttpEngine
