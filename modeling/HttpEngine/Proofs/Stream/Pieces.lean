import HttpEngine.Proofs.Stream.Calls
import HttpEngine.Stream.Producer

/-!
# What a script sends

To a peer that stays, a script sends its runs, each cut from the left into
pieces of the capacity of the sink.  It does not matter how the bytes of a run
were split into writes, nor whether the sink is closed or dropped in the end,
nor whether the script stops at a failure.
-/

namespace HttpEngine

namespace Producer

/-- What a script calls up to the first step that fails. -/
def calls : List ProducerStep → List (SinkCall String)
  | [] => []
  | .write bytes :: rest => .write bytes :: calls rest
  | .flush :: rest => .flush :: calls rest
  | .fail _ :: _ => []
  | .note _ :: rest => calls rest

theorem writeAll_eq_write {ι : Type} {outlet : Outlet ι} (hstays : outlet.Stays)
    (bytes : Bytes) :
    outlet.writeAll bytes = outlet.write bytes := by
  rw [Outlet.writeAll]
  split
  · next hempty =>
      -- nothing is written, and a full buffer would have been handed over
      -- before
      have hnone := Outlet.fullPieces_of_short hstays.short
      have hperformed := Outlet.perform_of_stays hstays (.write [])
      rw [List.isEmpty_iff.1 hempty]
      simpa [Outlet.perform, Outlet.prepared, Outlet.due, hnone, Outlet.handed,
        SinkCall.listeners] using hperformed.symm
  · rfl

theorem runSteps_cons {run next : Production} {step : ProducerStep}
    (hstepped : runStep run step = next) (hwell : next.failure = none)
    (rest : List ProducerStep) :
    runSteps run (step :: rest) = runSteps next rest := by
  rw [runSteps, hstepped, hwell]
  rfl

theorem outlet_runSteps {run : Production} (hstays : run.outlet.Stays)
    (hwell : run.failure = none) (steps : List ProducerStep) :
    (runSteps run steps).outlet = run.outlet.performAll (calls steps) := by
  induction steps generalizing run with
  | nil => rfl
  | cons step rest ih =>
      cases step with
      | write bytes =>
          have hperformed := Outlet.perform_of_stays hstays (.write bytes)
          have htaken : (run.outlet.writeAll bytes).2 = true := by
            rw [writeAll_eq_write hstays]
            exact congrArg Prod.snd hperformed
          have hwell : (runStep run (.write bytes)).failure = none := by
            simp [runStep, htaken]
          have houtlet : (runStep run (.write bytes)).outlet =
              (run.outlet.perform (.write bytes)).1 :=
            congrArg Prod.fst (writeAll_eq_write hstays bytes)
          rw [runSteps_cons rfl hwell,
            ih (houtlet ▸ hstays.perform _) hwell, houtlet]
          rfl
      | flush =>
          have htaken : run.outlet.flush.2 = true :=
            congrArg Prod.snd (Outlet.perform_of_stays hstays .flush)
          have hwell : (runStep run .flush).failure = none := by
            simp [runStep, htaken]
          rw [runSteps_cons rfl hwell, ih (hstays.perform .flush) hwell]
          rfl
      | fail message => rfl
      | note text =>
          have hafter : (runStep run (.note text)).failure = none := hwell
          have hnext := @ih (runStep run (.note text)) hstays hwell
          rw [runSteps_cons rfl hafter, hnext]
          rfl

/-- However a script ends, what is left in the buffer is handed over. -/
theorem outlet_run (producer : Producer) (capacity : Nat) :
    (producer.run capacity .attentive).outlet =
      ((Outlet.new capacity .attentive).performAll
        (calls producer.steps)).flush.1 := by
  have hfresh : (Outlet.new capacity .attentive : Outlet String).Stays :=
    Outlet.stays_new capacity
  have hstays := hfresh.performAll (calls producer.steps)
  have hran :=
    @outlet_runSteps ⟨.new capacity .attentive, none,
      []⟩ hfresh rfl producer.steps
  have hgiven (ending : SinkEnd) := Outlet.finish_eq_flush hstays.kept ending
  rw [run, ← hran] at *
  cases producer.ending with
  | drop => exact hgiven .drop
  | close => exact hgiven .close
  | closeOnSuccess =>
      rw [finish]
      split
      · exact hgiven .drop
      · exact hgiven .close

end Producer

namespace SinkCall

variable {ι : Type}

/-- The chunks that are sent for a script: its runs, cut from the left into
pieces of the capacity. -/
structure Sends (capacity : Nat) (calls : List (SinkCall ι))
    (chunks : List Bytes) : Prop where
  chunks_eq : chunks = (runs calls).flatMap (Sequence.pieces (max capacity 1))
  sizes : ∀ chunk ∈ chunks, chunk ≠ [] ∧ chunk.length ≤ max capacity 1
  bytes_eq : chunks.flatten = calls.flatMap bytes

theorem sends_of_eq {capacity : Nat} {calls : List (SinkCall ι)}
    {chunks : List Bytes}
    (hcut : chunks = (runs calls).flatMap (Sequence.pieces (max capacity 1))) :
    Sends capacity calls chunks where
  chunks_eq := hcut
  sizes chunk hmem := by
    rw [hcut, List.mem_flatMap] at hmem
    obtain ⟨run, -, hmem⟩ := hmem
    exact Sequence.mem_pieces hmem
  bytes_eq := by
    have hpositive : max capacity 1 ≠ 0 := by omega
    have hjoined (run : Bytes) :
        (Sequence.pieces (max capacity 1) run).flatten = run :=
      Sequence.pieces_flatten hpositive run
    rw [hcut, ← List.flatMap_id, List.flatMap_assoc, ← flatten_runs,
      ← List.flatMap_id]
    simp [hjoined]

theorem delivered_eq (capacity : Nat) (calls : List (SinkCall ι)) :
    ((Outlet.new capacity .attentive).performAll calls).flush.1.delivered =
      (runs calls).flatMap (Sequence.pieces (max capacity 1)) := by
  have hwhole :=
    Outlet.delivered_flush_performAll (Outlet.stays_new capacity) calls
  obtain ⟨first, rest, hcut⟩ := List.exists_cons_of_ne_nil (runs_ne_nil calls)
  rw [hwhole, hcut]
  rfl

/-- To a peer that stays, the chunks are the pieces of the runs, for a sink that
is closed or dropped and for a script that may fail; how the runs were split
into writes does not matter. -/
theorem sends_delivered (capacity : Nat) (calls other : List (SinkCall ι))
    (ending last : SinkEnd) (producer : Producer) :
    let sent (calls : List (SinkCall ι)) (ending : SinkEnd) :=
      (((Outlet.new capacity .attentive).performAll calls).finish
        ending).delivered
    Sends capacity calls (sent calls ending) ∧
      (runs calls = runs other → sent calls ending = sent other last) ∧
      Sends capacity (Producer.calls producer.steps)
        (producer.run capacity .attentive).outlet.delivered := by
  intro sent
  have hcut (calls : List (SinkCall ι)) (ending : SinkEnd) :
      sent calls ending =
        (runs calls).flatMap (Sequence.pieces (max capacity 1)) := by
    have hstays := (Outlet.stays_new capacity).performAll calls
    simp only [sent, Outlet.finish_eq_flush hstays.kept ending]
    exact delivered_eq capacity calls
  refine ⟨sends_of_eq (hcut calls ending), ?_, sends_of_eq ?_⟩
  · intro hsame
    rw [hcut, hcut, hsame]
  · rw [Producer.outlet_run]
    exact delivered_eq capacity _

/-- One run of five bytes before a flush and one of four behind it, written in
other portions. -/
def portioned (first second third : Bytes) : List (SinkCall Unit) :=
  [.write first, .listen (), .write second, .flush, .write third]

theorem sends_delivered_portioned :
    runs (portioned [1, 2, 3] [4, 5] [6, 7, 8, 9]) =
        runs (portioned [] [1, 2, 3, 4, 5] [6, 7, 8, 9]) ∧
      (((Outlet.new 2 .attentive).performAll
          (portioned [] [1, 2, 3, 4, 5] [6, 7, 8, 9])).finish .drop).delivered =
        [[1, 2], [3, 4], [5], [6, 7], [8, 9]] := by
  have hsame : runs (portioned [1, 2, 3] [4, 5] [6, 7, 8, 9]) =
      runs (portioned [] [1, 2, 3, 4, 5] [6, 7, 8, 9]) := by decide
  have hresplit := (sends_delivered 2 _ _ .close .drop ⟨[], .close⟩).2.1 hsame
  refine ⟨hsame, hresplit.symm.trans ?_⟩
  decide +kernel

end SinkCall

end HttpEngine
