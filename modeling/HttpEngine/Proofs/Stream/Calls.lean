import HttpEngine.Proofs.Stream.Outlet

/-!
# Calls on a sink

A writer calls its sink any number of times and gives it up in the end.  A call
on a connected sink changes the buffer and the listeners and then hands over the
chunks that are due; what has been handed over when the sink is given up depends
on the runs of bytes between flushes alone.
-/

namespace HttpEngine

/-! ## Pieces -/

namespace Sequence

variable {α : Type} {size : Nat}

theorem pieces_of_ne_nil {items : List α} (hsome : items ≠ [])
    (hpositive : size ≠ 0) :
    pieces size items = items.take size :: pieces size (items.drop size) := by
  rw [pieces, dif_neg (by simp [hsome, hpositive])]

theorem pieces_of_short {items : List α} (hsome : items ≠ [])
    (hshort : items.length ≤ size) :
    pieces size items = [items] := by
  have hpositive : size ≠ 0 := by
    have := List.length_pos_iff.2 hsome
    omega
  rw [pieces_of_ne_nil hsome hpositive, List.take_of_length_le hshort,
    List.drop_of_length_le hshort, pieces_nil]

/-- More items do not move the cuts of a part that is made of whole pieces. -/
theorem pieces_append (hpositive : size ≠ 0) {count : Nat} {items : List α}
    (hwhole : items.length = count * size) (more : List α) :
    pieces size (items ++ more) = pieces size items ++ pieces size more := by
  induction count generalizing items with
  | zero =>
      obtain rfl : items = [] := by simpa using hwhole
      simp
  | succ count ih =>
      have hlong : size ≤ items.length := by
        rw [hwhole, Nat.succ_mul]
        exact Nat.le_add_left _ _
      have hsome : items ≠ [] := by
        rintro rfl
        exact hpositive (Nat.le_zero.1 hlong)
      have hrest : (items.drop size).length = count * size := by
        rw [List.length_drop, hwhole, Nat.succ_mul, Nat.add_sub_cancel]
      rw [pieces_of_ne_nil hsome hpositive,
        pieces_of_ne_nil (by simp [hsome]) hpositive,
        List.take_append_of_le_length hlong,
        List.drop_append_of_le_length hlong, ih hrest, List.cons_append]

theorem mem_pieces {items piece : List α} (hmem : piece ∈ pieces size items) :
    piece ≠ [] ∧ piece.length ≤ size := by
  fun_induction pieces size items with
  | case1 => contradiction
  | case2 items hsome ih =>
      rw [not_or] at hsome
      rcases List.mem_cons.1 hmem with rfl | hmem
      · rw [List.length_take, ne_eq, List.take_eq_nil_iff]
        exact ⟨by simp [hsome], Nat.min_le_left _ _⟩
      · exact ih hmem

end Sequence

/-! ## Scripts -/

inductive SinkCall (ι : Type) where
  | write (bytes : Bytes)
  | flush
  | listen (listener : ι)
  deriving DecidableEq, Repr

/-- How a writer gives up its sink. -/
inductive SinkEnd where
  | close
  | drop
  deriving DecidableEq, Repr

namespace SinkCall

variable {ι : Type}

def bytes : SinkCall ι → Bytes
  | .write bytes => bytes
  | _ => []

def listeners : SinkCall ι → List ι
  | .listen listener => [listener]
  | _ => []

def isFlush : SinkCall ι → Bool
  | .flush => true
  | _ => false

/-- The bytes written up to the first flush, between one flush and the next, and
after the last. -/
def runs (calls : List (SinkCall ι)) : List Bytes :=
  (calls.splitOnP isFlush).map (·.flatMap bytes)

theorem runs_ne_nil (calls : List (SinkCall ι)) : runs calls ≠ [] := by
  simp [runs, List.splitOnP_ne_nil]

theorem runs_flush (calls : List (SinkCall ι)) :
    runs (.flush :: calls) = [] :: runs calls := by
  simp [runs, List.splitOnP_cons_eq_if_modifyHead, isFlush]

theorem runs_cons {call : SinkCall ι} (hother : call.isFlush = false)
    (calls : List (SinkCall ι)) :
    runs (call :: calls) = (runs calls).modifyHead (call.bytes ++ ·) := by
  obtain ⟨first, rest, hcut⟩ :=
    List.exists_cons_of_ne_nil (List.splitOnP_ne_nil isFlush calls)
  simp [runs, List.splitOnP_cons_eq_if_modifyHead, hother, hcut]

theorem flatten_runs (calls : List (SinkCall ι)) :
    (runs calls).flatten = calls.flatMap bytes := by
  induction calls with
  | nil => rfl
  | cons call calls ih =>
      cases hflushes : call.isFlush with
      | true =>
          obtain rfl : call = .flush := by
            cases call <;> first | rfl | contradiction
          rw [runs_flush, List.flatten_cons, ih]
          rfl
      | false =>
          obtain ⟨first, rest, hcut⟩ :=
            List.exists_cons_of_ne_nil (runs_ne_nil calls)
          rw [hcut, List.flatten_cons] at ih
          rw [runs_cons hflushes, hcut, List.modifyHead_cons, List.flatten_cons,
            List.append_assoc, ih]
          rfl

end SinkCall

namespace Outlet

variable {ι : Type} {outlet : Outlet ι}

def delivered (outlet : Outlet ι) : List Bytes := outlet.peer.received.toList

/-- Performs a call, and says whether the sink is connected then. -/
def perform (outlet : Outlet ι) : SinkCall ι → Outlet ι × Bool
  | .write bytes => outlet.write bytes
  | .flush => outlet.flush
  | .listen listener => (outlet.onDisconnect listener, outlet.connected)

def performAll (outlet : Outlet ι) (calls : List (SinkCall ι)) : Outlet ι :=
  calls.foldl (fun outlet call => (outlet.perform call).1) outlet

def finish (outlet : Outlet ι) : SinkEnd → Outlet ι
  | .close => outlet.close.1
  | .drop => outlet.drop

theorem performAll_append (outlet : Outlet ι) (calls more : List (SinkCall ι)) :
    outlet.performAll (calls ++ more) =
      (outlet.performAll calls).performAll more :=
  List.foldl_append

theorem performAll_snoc (outlet : Outlet ι) (calls : List (SinkCall ι))
    (call : SinkCall ι) :
    outlet.performAll (calls ++ [call]) =
      ((outlet.performAll calls).perform call).1 :=
  performAll_append outlet calls [call]

/-! ## One call -/

/-- The chunks that a call hands over, and what it leaves in the buffer. -/
def due (outlet : Outlet ι) : SinkCall ι → List Bytes × Bytes
  | .write bytes => fullPieces outlet.capacity (outlet.buffer ++ bytes)
  | .flush => (if outlet.buffer.isEmpty then [] else [outlet.buffer], [])
  | .listen _ => ([], outlet.buffer)

/-- The sink before the chunks are handed over. -/
def prepared (outlet : Outlet ι) (call : SinkCall ι) : Outlet ι :=
  { outlet with
    buffer := (outlet.due call).2
    listeners := outlet.listeners ++ call.listeners }

theorem sendAll_singleton (outlet : Outlet ι) (chunk : Bytes) :
    outlet.sendAll [chunk] = outlet.send chunk := by
  rcases hsent : outlet.send chunk with ⟨after, _ | _⟩ <;> simp [sendAll, hsent]

theorem perform_eq (hconnected : outlet.connected = true) (call : SinkCall ι) :
    outlet.perform call =
      (outlet.prepared call).sendAll (outlet.due call).1 := by
  cases call with
  | write bytes =>
      simp [perform, write, hconnected, prepared, due, SinkCall.listeners]
  | flush =>
      obtain ⟨_, buffer, _, _, _, _⟩ := outlet
      obtain rfl := hconnected
      cases buffer with
      | nil => simp [perform, flush, prepared, due, sendAll, SinkCall.listeners]
      | cons byte bytes =>
          simp [perform, flush, prepared, due, sendAll_singleton,
            SinkCall.listeners]
  | listen listener =>
      simp [perform, onDisconnect, hconnected, prepared, due, sendAll,
        SinkCall.listeners]

/-! ## Giving up a sink -/

theorem buffer_flush (outlet : Outlet ι) : outlet.flush.1.buffer = [] := by
  rw [flush]
  split
  · next hempty => exact List.isEmpty_iff.1 hempty
  · rw [send]
    split
    · rfl
    · split <;> rfl

theorem drop_of_empty (hempty : outlet.buffer = []) : outlet.drop = outlet := by
  simp [drop, hempty]

/-- Giving up a sink hands over what the buffer holds, as a flush does. -/
theorem finish_eq_flush (hkept : outlet.connected = false → outlet.buffer = [])
    (ending : SinkEnd) : outlet.finish ending = outlet.flush.1 := by
  cases ending with
  | close => exact drop_of_empty outlet.buffer_flush
  | drop =>
      cases hconnected : outlet.connected with
      | true =>
          rw [finish, drop]
          split
          · rfl
          · next hnone =>
              have hempty : outlet.buffer = [] := by
                simpa [hconnected] using hnone
              simp [flush, hempty]
      | false =>
          have hempty := hkept hconnected
          rw [finish, drop_of_empty hempty]
          simp [flush, hempty]

/-! ## A peer that stays -/

/-- A peer without a limit has taken every chunk so far. -/
structure Stays (outlet : Outlet ι) : Prop where
  connected : outlet.connected = true
  patient : outlet.peer.patience = none
  short : outlet.buffer.length < outlet.capacity

def handed (outlet : Outlet ι) (chunks : List Bytes) : Outlet ι :=
  { outlet with peer := ⟨outlet.peer.patience, outlet.peer.received ++ chunks⟩ }

@[simp] theorem delivered_handed (chunks : List Bytes) :
    (outlet.handed chunks).delivered = outlet.delivered ++ chunks := by
  simp [handed, delivered]

theorem sendAll_of_patient (hconnected : outlet.connected = true)
    (hpatient : outlet.peer.patience = none) (chunks : List Bytes) :
    outlet.sendAll chunks = (outlet.handed chunks, true) := by
  induction chunks generalizing outlet with
  | nil => simp [sendAll, handed]
  | cons chunk chunks ih =>
      have hsent : outlet.send chunk = (outlet.handed [chunk], true) := by
        simp [send, hconnected, Peer.take?, hpatient, handed]
      have hnext := @ih (outlet.handed [chunk]) hconnected hpatient
      rw [sendAll_cons, hsent, if_pos rfl, hnext]
      simp [handed]

theorem Stays.kept (hstays : outlet.Stays) :
    outlet.connected = false → outlet.buffer = [] :=
  fun hlost => absurd (hstays.connected.symm.trans hlost) (by decide)

theorem perform_of_stays (hstays : outlet.Stays) (call : SinkCall ι) :
    outlet.perform call =
      ((outlet.prepared call).handed (outlet.due call).1, true) := by
  rw [perform_eq hstays.connected]
  apply sendAll_of_patient
  · exact hstays.connected
  · exact hstays.patient

theorem length_fullPieces {size : Nat} (hpositive : size ≠ 0) (bytes : Bytes) :
    (fullPieces size bytes).2.length < size := by
  have hsplit := Nat.div_add_mod' bytes.length size
  have hless := Nat.mod_lt bytes.length (Nat.pos_of_ne_zero hpositive)
  rw [fullPieces, List.length_drop]
  omega

theorem fullPieces_of_short {size : Nat} {bytes : Bytes}
    (hshort : bytes.length < size) :
    fullPieces size bytes = ([], bytes) := by
  simp [fullPieces, Nat.div_eq_of_lt hshort]

theorem Stays.perform (hstays : outlet.Stays) (call : SinkCall ι) :
    (outlet.perform call).1.Stays := by
  have hpositive : outlet.capacity ≠ 0 := Nat.ne_zero_of_lt hstays.short
  rw [perform_of_stays hstays]
  refine ⟨hstays.connected, hstays.patient, ?_⟩
  cases call with
  | write bytes => exact length_fullPieces hpositive _
  | flush => exact Nat.pos_of_ne_zero hpositive
  | listen listener => exact hstays.short

theorem stays_new (capacity : Nat) :
    (new capacity .attentive : Outlet ι).Stays :=
  ⟨rfl, rfl, Nat.lt_of_lt_of_le Nat.zero_lt_one (Nat.le_max_right _ _)⟩

theorem Stays.performAll (hstays : outlet.Stays) (calls : List (SinkCall ι)) :
    (outlet.performAll calls).Stays := by
  induction calls generalizing outlet with
  | nil => exact hstays
  | cons call calls ih => exact ih (hstays.perform call)

theorem listeners_performAll (hstays : outlet.Stays)
    (calls : List (SinkCall ι)) :
    (outlet.performAll calls).listeners =
      outlet.listeners ++ calls.flatMap SinkCall.listeners ∧
      (outlet.performAll calls).notified = outlet.notified := by
  induction calls generalizing outlet with
  | nil => simp [performAll]
  | cons call calls ih =>
      have hnext := ih (hstays.perform call)
      rw [perform_of_stays hstays] at hnext
      change ((outlet.perform call).1.performAll calls).listeners = _ ∧
        ((outlet.perform call).1.performAll calls).notified = _
      rw [perform_of_stays hstays, hnext.1, hnext.2]
      simp [handed, prepared]

/-! ## Runs -/

theorem fullPieces_append {size : Nat} (hpositive : size ≠ 0)
    (bytes more : Bytes) :
    Sequence.pieces size (bytes ++ more) =
      (fullPieces size bytes).1 ++
        Sequence.pieces size ((fullPieces size bytes).2 ++ more) := by
  have hwhole : (bytes.take (bytes.length / size * size)).length =
      bytes.length / size * size := by
    rw [List.length_take, Nat.min_eq_left (Nat.div_mul_le_self _ _)]
  rw [fullPieces, ← Sequence.pieces_append hpositive hwhole,
    ← List.append_assoc, List.take_append_drop]

theorem pieces_of_short {size : Nat} {bytes : Bytes}
    (hshort : bytes.length ≤ size) :
    Sequence.pieces size bytes = if bytes.isEmpty then [] else [bytes] := by
  cases bytes with
  | nil => simp
  | cons byte bytes => simpa using Sequence.pieces_of_short (by simp) hshort

/-- What the buffer holds belongs to the first run that is still to come. -/
theorem delivered_flush_performAll (hstays : outlet.Stays)
    (calls : List (SinkCall ι)) :
    (outlet.performAll calls).flush.1.delivered = outlet.delivered ++
      ((SinkCall.runs calls).modifyHead (outlet.buffer ++ ·)).flatMap
        (Sequence.pieces outlet.capacity) := by
  have hpositive : outlet.capacity ≠ 0 := Nat.ne_zero_of_lt hstays.short
  induction calls generalizing outlet with
  | nil =>
      have hflushed :
          outlet.flush =
            ((outlet.prepared .flush).handed (outlet.due .flush).1, true) :=
        perform_of_stays hstays .flush
      have hrun :
          ((SinkCall.runs ([] : List (SinkCall ι))).modifyHead
            (outlet.buffer ++ ·)) =
          [outlet.buffer] := by
        simp [SinkCall.runs]
      rw [performAll, List.foldl_nil, hflushed, delivered_handed, hrun,
        List.flatMap_singleton, pieces_of_short (Nat.le_of_lt hstays.short)]
      rfl
  | cons call calls ih =>
      have hperformed := perform_of_stays hstays call
      obtain ⟨first, rest, hcut⟩ :=
        List.exists_cons_of_ne_nil (SinkCall.runs_ne_nil calls)
      have hnext :=
        ih (hstays.perform call) (by rw [hperformed]; exact hpositive)
      rw [hperformed] at hnext
      change ((outlet.perform call).1.performAll calls).flush.1.delivered = _
      rw [hperformed, hnext, delivered_handed, hcut, List.append_assoc]
      apply congrArg (outlet.delivered ++ ·)
      cases call with
      | write bytes =>
          have hpieces :=
            fullPieces_append hpositive (outlet.buffer ++ bytes) first
          rw [List.append_assoc] at hpieces
          rw [SinkCall.runs_cons rfl, hcut]
          simp [due, prepared, handed, SinkCall.bytes, hpieces]
      | flush =>
          have hpieces := pieces_of_short (Nat.le_of_lt hstays.short)
          rw [SinkCall.runs_flush, hcut]
          simp [due, prepared, handed, hpieces]
      | listen listener =>
          rw [SinkCall.runs_cons rfl, hcut]
          simp [due, prepared, handed, SinkCall.bytes]

end Outlet

end HttpEngine
