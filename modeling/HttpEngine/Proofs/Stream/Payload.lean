import HttpEngine.Proofs.Stream.Pieces
import HttpEngine.Response
import HttpEngine.Stream.FileReader

/-!
# What a body delivers

To a peer that stays, a producer delivers the bytes that its script writes, and
a file its content, however they are cut into chunks.
-/

namespace HttpEngine

/-! ## Producers -/

namespace Producer

/-- The bytes that a script writes, up to the first step that fails. -/
def written : List ProducerStep → Bytes
  | [] => []
  | .write bytes :: rest => bytes ++ written rest
  | .fail _ :: _ => []
  | .flush :: rest | .note _ :: rest => written rest

theorem flatMap_bytes_calls (steps : List ProducerStep) :
    (calls steps).flatMap SinkCall.bytes = written steps := by
  induction steps with
  | nil => rfl
  | cons step rest ih =>
      cases step <;> simp [calls, written, SinkCall.bytes, ih]

/-- The peer gets all that the script writes, whatever becomes of the sink. -/
theorem body_run (producer : Producer) (capacity : Nat) :
    (producer.run capacity .attentive).outlet.body =
      written producer.steps := by
  have hsends :=
    SinkCall.sends_of_eq (SinkCall.delivered_eq capacity (calls producer.steps))
  rw [outlet_run, ← flatMap_bytes_calls]
  exact hsends.bytes_eq

end Producer

/-! ## Files -/

namespace FileStream

/-- A read that gave data is one chunk, and the buffer can be restored
after it. -/
theorem items_of_data {reader next : Reader} {data buffer : Bytes}
    (hshort : buffer.length ≤ readSize)
    (hread : reader.read readSize = (.data data, next)) (hgiven : data ≠ [])
    (fuel : Nat) :
    ∃ rest : Bytes, rest.length ≤ readSize ∧
      items (fuel + 1) ⟨some reader, buffer⟩ =
        .chunk data :: items fuel ⟨some next, rest⟩ := by
  obtain ⟨first, more, rfl⟩ := List.exists_cons_of_ne_nil hgiven
  refine ⟨(restore buffer).drop (first :: more).length, ?_, ?_⟩
  · rw [List.length_drop, length_restore hshort]
    exact Nat.sub_le _ _
  · simp [items, poll, length_restore hshort, hread]

theorem items_of_end {reader next : Reader} {buffer : Bytes}
    (hshort : buffer.length ≤ readSize)
    (hread : reader.read readSize = (.data [], next)) (fuel : Nat) :
    items fuel ⟨some reader, buffer⟩ = [] := by
  cases fuel with
  | zero => rfl
  | succ fuel => simp [items, poll, length_restore hshort, hread]

theorem flatten_items {fuel : Nat} {content buffer : Bytes}
    (henough : content.length < fuel) (hshort : buffer.length ≤ readSize) :
    ((items fuel ⟨some (.holding content .finished), buffer⟩).filterMap fun
      | .chunk bytes => some bytes
      | _ => none).flatten = content := by
  induction fuel generalizing content buffer with
  | zero => omega
  | succ fuel ih =>
      have hsize : 0 < readSize := by decide
      by_cases hempty : content = []
      · have hread : (Reader.holding content .finished).read readSize =
            (.data [], .finished) := by
          simp [Reader.read, hempty]
        rw [items_of_end hshort hread, hempty]
        rfl
      by_cases hwhole : content.length ≤ readSize
      · have hread : (Reader.holding content .finished).read readSize =
            (.data content, .finished) := by
          simp [Reader.read, hwhole]
        obtain ⟨rest, hshortRest, hpolled⟩ :=
          items_of_data hshort hread hempty fuel
        rw [hpolled, items_of_end hshortRest rfl]
        simp
      · have hread : (Reader.holding content .finished).read readSize =
            (.data (content.take readSize),
              .holding (content.drop readSize) .finished) := by
          simp [Reader.read, hwhole]
        have hgiven : content.take readSize ≠ [] := by
          simp [List.take_eq_nil_iff, hempty]
          omega
        obtain ⟨rest, hshortRest, hpolled⟩ :=
          items_of_data hshort hread hgiven fuel
        have henoughRest : (content.drop readSize).length < fuel := by
          rw [List.length_drop]
          omega
        have hrestored := ih henoughRest hshortRest
        rw [hpolled, List.filterMap_cons]
        simp only [List.flatten_cons, hrestored, List.take_append_drop]

theorem flatten_chunksOf (content : Bytes) :
    (chunksOf content).flatten = content :=
  flatten_items (Nat.lt_succ_self _) (by simp)

end FileStream

end HttpEngine
