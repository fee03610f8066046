import HttpEngine.Stream.ChunkSink

/-!
# Handing over chunks

What an operation of a connected sink comes to: the peer takes all the chunks
that the operation hands over, or the sink is disconnected.  A peer without a
limit takes every chunk.
-/

namespace HttpEngine

namespace Sequence

variable {α : Type}

@[simp] theorem pieces_nil (size : Nat) : pieces size ([] : List α) = [] := by
  rw [pieces, dif_pos (.inl rfl)]

theorem pieces_flatten {size : Nat} (hsize : size ≠ 0) (items : List α) :
    (pieces size items).flatten = items := by
  fun_induction pieces size items with
  | case1 items h => simp [h.resolve_right hsize]
  | case2 items h ih => rw [List.flatten_cons, ih, List.take_append_drop]

end Sequence

theorem Peer.take?_eq_some {peer after : Peer} {chunk : Bytes}
    (h : peer.take? chunk = some after) :
    after.received = peer.received.push chunk ∧
      (peer.patience = none → after.patience = none) := by
  rw [take?] at h
  split at h
  · next hpatience =>
      obtain rfl := Option.some.inj h
      exact ⟨rfl, id⟩
  · contradiction
  · next hpatience =>
      obtain rfl := Option.some.inj h
      exact ⟨rfl, fun hnone => absurd (hpatience.symm.trans hnone) (by simp)⟩

theorem Peer.take?_isSome {peer : Peer} (h : peer.patience = none)
    (chunk : Bytes) :
    (peer.take? chunk).isSome := by
  rw [take?, h]
  rfl

namespace Outlet

variable {ι : Type} {outlet : Outlet ι}

/-- What the peer has got. -/
def body (outlet : Outlet ι) : Bytes := outlet.peer.received.toList.flatten

/-- Chunks are handed to the peer, with `rest` in the buffer when it has taken
them all. -/
structure HandsOver (peer : Peer) (chunks : List Bytes) (rest : Bytes)
    (result : Outlet ι × Bool) : Prop where
  connected_eq : result.1.connected = result.2
  received_eq : result.2 = true →
    result.1.peer.received.toList = peer.received.toList ++ chunks
  buffer_eq : result.2 = true → result.1.buffer = rest
  patient : peer.patience = none →
    result.2 = true ∧ result.1.peer.patience = none

namespace HandsOver

variable {peer : Peer} {chunks more : List Bytes} {rest last : Bytes}
  {result next : Outlet ι × Bool}

theorem nil (h : outlet.connected = true) :
    HandsOver outlet.peer [] outlet.buffer (outlet, true) where
  connected_eq := h
  received_eq _ := by simp
  buffer_eq _ := rfl
  patient hpatient := ⟨rfl, hpatient⟩

/-- Once all has been taken, the next chunks follow; otherwise that is
the end. -/
theorem append (h : HandsOver peer chunks rest result)
    (hnext : result.2 = true → HandsOver result.1.peer more last next) :
    HandsOver peer (chunks ++ more) last
      (if result.2 then next else result) := by
  cases htaken : result.2 with
  | true =>
      have htail := hnext htaken
      exact {
        connected_eq := htail.connected_eq
        received_eq := fun hlast => by
          rw [← List.append_assoc, ← h.received_eq htaken]
          exact htail.received_eq hlast
        buffer_eq := htail.buffer_eq
        patient := fun hpatient => htail.patient (h.patient hpatient).2
      }
  | false =>
      exact {
        connected_eq := h.connected_eq
        received_eq := fun hlast => absurd (htaken.symm.trans hlast) (by decide)
        buffer_eq := fun hlast => absurd (htaken.symm.trans hlast) (by decide)
        patient := fun hpatient =>
          absurd (htaken.symm.trans (h.patient hpatient).1) (by decide)
      }

end HandsOver

theorem send_handsOver (h : outlet.connected = true) (chunk : Bytes) :
    HandsOver outlet.peer [chunk] outlet.buffer (outlet.send chunk) := by
  rw [send, if_neg (by simp [h])]
  cases htake : outlet.peer.take? chunk with
  | some peer =>
      obtain ⟨hreceived, hpatience⟩ := Peer.take?_eq_some htake
      exact {
        connected_eq := h
        received_eq := fun _ => by simp [hreceived]
        buffer_eq := fun _ => rfl
        patient := fun hpatient => ⟨rfl, hpatience hpatient⟩
      }
  | none =>
      exact {
        connected_eq := rfl
        received_eq := fun hfalse => by contradiction
        buffer_eq := fun hfalse => by contradiction
        patient := fun hpatient => by
          have hsome := Peer.take?_isSome hpatient chunk
          rw [htake] at hsome
          contradiction
      }

theorem sendAll_cons (outlet : Outlet ι) (chunk : Bytes) (chunks : List Bytes) :
    outlet.sendAll (chunk :: chunks) =
      if (outlet.send chunk).2 then (outlet.send chunk).1.sendAll chunks
      else outlet.send chunk := by
  rw [sendAll]
  rcases outlet.send chunk with ⟨after, _ | _⟩ <;> rfl

theorem sendAll_handsOver (h : outlet.connected = true) (chunks : List Bytes) :
    HandsOver outlet.peer chunks outlet.buffer (outlet.sendAll chunks) := by
  induction chunks generalizing outlet with
  | nil => exact .nil h
  | cons chunk chunks ih =>
      have hfirst := send_handsOver h chunk
      rw [sendAll_cons]
      apply hfirst.append
      intro htaken
      rw [← hfirst.buffer_eq htaken]
      exact ih (hfirst.connected_eq.trans htaken)

theorem fullPieces_flatten (size : Nat) (bytes : Bytes) :
    (fullPieces size bytes).1.flatten ++ (fullPieces size bytes).2 = bytes := by
  rw [fullPieces]
  by_cases hsize : size = 0
  · simp [hsize]
  · rw [Sequence.pieces_flatten hsize, List.take_append_drop]

theorem write_handsOver (h : outlet.connected = true) (bytes : Bytes) :
    HandsOver outlet.peer
      (fullPieces outlet.capacity (outlet.buffer ++ bytes)).1
      (fullPieces outlet.capacity (outlet.buffer ++ bytes)).2
        (outlet.write bytes) := by
  let refilled : Outlet ι :=
    { outlet with
      buffer := (fullPieces outlet.capacity (outlet.buffer ++ bytes)).2 }
  have hrefilled : refilled.connected = true := h
  rw [write, if_neg (by simp [h])]
  exact sendAll_handsOver hrefilled _

theorem flush_handsOver (h : outlet.connected = true) :
    HandsOver outlet.peer
      (if outlet.buffer.isEmpty then [] else [outlet.buffer]) []
      outlet.flush := by
  rw [flush]
  split
  · next hempty =>
      rw [h, ← List.isEmpty_iff.1 hempty]
      exact .nil h
  · let emptied : Outlet ι := { outlet with buffer := [] }
    have hemptied : emptied.connected = true := h
    exact send_handsOver hemptied outlet.buffer

/-! ## Bytes that reach the peer -/

def transfer (outlet : Outlet ι) (bytes : Bytes) : Outlet ι × Bool :=
  if (outlet.write bytes).2 then (outlet.write bytes).1.flush
  else outlet.write bytes

theorem transfer_handsOver (h : outlet.connected = true) (bytes : Bytes) :
    ∃ chunks, chunks.flatten = outlet.buffer ++ bytes ∧
      HandsOver outlet.peer chunks [] (outlet.transfer bytes) := by
  have hwrite := write_handsOver h bytes
  let kept := (fullPieces outlet.capacity (outlet.buffer ++ bytes)).2
  have hflush (htaken : (outlet.write bytes).2 = true) :
      HandsOver (outlet.write bytes).1.peer
        (if kept.isEmpty then [] else [kept]) []
        (outlet.write bytes).1.flush := by
    have hconnected := hwrite.connected_eq.trans htaken
    have hresult := flush_handsOver hconnected
    rw [hwrite.buffer_eq htaken] at hresult
    exact hresult
  refine ⟨_, ?_, hwrite.append hflush⟩
  have hkept : (if kept.isEmpty then [] else [kept]).flatten = kept := by
    split
    · next hempty => exact (List.isEmpty_iff.1 hempty).symm
    · simp
  rw [List.flatten_append, hkept]
  exact fullPieces_flatten outlet.capacity (outlet.buffer ++ bytes)

theorem transfer_of_disconnected (h : outlet.connected = false)
    (bytes : Bytes) :
    outlet.transfer bytes = (outlet, false) := by
  have hwrite : outlet.write bytes = (outlet, false) := by
    rw [write, if_pos (by simp [h])]
  rw [transfer, hwrite]
  rfl

/-- A sink that is connected after a transfer has handed over every byte. -/
theorem body_transfer {bytes : Bytes} (h : outlet.connected = true)
    (hafter : (outlet.transfer bytes).1.connected = true) :
    (outlet.transfer bytes).2 = true ∧ (outlet.transfer bytes).1.buffer = [] ∧
      (outlet.transfer bytes).1.body =
        outlet.body ++ (outlet.buffer ++ bytes) := by
  obtain ⟨chunks, hchunks, hresult⟩ := transfer_handsOver h bytes
  have htaken := hresult.connected_eq.symm.trans hafter
  refine ⟨htaken, hresult.buffer_eq htaken, ?_⟩
  rw [body, hresult.received_eq htaken, List.flatten_append, hchunks, body]

theorem transfer_of_patient (h : outlet.connected = true)
    (hpatient : outlet.peer.patience = none) (bytes : Bytes) :
    (outlet.transfer bytes).1.connected = true ∧
      (outlet.transfer bytes).1.peer.patience = none := by
  obtain ⟨chunks, -, hresult⟩ := transfer_handsOver h bytes
  rw [hresult.connected_eq]
  exact hresult.patient hpatient

end Outlet

end HttpEngine
