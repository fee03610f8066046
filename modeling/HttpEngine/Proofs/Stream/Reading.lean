import HttpEngine.Stream.Device

/-!
# What a stream gives away of its reads

The buffer of a stream is split at every read: its front is given away, its rest
is kept and filled up again.  Whatever the device leaves in it, the next read
finds a buffer of full size, and the front of that is just what the read has put
there.  So the chunks of the stream are the pieces that were read, one for one
(`polls_recorded`), until a read gives nothing or a fault.
-/

namespace HttpEngine

def ReadResult.bytes : ReadResult → Bytes
  | .data bytes => bytes
  | .fault _ => []

def StreamItem.bytes : StreamItem → Bytes
  | .chunk bytes => bytes
  | .fault _ | .finished => []

namespace DeviceStream

variable {ω : Type} {stream : DeviceStream}

/-! ## One poll -/

/-- The next poll reads, and its buffer can be restored. -/
structure Ready (stream : DeviceStream) : Prop where
  isOpen : stream.isOpen = true
  short : stream.buffer.length ≤ readSize

theorem ready_new : new.Ready := ⟨rfl, Nat.le_of_eq List.length_replicate⟩

inductive Polled (log : List Reading) :
    StreamItem × DeviceStream × ω × List Reading → Prop
  | chunk {piece : Bytes} {next : DeviceStream} {after : ω}
      (hgiven : piece ≠ []) (hfits : piece.length ≤ readSize)
      (hready : next.Ready) :
      Polled log (.chunk piece, next, after, log ++ [⟨readSize, .data piece⟩])
  | finished {next : DeviceStream} {after : ω} (hclosed : next.isOpen = false) :
      Polled log (.finished, next, after, log ++ [⟨readSize, .data []⟩])
  | fault {message : String} {next : DeviceStream} {after : ω}
      (hclosed : next.isOpen = false) :
      Polled log (.fault message, next, after,
        log ++ [⟨readSize, .fault message⟩])

theorem Ready.poll (hready : stream.Ready) (device : Device ω) (state : ω)
    (log : List Reading) :
    Polled log (stream.poll device.recorded (state, log)) := by
  have hsize := FileStream.length_restore hready.short
  have hkept := device.length_read (FileStream.restore stream.buffer) state
  have hbound := device.count_le (FileStream.restore stream.buffer) state
  rw [DeviceStream.poll, if_pos hready.isOpen, Device.read_recorded]
  generalize device.read (FileStream.restore stream.buffer) state = outcome
    at hkept hbound ⊢
  rw [hsize] at hkept hbound ⊢
  obtain ⟨report, filled, after⟩ := outcome
  have hclosed : (⟨false, filled⟩ : DeviceStream).isOpen = false := rfl
  rcases report with message | _ | count
  · exact .fault hclosed
  · exact .finished hclosed
  · -- the buffer still has its size, so its front is as long as the device says
    dsimp only at hkept hbound
    have hwithin : count + 1 ≤ readSize := hbound (count + 1) rfl
    have hlength : (filled.take (count + 1)).length = count + 1 := by
      rw [List.length_take, hkept]
      omega
    have hshort : (filled.drop (count + 1)).length ≤ readSize := by
      rw [List.length_drop, hkept]
      omega
    have hagain : Ready ⟨true, filled.drop (count + 1)⟩ := ⟨rfl, hshort⟩
    exact .chunk (List.ne_nil_of_length_eq_add_one hlength) (by omega) hagain

/-! ## Many polls -/

theorem polls_of_closed (hclosed : stream.isOpen = false) (device : Device ω)
    (count : Nat) (state : ω) :
    polls device count stream state =
      (List.replicate count .finished, state) := by
  induction count with
  | zero => rfl
  | succ count ih =>
      rw [polls, poll, if_neg (by simp [hclosed])]
      simp only [ih]
      rfl

/-- What the last polls come to, those that find no piece: the read of the first
of them, and their items.  There may be no such poll yet. -/
inductive Ending : Nat → List Reading → List StreamItem → Prop
  | reads : Ending 0 [] []
  | finished (rest : Nat) :
      Ending (rest + 1) [⟨readSize, .data []⟩]
        (List.replicate (rest + 1) .finished)
  | fault (message : String) (rest : Nat) :
      Ending (rest + 1) [⟨readSize, .fault message⟩]
        (.fault message :: List.replicate rest .finished)

theorem Ready.polls (hready : stream.Ready) (device : Device ω) (count : Nat)
    (state : ω) (log : List Reading) :
    ∃ (pieces : List Bytes) (rest : Nat) (ended : List Reading)
      (tail : List StreamItem),
      (∀ piece ∈ pieces, piece ≠ [] ∧ piece.length ≤ readSize) ∧
      count = pieces.length + rest ∧ Ending rest ended tail ∧
      ∃ after, DeviceStream.polls device.recorded count stream (state, log) =
        (pieces.map .chunk ++ tail, after,
          log ++
            (pieces.map (fun piece => ⟨readSize, .data piece⟩) ++ ended)) := by
  induction count generalizing stream state log with
  | zero =>
      exact ⟨[], 0, [], [],
        by simp, rfl, .reads, state, by simp [DeviceStream.polls]⟩
  | succ count ih =>
      have hpolled := hready.poll device state log
      rw [DeviceStream.polls]
      generalize stream.poll device.recorded (state, log) = turn at hpolled
      cases hpolled with
      | @chunk piece next after hgiven hfits hready =>
          obtain ⟨pieces, rest, ended, tail, hsized, htotal, hending, last,
            hgoesOn⟩ :=
            ih hready after (log ++ [⟨readSize, .data piece⟩])
          refine ⟨piece :: pieces, rest, ended, tail, ?_, ?_, hending, last, ?_⟩
          · exact List.forall_mem_cons.2 ⟨⟨hgiven, hfits⟩, hsized⟩
          · rw [List.length_cons]
            omega
          · simp [hgoesOn]
      | @finished next after hclosed =>
          refine ⟨[], count + 1, _, _,
            by simp, by simp, .finished count, after, ?_⟩
          simp [polls_of_closed hclosed, List.replicate_succ]
      | @fault message next after hclosed =>
          refine ⟨[], count + 1, _, _,
            by simp, by simp, .fault message count, after, ?_⟩
          simp [polls_of_closed hclosed]

theorem Ending.bytes {rest : Nat} {ended : List Reading}
    {tail : List StreamItem} (hending : Ending rest ended tail) :
    tail.flatMap StreamItem.bytes = [] ∧
      ended.flatMap (·.result.bytes) = [] := by
  cases hending <;> simp [StreamItem.bytes, ReadResult.bytes]

/-! ## Records and files -/

theorem poll_recorded_eq (device : Device ω) (stream : DeviceStream) (state : ω)
    (log : List Reading) :
    Prod.map id (Prod.map id Prod.fst)
      (stream.poll device.recorded (state, log)) =
      stream.poll device state := by
  rw [poll, poll, Device.read_recorded]
  cases stream.isOpen with
  | false => rfl
  | true =>
      rcases device.read (FileStream.restore stream.buffer) state with
        ⟨message | _ | count, filled, after⟩ <;> rfl

theorem polls_recorded_eq (device : Device ω) (count : Nat)
    (stream : DeviceStream) (state : ω) (log : List Reading) :
    Prod.map id Prod.fst (polls device.recorded count stream (state, log)) =
      polls device count stream state := by
  induction count generalizing stream state log with
  | zero => rfl
  | succ count ih =>
      rw [polls, polls, ← poll_recorded_eq device stream state log]
      rcases stream.poll device.recorded (state, log) with
        ⟨item, next, after, longer⟩
      simp only [Prod.map, id, ← ih next after longer]

theorem items_toFile (count : Nat) (stream : DeviceStream) (reader : Reader) :
    FileStream.items count (stream.toFile reader) =
      (polls Reader.device count stream reader).1.takeWhile
        (· ≠ .finished) := by
  induction count generalizing stream reader with
  | zero => rfl
  | succ count ih =>
      rw [FileStream.items, poll_toFile, polls]
      rcases stream.poll Reader.device reader with ⟨item, next, after⟩
      cases item with
      | finished => rfl
      | chunk bytes | fault message => simp [ih]

/-- However a device fills the buffers that it is given, after any number of
polls each was of full size, and each read that filled some of it was given away
as one chunk.  The first read that fills nothing or fails is the last; a fault
is given away as well, and nothing after that.  The stream of a file is that of
its reader, up to its end. -/
theorem polls_recorded (device : Device ω) (state : ω) (count : Nat) :
    let (items, after) := polls device count new state
    (∃ (pieces : List Bytes) (rest : Nat) (ended : List Reading)
      (tail : List StreamItem),
      (∀ piece ∈ pieces, piece ≠ [] ∧ piece.length ≤ readSize) ∧
      count = pieces.length + rest ∧ Ending rest ended tail ∧
      let readings := pieces.map (fun piece => ⟨readSize, .data piece⟩) ++ ended
      polls device.recorded count new (state, []) = (items, after, readings) ∧
      items = pieces.map .chunk ++ tail ∧
      items.flatMap StreamItem.bytes = readings.flatMap (·.result.bytes)) ∧
    ∀ reader, FileStream.items count (.new reader) =
      (polls Reader.device count new reader).1.takeWhile (· ≠ .finished) := by
  obtain ⟨pieces, rest, ended, tail, hsized, htotal, hending, after, hpolled⟩ :=
    ready_new.polls device count state []
  have hplain :
      polls device count new state = (pieces.map .chunk ++ tail, after) := by
    rw [← polls_recorded_eq device count new state [], hpolled]
    rfl
  rw [hplain]
  refine ⟨⟨pieces, rest, ended, tail, hsized, htotal, hending,
    hpolled, rfl, ?_⟩, items_toFile count new⟩
  obtain ⟨hnoTail, hnoEnd⟩ := hending.bytes
  rw [List.flatMap_append, List.flatMap_append, hnoTail, hnoEnd,
    List.flatMap_map, List.flatMap_map]
  rfl

end DeviceStream

end HttpEngine
