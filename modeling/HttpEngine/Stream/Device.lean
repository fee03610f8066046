import HttpEngine.Stream.FileReader

/-!
# Streams over any device

A device is read through a buffer: a read fills some of it from the front and
tells how much, and what it leaves in the rest is its own affair.  The stream
over a device keeps what it did not give away as the buffer of the next read.
-/

namespace HttpEngine

/-! ## Devices -/

/-- What is read, in states `ω`. -/
structure Device (ω : Type) where
  /-- The bytes that were read into the front of a buffer, or a fault; the
  buffer and the state. -/
  read : Bytes → ω → Except String Nat × Bytes × ω
  length_read : ∀ buffer state, (read buffer state).2.1.length = buffer.length
  count_le : ∀ buffer state count,
    (read buffer state).1 = .ok count → count ≤ buffer.length

/-- One read, as seen from the device. -/
structure Reading where
  /-- The size of the buffer. -/
  offered : Nat
  result : ReadResult
  deriving DecidableEq, Repr

namespace Device

variable {ω : Type}

/-- What a read has given, by its report and the buffer after it. -/
def resultOf : Except String Nat → Bytes → ReadResult
  | .ok count, buffer => .data (buffer.take count)
  | .error message, _ => .fault message

/-- The device with a record of all reads. -/
def recorded (device : Device ω) : Device (ω × List Reading) where
  read buffer state :=
    let (report, filled, after) := device.read buffer state.1
    (report, filled, after,
      state.2 ++ [⟨buffer.length, resultOf report filled⟩])
  length_read buffer state := device.length_read buffer state.1
  count_le buffer state := device.count_le buffer state.1

theorem read_recorded (device : Device ω) (buffer : Bytes) (state : ω)
    (log : List Reading) :
    device.recorded.read buffer (state, log) =
      let (report, filled, after) := device.read buffer state
      (report, filled, after,
        log ++ [⟨buffer.length, resultOf report filled⟩]) := rfl

end Device

/-- A reader leaves alone what it does not fill. -/
def Reader.device : Device Reader where
  read buffer reader :=
    match reader.read buffer.length with
    | (.data data, next) =>
        (.ok data.length, data ++ buffer.drop data.length, next)
    | (.fault message, next) => (.error message, buffer, next)
  length_read buffer reader := by
    rcases hread : reader.read buffer.length with ⟨data | message, next⟩
    · have hshort := Reader.length_le_of_read hread
      simp only [List.length_append, List.length_drop]
      omega
    · rfl
  count_le buffer reader count h := by
    rcases hread : reader.read buffer.length with ⟨data | message, next⟩
    · have hshort := Reader.length_le_of_read hread
      simp only [hread, Except.ok.injEq] at h
      omega
    · simp [hread] at h

/-! ## Streams -/

structure DeviceStream where
  isOpen : Bool
  buffer : Bytes
  deriving DecidableEq, Repr

namespace DeviceStream

variable {ω : Type}

def new : DeviceStream := ⟨true, List.replicate readSize 0⟩

/-- One read into the restored buffer, the filled part of which is
given away. -/
def poll (device : Device ω) (stream : DeviceStream) (state : ω) :
    StreamItem × DeviceStream × ω :=
  if stream.isOpen then
    let (report, buffer, after) :=
      device.read (FileStream.restore stream.buffer) state
    match report with
    | .error message => (.fault message, ⟨false, buffer⟩, after)
    | .ok 0 => (.finished, ⟨false, buffer⟩, after)
    | .ok count =>
        (.chunk (buffer.take count), ⟨true, buffer.drop count⟩, after)
  else (.finished, stream, state)

/-- The items of a number of polls, and the state of the device after them. -/
def polls (device : Device ω) : Nat → DeviceStream → ω → List StreamItem × ω
  | 0, _, state => ([], state)
  | count + 1, stream, state =>
      let (item, next, after) := stream.poll device state
      let (items, last) := polls device count next after
      (item :: items, last)

/-- The stream over a file whose reader is in the given state. -/
def toFile (stream : DeviceStream) (reader : Reader) : FileStream :=
  ⟨if stream.isOpen then some reader else none, stream.buffer⟩

/-- A file stream is the stream over its reader as a device. -/
theorem poll_toFile (stream : DeviceStream) (reader : Reader) :
    (stream.toFile reader).poll =
      let (item, next, after) := stream.poll Reader.device reader
      (item, next.toFile after) := by
  obtain ⟨isOpen, buffer⟩ := stream
  cases isOpen with
  | false => rfl
  | true =>
      rw [toFile, FileStream.poll, poll]
      simp only [if_true, Reader.device]
      rcases reader.read (FileStream.restore buffer).length with
        ⟨data | message, next⟩
      · cases data <;> rfl
      · rfl

end DeviceStream

end HttpEngine
