import HttpEngine.Bytes

/-!
# Reading a file in chunks

The stream over a reader offers it a full buffer at each read, gives away the
part that was filled, and restores the buffer before the next read.  It ends
with the reader: after the end of the data, or after the one fault it reports.
-/

namespace HttpEngine

/-! ## Readers -/

/-- What a reader still has to give: data that may come in several short reads,
then the end or a fault. -/
inductive Reader where
  | finished
  | faulty (message : String)
  | holding (data : Bytes) (next : Reader)
  deriving DecidableEq, Repr

/-- One read: some data, nothing at the end, or a fault. -/
inductive ReadResult where
  | data (bytes : Bytes)
  | fault (message : String)
  deriving DecidableEq, Repr

/-- Reads at most `size` bytes. -/
def Reader.read (size : Nat) : Reader → ReadResult × Reader
  | .finished => (.data [], .finished)
  | .faulty message => (.fault message, .finished)
  | .holding data next =>
      if data.length ≤ size then (.data data, next)
      else (.data (data.take size), .holding (data.drop size) next)

theorem Reader.length_le_of_read {reader next : Reader} {size : Nat}
    {data : Bytes} (h : reader.read size = (.data data, next)) :
    data.length ≤ size := by
  cases reader with
  | finished =>
      cases h
      exact Nat.zero_le size
  | faulty message => cases h
  | holding held rest =>
      rw [read] at h
      split at h
      · cases h
        assumption
      · cases h
        exact List.length_take_le size held

/-! ## The stream -/

/-- The size of the buffer offered at each read. -/
def readSize : Nat := 8192

structure FileStream where
  reader : Option Reader
  buffer : Bytes
  deriving DecidableEq, Repr

/-- What one poll of the stream yields. -/
inductive StreamItem where
  | chunk (bytes : Bytes)
  | fault (message : String)
  | finished
  deriving DecidableEq, Repr

namespace FileStream

def new (reader : Reader) : FileStream :=
  ⟨some reader, List.replicate readSize 0⟩

/-- Fills a buffer up to its size with zero bytes. -/
def restore (buffer : Bytes) : Bytes :=
  buffer ++ List.replicate (readSize - buffer.length) 0

theorem length_restore {buffer : Bytes} (hshort : buffer.length ≤ readSize) :
    (restore buffer).length = readSize := by
  rw [restore, List.length_append, List.length_replicate]
  omega

/-- One read into the front of the restored buffer. -/
def poll (stream : FileStream) : StreamItem × FileStream :=
  match stream.reader with
  | none => (.finished, stream)
  | some reader =>
      let buffer := restore stream.buffer
      match reader.read buffer.length with
      | (.fault message, _) => (.fault message, ⟨none, buffer⟩)
      | (.data [], _) => (.finished, ⟨none, buffer⟩)
      | (.data data, next) =>
          let filled := data ++ buffer.drop data.length
          (.chunk (filled.take data.length),
            ⟨some next, filled.drop data.length⟩)

/-- All items of a stream, for at most `fuel` polls. -/
def items : Nat → FileStream → List StreamItem
  | 0, _ => []
  | fuel + 1, stream =>
      match stream.poll with
      | (.finished, _) => []
      | (item, next) => item :: items fuel next

/-- The chunks of a file with the given content. -/
def chunksOf (content : Bytes) : List Bytes :=
  (items (content.length + 1) (new (.holding content .finished))).filterMap fun
    | .chunk bytes => some bytes
    | _ => none

end FileStream

end HttpEngine
