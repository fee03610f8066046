import HttpEngine.Response
import HttpEngine.Stream.FileReader

/-!
# Written responses

Writing a response settles how its body is framed.  A body whose length is known
announces it; a body that is produced while it is sent does not.  The answer to
`HEAD` has the fields of the answer to `GET` and no body, and no producer runs
for it.
-/

namespace HttpEngine

structure WriteContext where
  /-- Only the head is wanted. -/
  head : Bool
  keepAlive : Bool
  capacity : Nat
  deriving DecidableEq, Repr

/-- What goes on after the head and the chunks written so far. -/
inductive Continuation where
  | finished
  /-- The body goes on with the events of a broadcast. -/
  | subscription (subscriber : Nat)
  /-- The connection now belongs to a session. -/
  | session (script : WebSocket.Script)
  deriving Repr

structure Written where
  status : Nat
  headers : HeaderMap
  chunks : List Bytes
  continuation : Continuation
  /-- What the producer of the body noted. -/
  notes : List String
  deriving Repr

namespace Written

/-- Statuses whose responses have no body. -/
def isBodiless (status : Nat) : Bool :=
  decide (100 ≤ status ∧ status < 200) || status == 204 || status == 304

def setLength (headers : HeaderMap) (length : Nat) : HeaderMap :=
  headers.insert "content-length" (Utf8.ofString (toString length))

def setConnection (headers : HeaderMap) (keepAlive : Bool) : HeaderMap :=
  headers.insert "connection"
    (Utf8.ofString (if keepAlive then "keep-alive" else "close"))

/-- The head of a response, with chunks of its body. -/
def plain (context : WriteContext) (status : Nat) (headers : HeaderMap)
    (chunks : List Bytes) :
    Written :=
  ⟨status, setConnection headers context.keepAlive,
    if context.head then [] else chunks, .finished, []⟩

/-- The answer when the body turns out not to be there. -/
def failed (context : WriteContext) : Written := plain context 500 .empty []

/-- One chunk, or none when it would be empty. -/
def oneChunk (bytes : Bytes) : List Bytes :=
  if bytes.isEmpty then [] else [bytes]

def ofProducer (context : WriteContext) (response : Response)
    (producer : Producer) :
    Logged Written :=
  let head := plain context response.status response.headers []
  if context.head then ⟨head, []⟩
  else
    let run := producer.run context.capacity .attentive
    ⟨{ head with
      chunks := run.outlet.peer.received.toList, notes := run.notes },
      match producer.ending, run.failure with
      | .closeOnSuccess, some failure =>
          [⟨.debug, "Chunked response ended early: " ++ failure⟩]
      | _, _ => []⟩

def ofSource (context : WriteContext) (response : Response) :
    ChunkSource → Written
  | .items chunks => plain context response.status response.headers chunks
  | .subscription subscriber =>
      { plain context response.status response.headers [] with
        continuation :=
          if context.head then .finished else .subscription subscriber }

def ofFile (context : WriteContext) (response : Response) (file : StoredFile) :
    Logged Written :=
  match file.content with
  | some content =>
      ⟨plain context response.status (setLength response.headers content.length)
        (FileStream.chunksOf content), []⟩
  | none =>
      ⟨failed context,
        [⟨.error, "Failed to open " ++ file.path ++
          ": No such file or directory (os error 2)"⟩]⟩

/-- Writes a response. -/
def ofResponse (context : WriteContext) (response : Response) :
    Logged Written :=
  match response.body with
  | .empty =>
      ⟨plain context response.status
        (if isBodiless response.status then response.headers
          else setLength response.headers 0)
        [], []⟩
  | .fixed bytes =>
      ⟨plain context response.status (setLength response.headers bytes.length)
        (oneChunk bytes), []⟩
  | .chunked producer => ofProducer context response producer
  | .stream source => ⟨ofSource context response source, []⟩
  | .file file => ofFile context response file
  | .webSocket _ =>
      ⟨failed context,
        [⟨.error, "WebSocket response produced outside an upgrade"⟩]⟩

end Written

end HttpEngine
