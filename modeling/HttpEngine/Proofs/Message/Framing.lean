import HttpEngine.Proofs.Message.Fields
import HttpEngine.Proofs.Stream.Payload
import HttpEngine.Stream.Written

/-!
# Framing

A reader finds the end of a body by the status and the announced length, so that
what comes next on the connection depends on both.  `truthful_ofResponse_iff`
says for which responses they are true of the body that is written, where the
body is wanted.
-/

namespace HttpEngine

/-! ## Bodies and lengths -/

/-- The whole body, of which the events of a broadcast are given. -/
def Written.body (written : Written) (events : List Bytes) : Bytes :=
  written.chunks.flatten ++
    match written.continuation with
    | .subscription _ => events.flatten
    | _ => []

/-- A status without a body has none; otherwise a length that is announced is
announced once and is the length of the body. -/
def Written.Truthful (written : Written) (events : List Bytes) : Prop :=
  if Written.isBodiless written.status then written.body events = []
  else written.headers.Announces (written.body events).length

instance (written : Written) (events : List Bytes) :
    Decidable (written.Truthful events) :=
  inferInstanceAs
    (Decidable (if Written.isBodiless written.status
      then written.body events = []
    else written.headers.Announces (written.body events).length))

/-- The bytes that a body stands for. -/
def ResponseBody.payload (events : List Bytes) : ResponseBody → Bytes
  | .fixed bytes => bytes
  | .chunked producer => Producer.written producer.steps
  | .stream (.items chunks) => chunks.flatten
  | .stream (.subscription _) => events.flatten
  | .file stored => stored.content.getD []
  | .empty | .webSocket _ => []

/-- A body that cannot be written, so that the answer is another. -/
def ResponseBody.isRefused : ResponseBody → Bool
  | .file stored => stored.content.isNone
  | .webSocket _ => true
  | _ => false

/-- A body that is produced while it is sent. -/
def ResponseBody.isProduced : ResponseBody → Bool
  | .chunked _ | .stream _ => true
  | _ => false

/-- The status leaves room for the payload, and fields set by hand say nothing
wrong about a body whose length is not known beforehand. -/
def Response.Framed (response : Response) (events : List Bytes) : Prop :=
  if Written.isBodiless response.status then response.body.payload events = []
  else response.body.isProduced = true →
    response.headers.Announces (response.body.payload events).length

namespace Written

variable {context : WriteContext} {response : Response} {status length : Nat}
  {headers : HeaderMap} {chunks events : List Bytes}

theorem announces_setConnection (keepAlive : Bool) :
    (setConnection headers keepAlive).Announces length ↔
      headers.Announces length := by
  have hname : Header.normalizeName "connection" = "connection" := by
    decide +kernel
  have hother : "connection" ≠ Header.normalizeName "content-length" := by
    decide +kernel
  rw [HeaderMap.Announces, setConnection,
    HeaderMap.getAll_insert_of_ne hname hother]
  rfl

theorem announces_setLength : (setLength headers length).Announces length := by
  have hname : Header.normalizeName "content-length" = "content-length" := by
    decide +kernel
  rw [HeaderMap.Announces, setLength, HeaderMap.getAll_insert hname]
  simpa using Header.length?_ofString length

/-- What is written as a response with these fields and this body. -/
structure Conveys (written : Written) (events : List Bytes) (status : Nat)
    (headers : HeaderMap) (payload : Bytes) : Prop where
  status_eq : written.status = status
  headers_eq : ∃ keepAlive, written.headers = setConnection headers keepAlive
  body_eq : written.body events = payload

theorem Conveys.truthful_iff {written : Written} {payload : Bytes}
    (hconveys : written.Conveys events status headers payload) :
    written.Truthful events ↔
      if isBodiless status then payload = []
      else headers.Announces payload.length := by
  obtain ⟨keepAlive, hfields⟩ := hconveys.headers_eq
  rw [Truthful, hconveys.status_eq, hconveys.body_eq, hfields,
    announces_setConnection]

theorem conveys_plain (hwanted : context.head = false) (status : Nat)
    (headers : HeaderMap) (chunks events : List Bytes) :
    (plain context status headers chunks).Conveys events status headers
      chunks.flatten where
  status_eq := rfl
  headers_eq := ⟨context.keepAlive, rfl⟩
  body_eq := by simp [body, plain, hwanted]

theorem flatten_oneChunk (bytes : Bytes) :
    (oneChunk bytes).flatten = bytes := by
  rw [oneChunk]
  split
  · next hempty => rw [List.isEmpty_iff.1 hempty, List.flatten_nil]
  · simp

/-- A body whose length is known is written behind its length. -/
theorem conveys_measured (events : List Bytes) (hwanted : context.head = false)
    {response : Response} (hmeasured : response.body.isProduced = false)
    (hthere : response.body.isRefused = false) :
    ∃ headers,
      (isBodiless response.status = false →
        headers.Announces (response.body.payload events).length) ∧
      (ofResponse context response).value.Conveys events response.status headers
        (response.body.payload events) := by
  obtain ⟨status, headers, responseBody⟩ := response
  cases responseBody with
  | empty =>
      refine
        ⟨if isBodiless status then headers else setLength headers 0, ?_, ?_⟩
      · intro hroom
        rw [if_neg (by simp [hroom])]
        exact announces_setLength
      · exact conveys_plain hwanted status _ [] events
  | fixed bytes =>
      have hconveys :=
        conveys_plain hwanted status (setLength headers bytes.length)
        (oneChunk bytes) events
      rw [flatten_oneChunk] at hconveys
      exact ⟨_, fun _ => announces_setLength, hconveys⟩
  | file stored =>
      obtain ⟨path, content | content⟩ := stored
      · contradiction
      · have hconveys :=
          conveys_plain hwanted status (setLength headers content.length)
          (FileStream.chunksOf content) events
        rw [FileStream.flatten_chunksOf] at hconveys
        exact ⟨_, fun _ => announces_setLength, hconveys⟩
  | _ => contradiction

/-- A body that is produced while it is sent is written behind the fields as
they are. -/
theorem conveys_produced (events : List Bytes) (hwanted : context.head = false)
    {response : Response} (hproduced : response.body.isProduced = true) :
    (ofResponse context response).value.Conveys events response.status
      response.headers (response.body.payload events) := by
  obtain ⟨status, headers, responseBody⟩ := response
  cases responseBody with
  | chunked producer =>
      have hran :
        (ofResponse context ⟨status, headers, .chunked producer⟩).value =
          { plain context status headers [] with
            chunks :=
              (producer.run context.capacity
                .attentive).outlet.peer.received.toList
            notes := (producer.run context.capacity .attentive).notes } := by
        simp [ofResponse, ofProducer, hwanted]
      rw [hran]
      refine ⟨rfl, ⟨context.keepAlive, rfl⟩, ?_⟩
      have hdelivered := Producer.body_run producer context.capacity
      rw [Outlet.body] at hdelivered
      simp [body, plain, hdelivered, ResponseBody.payload]
  | stream source =>
      cases source with
      | items chunks => exact conveys_plain hwanted status headers chunks events
      | subscription subscriber =>
          refine ⟨rfl, ⟨context.keepAlive, rfl⟩, ?_⟩
          simp [ofResponse, ofSource, body, plain, hwanted,
            ResponseBody.payload]
  | _ => contradiction

/-- In place of a body that cannot be written there is an answer of its own. -/
theorem conveys_refused (events : List Bytes) (hwanted : context.head = false)
    {response : Response} (hrefused : response.body.isRefused = true) :
    response.body.payload events = [] ∧
      (ofResponse context response).value.Conveys events 500 .empty [] := by
  obtain ⟨status, headers, responseBody⟩ := response
  cases responseBody with
  | file stored =>
      obtain ⟨path, content | content⟩ := stored
      · exact ⟨rfl, conveys_plain hwanted 500 .empty [] events⟩
      · contradiction
  | webSocket script => exact ⟨rfl, conveys_plain hwanted 500 .empty [] events⟩
  | _ => contradiction

/-- Where a body is wanted, it is the payload of the response, and it is framed
truthfully unless the status or a field that was set by hand says otherwise. -/
theorem truthful_ofResponse_iff (hwanted : context.head = false)
    (response : Response) (events : List Bytes) :
    (ofResponse context response).value.body events =
      response.body.payload events ∧
      ((ofResponse context response).value.Truthful events ↔
        response.body.isRefused = true ∨ response.Framed events) := by
  cases hthere : response.body.isRefused with
  | true =>
      obtain ⟨hnothing, hconveys⟩ := conveys_refused events hwanted hthere
      rw [hnothing]
      exact ⟨hconveys.body_eq,
        iff_of_true (hconveys.truthful_iff.2 (by decide)) (.inl rfl)⟩
  | false =>
      rw [Response.Framed]
      cases hproduced : response.body.isProduced with
      | true =>
          have hconveys := conveys_produced events hwanted hproduced
          refine ⟨hconveys.body_eq, ?_⟩
          simpa using hconveys.truthful_iff
      | false =>
          obtain ⟨headers, hannounces, hconveys⟩ :=
            conveys_measured events hwanted hproduced hthere
          refine ⟨hconveys.body_eq, ?_⟩
          rw [hconveys.truthful_iff]
          cases hroom : isBodiless response.status with
          | true => simp
          | false => simp [hannounces hroom]

def announcedFields (length : String) : HeaderMap :=
  ⟨[("content-length", Utf8.ofString length)]⟩

def announcedScript : Response :=
  ⟨200, announcedFields "3",
    .chunked ⟨[.write (Utf8.ofString "ab"), .flush, .write (Utf8.ofString "c")],
      .closeOnSuccess⟩⟩

theorem truthful_announcedScript :
    (⟨false, true, 2⟩ : WriteContext).head = false ∧
      (ofResponse ⟨false, true, 2⟩ announcedScript).value.Truthful [] := by
  have hframed : announcedScript.Framed [] := fun _ => by decide
  exact ⟨rfl,
    (truthful_ofResponse_iff rfl announcedScript []).2.2 (.inr hframed)⟩

/-- A status without a body does not keep a text from being written. -/
theorem not_truthful_noContent_text :
    (ofResponse ⟨false, true, 1024⟩
      (Response.noContent.text (Utf8.ofString "x"))).value.status = 204 ∧
      (ofResponse ⟨false, true, 1024⟩
        (Response.noContent.text (Utf8.ofString "x"))).value.chunks =
        [Utf8.ofString "x"] ∧
      ¬ (ofResponse ⟨false, true, 1024⟩
        (Response.noContent.text (Utf8.ofString "x"))).value.Truthful [] := by
  decide

-- a length that was set by hand stays in front of a stream of fewer bytes
example : ¬ (ofResponse ⟨false, true, 1024⟩
    ⟨200, announcedFields "5",
      .stream (.items [Utf8.ofString "abc"])⟩).value.Truthful [] := by
  decide

end Written

end HttpEngine
