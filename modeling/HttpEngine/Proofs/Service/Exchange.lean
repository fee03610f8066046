import HttpEngine.Connection
import HttpEngine.Proofs.Body.Limit
import HttpEngine.Proofs.Multipart.Chunking

/-!
# One exchange

A request is answered in one of three ways: the transport failed and there is no
answer, the body was larger than the limit of its parser and nothing but the
refusal is written, or the handler that routing chose runs once on the whole
body and its end is written.
-/

namespace HttpEngine

/-! ## Fresh parsers -/

inductive BodyDecoder.IsFresh : BodyDecoder → Prop where
  | discard : IsFresh .discard
  | raw : IsFresh (.raw #[])
  | urlEncoded : IsFresh (.urlEncoded #[])
  | multipart (boundary : Option Bytes) : IsFresh (.multipart (.new boundary))

/-- Nothing was offered to the parser yet. -/
structure BodyParser.IsFresh (parser : BodyParser) : Prop where
  new_eq : parser = .new parser.maxSize parser.decoder
  decoder_isFresh : parser.decoder.IsFresh

namespace BodyParser

end BodyParser

/-! ## Parsers of routes -/

namespace Router

variable {σ : Type}

end Router

variable {σ : Type}

/-! ## What an exchange does -/

/-- The world with more lines in its log. -/
def World.note (world : World σ) (lines : List LogLine) : World σ :=
  { world with log := world.log ++ lines }

theorem World.note_append (world : World σ) (first second : List LogLine) :
    world.note (first ++ second) = (world.note first).note second := by
  have hlog :
      world.log ++ (first ++ second) = world.log ++ first ++ second := by
    apply Array.toList_inj.1
    simp
  rw [note, hlog]
  rfl

namespace Service

variable (service : Service σ) (head : RequestHead) (incoming : IncomingBody)
  (world : World σ)

def routing : Routing σ := service.router.find head.method head.path

/-- The world once the route is known. -/
def routed : World σ :=
  world.note [⟨.debug, head.method.name ++ " " ++ head.path ++ " -> " ++
    (service.routing head).resolution.name⟩]

/-- The one run of the handler that routing chose. -/
def called (body : Body) : Except Failure Response × World σ :=
  ((service.routing head).handler
    (head.request (service.routing head).params body)).runIn
    (service.routed head world)

/-- The response to the end of a handler. -/
inductive Translates : Except Failure Response → Logged Response → Prop where
  | result (response : Response) : Translates (.ok response) ⟨response, []⟩
  | error (error : Error) :
      Translates (.error (.error error)) error.defaultResponse
  | panic (payload : PanicPayload) :
      Translates (.error (.panic payload))
        (Error.panic payload.message).defaultResponse

/-- What is written for a response; one that is a session answers
the upgrade. -/
inductive Writes (context : WriteContext)
    (upgrade : Option (Except Response String)) :
    Response → Logged Written → Prop where
  | plain {response : Response}
      (h : ∀ script, response.body ≠ .webSocket script) :
      Writes context upgrade response (Written.ofResponse context response)
  | session {response : Response} {script : WebSocket.Script}
      (h : response.body = .webSocket script) :
      Writes context upgrade response (acceptUpgrade context upgrade script)

/-- The handler that routing chose runs once, on the given body, and what is
written answers its end. -/
def Serves (body : Body) (outcome : Except TransportError Written × World σ) :
    Prop :=
  let (ended, after) := service.called head world body
  ∃ answer written, Translates ended answer ∧
    Writes (head.writeContext service.capacity) head.upgrade?
      answer.value written ∧
    outcome = (.ok written.value, after.note (answer.lines ++ written.lines))

/-! ## The three ways -/

variable {service head incoming world}

theorem translates_iff {ended : Except Failure Response}
    {answer : Logged Response} :
    Translates ended answer ↔ answer = answerOf ended := by
  constructor
  · intro h
    cases h <;> rfl
  · rintro rfl
    cases ended with
    | ok response => exact .result response
    | error failure =>
        cases failure with
        | error error => exact .error error
        | panic payload => exact .panic payload

theorem writes_iff {context : WriteContext}
    {upgrade : Option (Except Response String)} {response : Response}
    {written : Logged Written} :
    Writes context upgrade response written ↔
      written = writeAnswer context upgrade response := by
  unfold writeAnswer
  constructor
  · intro h
    cases h with
    | plain hbody =>
        split
        · next hsession => exact absurd hsession (hbody _)
        · rfl
    | session hbody => rw [hbody]
  · rintro rfl
    split
    · next hbody => exact .session hbody
    · next hbody => exact .plain hbody

/-- A fixed body is announced with its length, and written in one piece unless
it is empty or only the head is wanted. -/
theorem writes_fixed_iff {context : WriteContext}
    {upgrade : Option (Except Response String)} {response : Response}
    {bytes : Bytes} (hbody : response.body = .fixed bytes)
    {written : Logged Written} :
    Writes context upgrade response written ↔
      written.lines = [] ∧ written.value = {
        status := response.status
        headers := Written.setConnection
          (Written.setLength response.headers bytes.length) context.keepAlive
        chunks := if context.head then [] else Written.oneChunk bytes
        continuation := .finished
        notes := [] } := by
  rw [writes_iff, writeAnswer, hbody, Written.ofResponse, hbody]
  constructor
  · rintro rfl
    exact ⟨rfl, rfl⟩
  · obtain ⟨value, lines⟩ := written
    rintro ⟨rfl, rfl⟩
    rfl

/-- There is one outcome for each body. -/
theorem Serves.unique {body : Body}
    {first second : Except TransportError Written × World σ}
    (hfirst : service.Serves head world body first)
    (hsecond : service.Serves head world body second) : first = second := by
  obtain ⟨answer, written, hanswer, hwritten, rfl⟩ := hfirst
  obtain ⟨_, _, hanswer', hwritten', rfl⟩ := hsecond
  obtain rfl := translates_iff.1 hanswer
  obtain rfl := translates_iff.1 hanswer'
  obtain rfl := writes_iff.1 hwritten
  obtain rfl := writes_iff.1 hwritten'
  rfl

/-- A handler answers with a text. -/
example :
    let route : Route Unit := ⟨.get, ⟨"/", [.literal []]⟩, none, fun _ =>
      pure (Response.ok.text (Utf8.ofString "hi"))⟩
    let service : Service Unit := ⟨⟨[route]⟩, .standard, 8⟩
    let head : RequestHead := ⟨.get, .root, .http11, .empty, none⟩
    ((service.handle head ⟨[], none⟩).run ⟨#[], ()⟩).1 = .ok {
      status := 200
      headers := ((HeaderMap.empty.insert "content-type"
        (Utf8.ofString "text/plain; charset=utf-8")).insert "content-length"
          (Utf8.ofString "2")).insert "connection" (Utf8.ofString "keep-alive")
      chunks := [Utf8.ofString "hi"]
      continuation := .finished
      notes := [] } := by
  rfl

/-- One route that counts its calls, with bodies of at most three bytes. -/
def counting : Service Nat where
  router := ⟨[⟨.post, ⟨"/", [.literal []]⟩, some (.raw (some 3)), fun _ => do
    Action.changeState (· + 1)
    pure .ok⟩]⟩
  limits := .standard
  capacity := 8

def rootHead (method : Method) : RequestHead :=
  ⟨method, .root, .http11, .empty, none⟩

end Service

end HttpEngine
