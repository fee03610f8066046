import HttpEngine.Event.Subscription
import HttpEngine.Proofs.Event.Parting

/-!
# Answers to `HEAD`

An answer to `HEAD` says of a body what the answer to `GET` says, and the body
is thrown away: its producer does not run, its stream is not read, and a stream
that follows a broadcast is dropped, so that its subscriber leaves.
-/

namespace HttpEngine

namespace Written

/-- The head of another answer, with nothing behind it. -/
structure IsHeadOf (headed full : Written) : Prop where
  status_eq : headed.status = full.status
  headers_eq : headed.headers = full.headers
  chunks_eq : headed.chunks = []
  finished : headed.continuation = .finished
  notes_eq : headed.notes = []

theorem isHeadOf_plain (context : WriteContext) (status : Nat)
    (headers : HeaderMap) (chunks : List Bytes) :
    (plain { context with head := true } status headers chunks).IsHeadOf
      (plain { context with head := false } status headers chunks) :=
  ⟨rfl, rfl, rfl, rfl, rfl⟩

theorem IsHeadOf.of_same {headed full other : Written}
    (hisHead : headed.IsHeadOf full) (hstatus : other.status = full.status)
    (hheaders : other.headers = full.headers) :
    headed.IsHeadOf other :=
  { hisHead with
    status_eq := hisHead.status_eq.trans hstatus.symm
    headers_eq := hisHead.headers_eq.trans hheaders.symm }

theorem isHeadOf_ofResponse (context : WriteContext) (response : Response) :
    (ofResponse { context with head := true } response).value.IsHeadOf
      (ofResponse { context with head := false } response).value := by
  obtain ⟨status, headers, body⟩ := response
  cases body with
  | empty => exact isHeadOf_plain context status _ []
  | fixed bytes => exact isHeadOf_plain context status _ _
  | chunked producer =>
      exact (isHeadOf_plain context status headers []).of_same rfl rfl
  | stream source =>
      cases source with
      | items chunks => exact isHeadOf_plain context status headers chunks
      | subscription subscriber =>
          exact (isHeadOf_plain context status headers []).of_same rfl rfl
  | file stored =>
      obtain ⟨path, content | content⟩ := stored
      · exact isHeadOf_plain context 500 .empty []
      · exact isHeadOf_plain context status _ _
  | webSocket script => exact isHeadOf_plain context 500 .empty []

end Written

namespace Hub

variable {hub : Hub} {subscriber : Nat} {response : Response}

theorem written_answer (hub : Hub) (context : WriteContext)
    (response : Response) :
    (hub.answer context response).2 = Written.ofResponse context response := by
  rw [answer]
  split <;> rfl

theorem answer_of_subscription
    (hfollows : response.body = .stream (.subscription subscriber))
    (context : WriteContext) :
    (hub.answer context response).1 = if context.head then
      hub.dropStream subscriber else hub := by
  simp only [answer, Written.ofResponse, hfollows, Written.ofSource]
  cases context.head <;> rfl

theorem answer_of_other
    (hother : ∀ subscriber, response.body ≠ .stream (.subscription subscriber))
    (context : WriteContext) : (hub.answer context response).1 = hub := by
  rw [answer]
  split
  · next hfollows _ => exact absurd hfollows (hother _)
  · rfl

theorem answer_cases (hub : Hub) (context : WriteContext)
    (response : Response) :
    (hub.answer context response).1 = hub ∨
      context.head = true ∧ ∃ subscriber,
        (hub.answer context response).1 = hub.dropStream subscriber := by
  by_cases hother :
    ∀ subscriber, response.body ≠ .stream (.subscription subscriber)
  · exact .inl (answer_of_other hother context)
  · rw [Classical.not_forall_not] at hother
    obtain ⟨subscriber, hfollows⟩ := hother
    rw [answer_of_subscription hfollows]
    cases context.head with
    | false => exact .inl rfl
    | true => exact .inr ⟨rfl, subscriber, rfl⟩

theorem events_dropStream (other : Nat) :
    ((hub.dropStream subscriber).queueOf other).events =
      (hub.queueOf other).events := by
  rw [dropStream]
  split
  · split
    · exact part_changeQueue EventQueue.events rfl
    · rfl
  · rfl

theorem dropStream_of_isDropped (hdropped : hub.isDropped subscriber = true) :
    hub.dropStream subscriber = hub := by
  rw [isDropped] at hdropped
  rw [dropStream]
  split at hdropped
  · rw [Bool.not_eq_true'] at hdropped
    simp [hdropped]
  · rfl

end Hub

namespace Traffic

theorem hub_act_drop (traffic : Traffic) (subscriber : Nat) :
    (traffic.act (.drop subscriber)).hub =
      traffic.hub.dropStream subscriber := by
  rw [act]
  split
  · next hdropped => exact (Hub.dropStream_of_isDropped hdropped).symm
  · rfl

/-- What it means to answer `HEAD`, next to the answer to `GET`. -/
structure AnswersHead (traffic : Traffic) (response : Response)
    (get head : WriteContext) : Prop where
  isHead : (traffic.hub.answer head response).2.value.IsHeadOf
    (traffic.hub.answer get response).2.value
  /-- The answer is the same for every producer, and so is what is noted and
  logged. -/
  idle : ∀ producer other,
    Written.ofResponse head { response with body := .chunked producer } =
      Written.ofResponse head { response with body := .chunked other }
  /-- The answer is the same for every stream, and all that is queued for a
  stream stays. -/
  unpolled : ∀ source other,
    Written.ofResponse head { response with body := .stream source } =
      Written.ofResponse head { response with body := .stream other }
  unread : ∀ subscriber,
    ((traffic.hub.answer head response).1.queueOf subscriber).events =
    (traffic.hub.queueOf subscriber).events
  kept : (traffic.hub.answer get response).1 = traffic.hub
  aside : (∀ subscriber, response.body ≠ .stream (.subscription subscriber)) →
    (traffic.hub.answer head response).1 = traffic.hub
  dropped : ∀ subscriber, response.body = .stream (.subscription subscriber) →
    (traffic.hub.answer head response).1 = (traffic.act (.drop subscriber)).hub
  /-- With enough work, whatever comes in between, the subscriber is gone for
  good. -/
  leaves : ∀ subscriber, response.body = .stream (.subscription subscriber) →
    traffic.hub.isDropped subscriber = false →
    ∃ count, ∀ moves : List Move, count ≤ moves.count .work →
      (traffic.run (.drop subscriber :: moves)).Departed subscriber

/-- For every response and in every state of the hub, an answer to `HEAD` is the
head of the answer to `GET`, and the body is thrown away unread. -/
theorem answersHead (traffic : Traffic) (context : WriteContext)
    (response : Response) :
    traffic.AnswersHead response { context with head := false }
      { context with head := true } := by
  constructor
  case isHead =>
    rw [Hub.written_answer, Hub.written_answer]
    exact Written.isHeadOf_ofResponse context response
  case idle => exact fun _ _ => rfl
  case unpolled =>
    intro source other
    cases source <;> cases other <;> rfl
  case unread =>
    intro subscriber
    rcases traffic.hub.answer_cases { context with head := true } response with
      hsame | ⟨-, other, hdropped⟩
    · rw [hsame]
    · rw [hdropped, Hub.events_dropStream]
  case kept =>
    rcases traffic.hub.answer_cases { context with head := false } response with
      hsame | ⟨hhead, -⟩
    · exact hsame
    · contradiction
  case aside => exact fun hother => Hub.answer_of_other hother _
  case dropped =>
    intro subscriber hfollows
    rw [Hub.answer_of_subscription hfollows, hub_act_drop]
    rfl
  case leaves => exact fun subscriber _ hpresent => departed_of_drop hpresent

/-- A subscriber is about to join a hub whose hooks panic when
somebody leaves. -/
def arriving : Traffic :=
  (start 4 [] [⟨"left", fun _ => true⟩]).run [.subscribe]

theorem answersHead_arriving :
    arriving.AnswersHead (Hub.response 0) ⟨false, true, 1024⟩
      ⟨true, true, 1024⟩ ∧
      ∃ count, ∀ moves : List Move, count ≤ moves.count .work →
        (arriving.run (.drop 0 :: moves)).Departed 0 := by
  have hanswers := answersHead arriving ⟨false, true, 1024⟩ (Hub.response 0)
  exact ⟨hanswers, hanswers.leaves 0 rfl rfl⟩

end Traffic

end HttpEngine
