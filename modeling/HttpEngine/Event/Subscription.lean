import HttpEngine.Event.Broadcast
import HttpEngine.Stream.Written

/-!
# Answers that carry a subscription

The stream of a subscriber is the body of a response.  Once the response is
written, either the stream goes on behind the head or nothing holds it any more.
-/

namespace HttpEngine.Hub

/-- Writes a response.  A stream that does not go on behind the head
is dropped. -/
def answer (hub : Hub) (context : WriteContext) (response : Response) :
    Hub × Logged Written :=
  let written := Written.ofResponse context response
  match response.body, written.value.continuation with
  | .stream (.subscription subscriber), .finished =>
      (hub.dropStream subscriber, written)
  | _, _ => (hub, written)

end HttpEngine.Hub
