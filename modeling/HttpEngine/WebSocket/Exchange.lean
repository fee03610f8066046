import HttpEngine.WebSocket.Session

/-!
# A session with its peer

The peer sends messages, control frames or raw bytes and sees the replies:
messages of the application, the answers to its pings, and the close frame.  It
answers a close frame itself.  All that has arrived is taken in before anything
is written.
-/

namespace HttpEngine.WebSocket

inductive Reply where
  | text (content : String)
  | binary (content : Bytes)
  | pong (payload : Bytes)
  | close
  deriving DecidableEq, Repr

structure Exchange where
  session : Session
  assembly : Assembly
  deriving Repr

/-- What the peer does. -/
inductive PeerMove where
  | message (message : Message)
  | ping (payload : Bytes)
  | pong (payload : Bytes)
  | close
  /-- Raw bytes, after which the peer stays or goes away. -/
  | raw (bytes : Bytes) (stays : Bool)
  | leave
  deriving Repr

namespace PeerMove

/-- What the peer puts on the wire. -/
def bytes : PeerMove → Bytes
  | .message (.text content) => writeFrame 1 (Utf8.ofString content)
  | .message (.binary content) => writeFrame 2 content
  | .ping payload => writeFrame 9 payload
  | .pong payload => writeFrame 10 payload
  | .close => writeFrame 8 []
  | .raw bytes _ => bytes
  | .leave => []

/-- Whether the peer is still there afterwards. -/
def stays : PeerMove → Bool
  | .raw _ stays => stays
  | .leave => false
  | _ => true

end PeerMove

namespace Exchange

def start (script : Script) : Exchange := ⟨.ofScript script, .start⟩

def replyOf : Outgoing → Reply
  | .message (.text content) => .text content
  | .message (.binary content) => .binary content
  | .close => .close

/-- The answer of the protocol itself; after a close frame was written there is
none. -/
def protocolReplies (session : Session) : Incoming → List Reply
  | .ping payload =>
      if session.ended || session.closing then [] else [.pong payload]
  | .close => if session.ended || session.closing then [] else [.close]
  | _ => []

/-- Takes in what has arrived, in order. -/
def hearAll (session : Session) : List Incoming → Session × List Reply
  | [] => (session, [])
  | incoming :: rest =>
      let replies := protocolReplies session incoming
      let (last, more) := hearAll (session.receive incoming) rest
      (last, replies ++ more)

/-- Writes all that was accepted; writing never makes more to write. -/
def flush (session : Session) : Session :=
  session.channel.outgoing.foldl (fun session _ =>
    session.transmit false) session

/-- Writes what was accepted, and lets the peer answer a close frame. -/
def settle (exchange : Exchange) (replies : List Reply) :
    Exchange × List Reply :=
  let before := exchange.session
  let after := flush before
  let replies :=
    replies ++ (after.written.drop before.written.length).map replyOf
  let last := if after.closing then after.receive .close else after
  ({ exchange with session := last }, replies)

/-- The replies that wait when the session has just begun. -/
def opening (exchange : Exchange) : Exchange × List Reply := exchange.settle []

def hear (exchange : Exchange) (items : List Incoming) :
    Exchange × List Reply :=
  let (session, replies) := hearAll exchange.session items
  { exchange with session := session }.settle replies

def move (exchange : Exchange) (move : PeerMove) : Exchange × List Reply :=
  let (assembly, items) := exchange.assembly.receive move.bytes
  { exchange with assembly := assembly }.hear
    (if move.stays then items else items ++ [Incoming.failure])

/-- Acts of the application from outside the session. -/
def act (exchange : Exchange) (acts : List Act) : Exchange × List Reply :=
  { exchange with session := exchange.session.act acts }.settle []

/-- The notes since the last time, which are taken away. -/
def takeNotes (exchange : Exchange) : Exchange × List String :=
  ({ exchange with
      session :=
        { exchange.session with
          channel := { exchange.session.channel with notes := [] } } },
    exchange.session.channel.notes)

end Exchange

end HttpEngine.WebSocket
