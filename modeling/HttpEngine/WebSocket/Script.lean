import HttpEngine.Bytes

/-!
# Session scripts

What an application does in a WebSocket session: acts on its channel when the
session opens, when a message arrives and when the session has ended.
-/

namespace HttpEngine.WebSocket

inductive Message where
  | text (content : String)
  | binary (content : Bytes)
  deriving DecidableEq, Repr

/-- The messages that a listener hears. -/
inductive Scope where
  | text
  | binary
  | any
  deriving DecidableEq, Repr

def Scope.hears : Scope → Message → Bool
  | .text, .text _ => true
  | .binary, .binary _ => true
  | .any, _ => true
  | _, _ => false

/-- Something done with a channel. -/
inductive Act where
  | note (text : String)
  | text (content : String)
  | binary (content : Bytes)
  /-- Sends the message back, a text with something put before it. -/
  | echo (before : String)
  /-- Notes the message. -/
  | reveal
  /-- Notes whether the session has ended. -/
  | state
  | close
  | onDisconnect (acts : List Act)
  | listen (scope : Scope) (acts : List Act)
  deriving Repr

/-- The listeners registered first when a session opens, and what is
done then. -/
structure Script where
  listeners : List (Scope × List Act)
  opening : List Act
  deriving Repr

end HttpEngine.WebSocket
