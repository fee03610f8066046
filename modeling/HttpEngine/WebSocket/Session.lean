import HttpEngine.WebSocket.Frame

/-!
# Sessions

A session gives every message of the peer to the listeners registered at that
moment and writes the messages of the application in the order in which they
were accepted.  When it ends, the listeners for messages go, those for the end
run once each, and nothing is accepted any more.
-/

namespace HttpEngine.WebSocket

/-! ## The application's side -/

inductive Outgoing where
  | message (message : Message)
  | close
  deriving DecidableEq, Repr

structure Channel where
  listeners : List (Scope × List Act)
  farewells : List (List Act)
  disconnected : Bool
  /-- Accepted and not yet written. -/
  outgoing : List Outgoing
  notes : List String
  deriving Repr

namespace Channel

def new : Channel := ⟨[], [], false, [], []⟩

def note (channel : Channel) (text : String) : Channel :=
  { channel with notes := channel.notes ++ [text] }

/-- What an application hears when a message is not accepted any more. -/
def closedMessage : String := "websocket closed"

/-- Accepts something to write, unless the session has ended; a refusal is noted
under a name. -/
def send (channel : Channel) (name : String) (item : Outgoing) : Channel :=
  if channel.disconnected then
    channel.note (name ++ " failed: " ++ closedMessage)
  else { channel with outgoing := channel.outgoing ++ [item] }

def sendMessage (channel : Channel) : Message → Channel
  | .text content => channel.send "text" (.message (.text content))
  | .binary content => channel.send "binary" (.message (.binary content))

def describe (channel : Channel) : String :=
  "WsChannel \x7b disconnected: " ++ toString channel.disconnected ++ " \x7d"

/-- The answer to a message, with something put before a text. -/
def echoOf (before : String) : Message → Message
  | .text content => .text (before ++ content)
  | .binary content => .binary content

def reveal : Message → String
  | .text content => "text:" ++ content
  | .binary content => "binary:" ++ toString content.length

mutual

/-- Does one act, with the message that it answers if there is one. -/
def perform (message : Option Message) (channel : Channel) : Act → Channel
  | .note text => channel.note text
  | .text content => channel.sendMessage (.text content)
  | .binary content => channel.sendMessage (.binary content)
  | .echo before =>
      match message with
      | some message => channel.sendMessage (echoOf before message)
      | none => channel
  | .reveal =>
      match message with
      | some message => channel.note (reveal message)
      | none => channel
  | .state =>
      channel.note
        ("disconnected=" ++ toString channel.disconnected ++ " " ++
          channel.describe)
  | .close => channel.send "close" .close
  | .onDisconnect acts =>
      if channel.disconnected then performAll none channel acts
      else { channel with farewells := channel.farewells ++ [acts] }
  | .listen scope acts =>
      { channel with listeners := channel.listeners ++ [(scope, acts)] }

def performAll (message : Option Message) (channel : Channel) :
    List Act → Channel
  | [] => channel
  | act :: rest => performAll message (perform message channel act) rest

end

/-- Gives a message to the listeners that are registered now and hear it. -/
def deliver (channel : Channel) (message : Message) : Channel :=
  channel.listeners.foldl
    (fun channel (scope, acts) =>
      if scope.hears message then performAll (some message) channel acts
      else channel)
    channel

/-- Ends the session for the application; a second time has no effect. -/
def disconnect (channel : Channel) : Channel :=
  if channel.disconnected then channel
  else
    channel.farewells.foldl (performAll none)
      { channel with disconnected := true, listeners := [], farewells := [] }

/-- A channel on which the listeners of a script are registered and its opening
acts done. -/
def ofScript (script : Script) : Channel :=
  performAll none { new with listeners := script.listeners } script.opening

end Channel

/-! ## Sessions -/

structure Session where
  channel : Channel
  /-- A close frame has been written. -/
  closing : Bool
  ended : Bool
  /-- What has been written to the peer. -/
  written : List Outgoing
  deriving Repr

namespace Session

def ofScript (script : Script) : Session := ⟨.ofScript script, false, false, []⟩

def finish (session : Session) : Session :=
  { session with ended := true, channel := session.channel.disconnect }

/-- Takes in what has come from the peer. -/
def receive (session : Session) (incoming : Incoming) : Session :=
  if session.ended then session
  else
    match incoming with
    | .message message =>
        { session with channel := session.channel.deliver message }
    | .ping _ => session
    | .pong _ => session
    | .close => session.finish
    | .failure => session.finish

/-- Writes what was accepted first.  The connection may fail, and nothing can be
written after a close frame. -/
def transmit (session : Session) (fails : Bool) : Session :=
  if session.ended then session
  else
    match session.channel.outgoing with
    | [] => session
    | item :: rest =>
        let session :=
          { session with channel := { session.channel with outgoing := rest } }
        if fails || session.closing then session.finish
        else
          { session with
            written := session.written ++ [item]
            closing := item == .close }

/-- Does acts on the channel from outside. -/
def act (session : Session) (acts : List Act) : Session :=
  { session with channel := session.channel.performAll none acts }

end Session

end HttpEngine.WebSocket
