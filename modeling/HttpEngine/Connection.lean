import HttpEngine.Route.Router
import HttpEngine.Stream.Written
import HttpEngine.WebSocket.Handshake

/-!
# Serving a request

A request is routed by its head, its body is read through a bounded parser, and
the handler of the route is called once with the whole body.  Whatever the
handler does, a response is written; only a failure of the stream under the body
has none.
-/

namespace HttpEngine

/-- What all connections of a server share. -/
structure Service (σ : Type) where
  router : Router σ
  limits : BodyLimits
  capacity : Nat

structure RequestHead where
  method : Method
  target : Target
  version : Version
  headers : HeaderMap
  remote : Option SocketAddress
  deriving DecidableEq, Repr

/-- A body as it arrives: chunks, and the failure that ends it early if there is
one. -/
structure IncomingBody where
  chunks : List Bytes
  failure : Option TransportError
  deriving DecidableEq, Repr

namespace RequestHead

/-- The connection stays open after the exchange. -/
def keepsAlive (version : Version) (headers : HeaderMap) : Bool :=
  match version with
  | .http10 => headers.hasToken "connection" "keep-alive"
  | _ => !headers.hasToken "connection" "close"

def path (head : RequestHead) : String := Percent.decodePath head.target.path

/-- The outcome of the handshake, for a request that asks for an upgrade. -/
def upgrade? (head : RequestHead) : Option (Except Response String) :=
  if head.method = .get ∧ head.headers.contains "upgrade" then
    some (WebSocket.handshake head.headers)
  else none

def writeContext (head : RequestHead) (capacity : Nat) : WriteContext :=
  ⟨head.method == .head, keepsAlive head.version head.headers, capacity⟩

def request (head : RequestHead) (params : Params) (body : Body) : Request :=
  RequestDraft.build
    { method := head.method
      target := head.target
      path := some head.path
      version := head.version
      headers := head.headers
      pathParams := params
      remote := head.remote
      body := body }

end RequestHead

namespace Service

variable {σ : Type}

abbrev Run (σ α : Type) : Type := StateM (World σ) α

def writeLog (lines : List LogLine) : Run σ Unit :=
  modify fun world => { world with log := world.log ++ lines }

def ofLogged {α : Type} (logged : Logged α) : Run σ α := do
  writeLog logged.lines
  pure logged.value

/-- The response of a handler: its result, or the default answer to its error or
panic. -/
def answerOf : Except Failure Response → Logged Response
  | .ok response => ⟨response, []⟩
  | .error (.error error) => error.defaultResponse
  | .error (.panic payload) => (Error.panic payload.message).defaultResponse

/-- The answer to a request whose handler wants a session. -/
def acceptUpgrade (context : WriteContext)
    (upgrade : Option (Except Response String)) (script : WebSocket.Script) :
    Logged Written :=
  match upgrade with
  | some (.ok accept) =>
      ⟨⟨101, WebSocket.switchingHeaders accept, [], .session script, []⟩, []⟩
  | some (.error rejection) => Written.ofResponse context rejection
  | none =>
      Written.ofResponse context
        (WebSocket.rejection "websocket responses require an upgrade request")

def writeAnswer (context : WriteContext)
    (upgrade : Option (Except Response String)) (response : Response) :
    Logged Written :=
  match response.body with
  | .webSocket script => acceptUpgrade context upgrade script
  | _ => Written.ofResponse context response

def contentType? (headers : HeaderMap) : Option String :=
  headers.getText? "content-type"

/-- Serves one request. -/
def handle (service : Service σ) (head : RequestHead)
    (incoming : IncomingBody) :
    Run σ (Except TransportError Written) := do
  let path := head.path
  let routing := service.router.find head.method path
  writeLog [⟨.debug,
    head.method.name ++ " " ++ path ++ " -> " ++ routing.resolution.name⟩]
  let parser :=
    (BodyParser.select head.method (contentType? head.headers)
      routing.bodyParser service.limits).offerAll incoming.chunks
  let context := head.writeContext service.capacity
  match incoming.failure with
  | some failure => pure (.error failure)
  | none =>
      if parser.exceeded then
        writeLog [⟨.debug,
          "Request body of " ++ toString parser.seen ++
            " bytes rejected as too large"⟩]
        return .ok (← ofLogged (Written.ofResponse context .payloadTooLarge))
      else
        let request := head.request routing.params parser.finish.1
        let result ← ExceptT.run (routing.handler request)
        let response ← ofLogged (answerOf result)
        return .ok (← ofLogged (writeAnswer context head.upgrade? response))

end Service

end HttpEngine
