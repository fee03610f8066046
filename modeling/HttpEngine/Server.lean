import HttpEngine.Config.Settings
import HttpEngine.Connection
import HttpEngine.Error.Startup
import HttpEngine.ListenAddress

/-!
# Servers

A server is set up from settings, routes and a filter in front of all of them.
Starting it compiles the routes first and binds the address then, so that of two
faults the one in a pattern is reported.  What addresses there are, and whether
anyone can connect to them, is up to the host on which the server is started.
-/

namespace HttpEngine

/-! ## Hosts -/

/-- What the surroundings of a server provide. -/
structure Host where
  /-- The reason why an address cannot be bound, if there is one. -/
  refusal? : ListenAddress → Option String
  /-- Clients can connect to a bound address. -/
  connects : Bool

namespace Host

/-- A host that binds its own addresses and lets nobody connect. -/
def isolated : Host where
  refusal? address :=
    if address.isLocal then none else some "Cannot assign requested address"
  connects := false

def refusalOf? (host : Host) (address : String) : Option String :=
  match ListenAddress.parse address with
  | .ok parsed => host.refusal? parsed
  | .error reason => some reason

end Host

/-! ## Servers -/

structure Server (σ : Type) where
  settings : Settings
  address : String
  name : String
  entries : List (RouteEntry σ)
  globalFilter : Option (Filter σ)

/-- A server that has started. -/
structure RunningServer (σ : Type) where
  service : Service σ
  host : Host

namespace Server

variable {σ : Type}

def new (settings : Settings) : Server σ :=
  ⟨settings, settings.address, Router.standardName, [], none⟩

/-- Listens on another address than the configured one. -/
def bind (server : Server σ) (address : String) : Server σ :=
  { server with address := address }

/-- Adds routes after those that the server has. -/
def route (server : Server σ) (entries : List (RouteEntry σ)) : Server σ :=
  { server with entries := server.entries ++ entries }

def filter (server : Server σ) (filter : Filter σ) : Server σ :=
  { server with globalFilter := some filter }

def serviceOf (server : Server σ) (router : Router σ) : Service σ :=
  ⟨router, server.settings.bodyLimits, server.settings.chunkCapacity⟩

def start (server : Server σ) (host : Host) :
    Logged (Except StartupError (RunningServer σ)) :=
  let built := Router.build server.name server.globalFilter server.entries
  match built.value with
  | .error fault => ⟨.error (.pattern fault), built.lines⟩
  | .ok router =>
      match host.refusalOf? server.address with
      | some reason => ⟨.error (.bind server.address reason), built.lines⟩
      | none =>
          ⟨.ok ⟨server.serviceOf router, host⟩,
            built.lines ++
              [⟨.info, server.name ++ " listening on http://" ++
                server.address⟩]⟩

end Server

/-! ## Clients -/

/-- A client finds no way to the address it wants to connect to. -/
structure Unreachable where
  deriving DecidableEq, Repr

/-- The service at the other end of a new connection. -/
def RunningServer.connect {σ : Type} (server : RunningServer σ) :
    Except Unreachable (Service σ) :=
  if server.host.connects then .ok server.service else .error ⟨⟩

end HttpEngine
