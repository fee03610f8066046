import HttpEngine.Route.Pattern

/-!
# Errors of a starting server

A server does not start when a route has a faulty pattern, when its address
cannot be bound, or when the threads and the poller it works with cannot be had.
-/

namespace HttpEngine

/-- Why a pool of workers cannot run a task. -/
inductive ExecutorError where
  | lock
  | spawn (message : String)
  | task (message : String)
  | io (message : String)
  deriving DecidableEq, Repr

def ExecutorError.message : ExecutorError → String
  | .lock => "mutex lock poisoned"
  | .spawn message => "thread spawn failed: " ++ message
  | .task message => "task execution failed: " ++ message
  | .io message => "io error: " ++ message

/-- Why a poller cannot watch a connection. -/
inductive ReactorError where
  | initialization (message : String)
  | registration (message : String)
  | polling (message : String)
  | lock
  | io (message : String)
  deriving DecidableEq, Repr

def ReactorError.message : ReactorError → String
  | .initialization message => "reactor initialization failed: " ++ message
  | .registration message => "registration failed: " ++ message
  | .polling message => "polling failed: " ++ message
  | .lock => "mutex lock poisoned"
  | .io message => "io error: " ++ message

inductive StartupError where
  | bind (address message : String)
  | reactor (fault : ReactorError)
  | pattern (fault : PatternError)
  | config (message : String)
  | io (message : String)
  deriving DecidableEq, Repr

def StartupError.message : StartupError → String
  | .bind address message => "failed to bind " ++ address ++ ": " ++ message
  | .reactor fault => fault.message
  | .pattern fault => "invalid route pattern: " ++ fault.message
  | .config message => "configuration error: " ++ message
  | .io message => "io error: " ++ message

end HttpEngine
