/-!
# Log lines

Building responses and translating errors leaves log lines.  A value that was
computed with log lines carries them along in the order in which they were
written.
-/

namespace HttpEngine

inductive LogLevel where
  | error
  | warn
  | info
  | debug
  | trace
  deriving DecidableEq, Repr

def LogLevel.name : LogLevel → String
  | .error => "error"
  | .warn => "warn"
  | .info => "info"
  | .debug => "debug"
  | .trace => "trace"

structure LogLine where
  level : LogLevel
  message : String
  deriving DecidableEq, Repr

/-- A value and the log lines written on the way to it. -/
structure Logged (α : Type) where
  value : α
  lines : List LogLine
  deriving DecidableEq

namespace Logged

variable {α β : Type}

def log (level : LogLevel) (message : String) : Logged Unit :=
  ⟨(), [⟨level, message⟩]⟩

def andThen (first : Logged α) (next : α → Logged β) : Logged β :=
  let second := next first.value
  ⟨second.value, first.lines ++ second.lines⟩

instance : Monad Logged where
  pure value := ⟨value, []⟩
  bind := andThen

end Logged

end HttpEngine
