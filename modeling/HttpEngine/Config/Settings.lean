import HttpEngine.Body.Parser
import HttpEngine.Config.Dotenv
import HttpEngine.Config.Json
import HttpEngine.Config.Path

/-!
# Server settings

Settings come from a configuration file and from environment variables with the
prefix of the server, which win over the file.  Names in the file are written in
lower case, those of variables in any case.  A name may be a path, and then
makes a table or an array of the setting that it leads into, which no setting
can be.  What is set nowhere has a default, some of them in terms of the number
of processors.
-/

namespace HttpEngine

/-- A number of threads, or a multiple of the number of processors. -/
inductive ThreadCount where
  | fixed (count : Nat)
  | perProcessor (factor : Nat)
  deriving DecidableEq, Repr

structure Settings where
  host : String
  port : Nat
  ioWorkers : ThreadCount
  maxWorkers : ThreadCount
  keepAliveSeconds : Nat
  maxRequestSize : Int
  maxMultipartRequestSize : Int
  chunkCapacity : Nat
  keepAlive : Bool
  halfClose : Bool
  maxBufferSize : Nat
  titleCaseHeaders : Bool
  deriving DecidableEq, Repr

namespace Settings

def standard : Settings where
  host := "127.0.0.1"
  port := 3000
  ioWorkers := .perProcessor 1
  maxWorkers := .perProcessor 15
  keepAliveSeconds := 6
  maxRequestSize := 10 * 1024 * 1024
  maxMultipartRequestSize := 50 * 1024 * 1024
  chunkCapacity := 1024
  keepAlive := true
  halfClose := false
  maxBufferSize := 524288
  titleCaseHeaders := false

def address (settings : Settings) : String :=
  settings.host ++ ":" ++ toString settings.port

/-- A negative limit is none. -/
def limit (value : Int) : Option Nat :=
  if value < 0 then none else some value.toNat

def bodyLimits (settings : Settings) : BodyLimits :=
  ⟨limit settings.maxRequestSize, limit settings.maxMultipartRequestSize⟩

/-! ## Conversion -/

/-- Values under names. -/
abbrev Entries : Type := List (String × ConfigValue)

/-- A setting converted to what it has to be; `none` when it cannot be. -/
def read? {α : Type} (entries : Entries) (name : String)
    (convert : ConfigValue → Option α) (fallback : α) : Option α :=
  match entries.lookup name with
  | none => some fallback
  | some value => convert value

/-- A natural number of 64 bits. -/
def toWord? (value : ConfigValue) : Option Nat :=
  (value.toInteger? ConfigValue.word64).map Int.toNat

/-- A port keeps the low 16 bits of the number given for it. -/
def toPort? (value : ConfigValue) : Option Nat :=
  (toWord? value).map (· % 65536)

def toThreads? (value : ConfigValue) : Option ThreadCount :=
  (toWord? value).map .fixed

def toInt64? (value : ConfigValue) : Option Int :=
  value.toInteger? ConfigValue.int64

def convert? (entries : Entries) : Option Settings := do
  some {
    host := ← read? entries "host" ConfigValue.toText? standard.host
    port := ← read? entries "port" toPort? standard.port
    ioWorkers := ← read? entries "io_workers" toThreads? standard.ioWorkers
    maxWorkers := ← read? entries "max_workers" toThreads? standard.maxWorkers
    keepAliveSeconds :=
      ← read? entries "worker_keep_alive_secs" toWord? standard.keepAliveSeconds
    maxRequestSize :=
      ← read? entries "max_request_size" toInt64? standard.maxRequestSize
    maxMultipartRequestSize :=
      ← read? entries "max_multipart_request_size" toInt64?
        standard.maxMultipartRequestSize
    chunkCapacity :=
      ← read? entries "chunk_capacity" toWord? standard.chunkCapacity
    keepAlive :=
      ← read? entries "http1_keep_alive" ConfigValue.toTruth? standard.keepAlive
    halfClose :=
      ← read? entries "http1_half_close" ConfigValue.toTruth? standard.halfClose
    maxBufferSize :=
      ← read? entries "http1_max_buf_size" toWord? standard.maxBufferSize
    titleCaseHeaders :=
      ← read? entries "http1_title_case_headers" ConfigValue.toTruth?
        standard.titleCaseHeaders
  }

/-! ## Sources -/

/-- Why no settings can be loaded. -/
inductive Fault where
  /-- A variable has a name or a value that none can have. -/
  | environment
  /-- The file is not one JSON value. -/
  | file
  /-- A path leads to a place that no array has. -/
  | path
  /-- A value is not what its setting has to be. -/
  | value
  deriving DecidableEq, Repr

/-- What the names of variables for the server start with. -/
def variablePrefix : List Char := "ferrite_".toList

/-- The entry that a variable makes. -/
def entryOfVariable? (name value : String) : Option (String × ConfigValue) :=
  (Sequence.dropPrefix? variablePrefix (Text.lowerName name.toList)).map
    fun rest =>
    (String.ofList rest, .text value)

def entriesOfEnvironment (environment : Environment) : Entries :=
  environment.bindings.filterMap fun (name, value) =>
    entryOfVariable? name value

/-- The settings that entries make, each set after those before it. -/
def ofEntries (entries : Entries) : Except Fault Settings :=
  let root? :=
    entries.foldlM (fun root entry =>
      entry.2.set? (PathStep.ofName entry.1) root)
    (ConfigValue.table [])
  match root? with
  | none => .error .path
  | some root => (convert? root.entries).elim (.error .value) .ok

/-- Loads the settings from an environment, an environment file and a
configuration file. -/
def load (bindings : List (String × String)) (dotenv file : Option String) :
    Except Fault Settings := do
  let loaded := do
    let environment ← Environment.ofList? bindings
    match dotenv with
    | none => some environment
    | some text => Dotenv.load? environment text
  let environment ← loaded.elim (.error .environment) .ok
  let fileEntries ←
    match file with
    | none => .ok []
    | some text =>
        ((Json.parse? text).map (·.entries.reverse)).elim (.error .file) .ok
  ofEntries (fileEntries ++ entriesOfEnvironment environment)

/-- A value written as a file and read again. -/
def reread (value : ConfigValue) : ConfigValue :=
  match value with
  | .fraction number => (number.reread?.map ConfigValue.fraction).getD value
  | _ => value

/-- The settings that the entries of a value make when they are written as a
file. -/
def ofValue (value : ConfigValue) : Except Fault Settings :=
  ofEntries (value.entries.reverse.map fun (name, entry) =>
    (name, reread entry))

end Settings

end HttpEngine
