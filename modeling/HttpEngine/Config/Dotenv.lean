import HttpEngine.Bytes
import HttpEngine.Text.Alphanumeric
import HttpEngine.Text.Blank

/-!
# Environment files

A file of this kind sets variables, one in a line, unless they are set already.
A line may start with `export`.  Values may be quoted, strongly or weakly, hold
escapes and refer to variables, and a comment may follow after a blank.  The
first line that cannot be read ends the file.  A variable that cannot be set
makes the whole file fail.
-/

namespace HttpEngine

/-- Variables in the order in which they were first set. -/
structure Environment where
  bindings : List (String × String)
  deriving DecidableEq, Repr

namespace Environment

def get? (environment : Environment) (name : String) : Option String :=
  environment.bindings.lookup name

/-- Sets a variable; one that is set already keeps its place. -/
def set (environment : Environment) (name value : String) : Environment :=
  if (environment.get? name).isSome then
    ⟨environment.bindings.map fun entry =>
      if entry.1 == name then (name, value) else entry⟩
  else ⟨environment.bindings ++ [(name, value)]⟩

/-- A name is not empty and holds no equals sign, and neither it nor a value
holds a zero. -/
def isSettable (name value : String) : Bool :=
  !name.isEmpty && !name.toList.contains '=' &&
    (name.toList ++ value.toList).all fun character => character.toNat != 0

def set? (environment : Environment) (name value : String) :
    Option Environment :=
  if isSettable name value then some (environment.set name value) else none

def ofList? (bindings : List (String × String)) : Option Environment :=
  bindings.foldlM (fun environment (name, value) =>
    environment.set? name value) ⟨[]⟩

end Environment

namespace Dotenv

/-! ## Values -/

inductive Quoting where
  | none
  | strong
  | weak
  deriving DecidableEq, Repr

/-- Whether a reference to a variable is being read, plain or in braces. -/
inductive Reference where
  | none
  | plain
  | braced
  deriving DecidableEq, Repr

structure ValueScan where
  quoting : Quoting
  escaped : Bool
  /-- A blank has ended the value, and only a comment may follow. -/
  ended : Bool
  /-- A comment has begun. -/
  comment : Bool
  reference : Reference
  name : List Char
  /-- The value so far, its last character first. -/
  output : List Char
  deriving DecidableEq, Repr

namespace ValueScan

def start : ValueScan := ⟨.none, false, false, false, .none, [], []⟩

def push (scan : ValueScan) (text : List Char) : ValueScan :=
  { scan with output := text.reverse ++ scan.output }

/-- Puts the value of the variable that was referred to in its place. -/
def substitute (lookup : String → String) (scan : ValueScan) : ValueScan :=
  { scan.push (lookup (String.ofList scan.name)).toList with
    name := [], reference := .none }

def stepReference (lookup : String → String) (scan : ValueScan)
    (character : Char) : ValueScan :=
  if Text.isAlphanumeric character then
    { scan with name := scan.name ++ [character] }
  else if scan.reference = .braced then
    if character = Char.ofNat 0x7D then scan.substitute lookup
    else { scan with name := scan.name ++ [character] }
  else if character = Char.ofNat 0x7B ∧ scan.name = [] then
    { scan with reference := .braced }
  else
    let scan := scan.substitute lookup
    if character = '$' then { scan with reference := .plain }
    else scan.push [character]

def stepEscaped? (scan : ValueScan) (character : Char) : Option ValueScan :=
  let scan := { scan with escaped := false }
  if [39, 34, 36, 32, 92].contains character.toNat then
    some (scan.push [character])
  else if character = 'n' then some (scan.push ['\n'])
  else none

def stepPlain (scan : ValueScan) (character : Char) : ValueScan :=
  if character = '$' then { scan with reference := .plain }
  else if scan.quoting = .weak then
    if character = '"' then { scan with quoting := .none }
    else if character.toNat = 92 then { scan with escaped := true }
    else scan.push [character]
  else if character.toNat = 39 then { scan with quoting := .strong }
  else if character = '"' then { scan with quoting := .weak }
  else if character.toNat = 92 then { scan with escaped := true }
  else if character = ' ' ∨ character = '\t' then { scan with ended := true }
  else scan.push [character]

def step? (lookup : String → String) (scan : ValueScan) (character : Char) :
    Option ValueScan :=
  if scan.comment then some scan
  else if scan.ended then
    if character = ' ' ∨ character = '\t' then some scan
    else if character = '#' then some { scan with comment := true }
    else none
  else if scan.escaped then scan.stepEscaped? character
  else if scan.quoting = .strong then
    some
      (if character.toNat = 39 then { scan with quoting := .none }
        else scan.push [character])
  else if scan.reference ≠ .none then some (scan.stepReference lookup character)
  else some (scan.stepPlain character)

end ValueScan

def parseValue? (lookup : String → String) (text : List Char) : Option String :=
  do
  let scan ← text.foldlM (ValueScan.step? lookup) ValueScan.start
  if scan.reference = .braced ∨ scan.quoting ≠ .none then none
  else some (String.ofList (scan.substitute lookup).output.reverse)

/-! ## Lines -/

def isKeyStart (character : Char) : Bool :=
  character.isAlpha || character == '_'

def isKeyChar (character : Char) : Bool :=
  character.isAlphanum || character == '_' || character == '.'

/-- A key at the front of a text, and what follows it and the blanks
after it. -/
def parseKey? (text : List Char) : Option (String × List Char) :=
  match text with
  | first :: _ =>
      if isKeyStart first then
        let key := text.takeWhile isKeyChar
        some (String.ofList key, (text.drop key.length).dropWhile Text.isBlank)
      else none
  | [] => none

/-- The key of an assignment and the text of its value. -/
def parseAssignment? (line : List Char) : Option (String × List Char) := do
  let (key, rest) ← parseKey? line
  match rest with
  | '=' :: rest => some (key, rest)
  | _ =>
      if key = "export" then do
        let (key, rest) ← parseKey? rest
        match rest with
        | '=' :: rest => some (key, rest)
        | _ => none
      else none

/-- Reading stands with these variables set, and with these values read
so far. -/
structure Reading where
  environment : Environment
  earlier : List (String × String)
  deriving DecidableEq, Repr

/-- A variable of the environment wins over one read earlier; a missing one is
empty. -/
def Reading.lookup (reading : Reading) (name : String) : String :=
  match reading.environment.get? name with
  | some value => value
  | none => (reading.earlier.lookup name).getD ""

/-- Notes a value, and sets the variable to it unless it is set already. -/
def Reading.assign? (reading : Reading) (name value : String) :
    Option Reading := do
  let environment ←
    if (reading.environment.get? name).isSome then some reading.environment
    else reading.environment.set? name value
  some ⟨environment, (name, value) :: reading.earlier⟩

def isIgnored (text : List Char) : Bool :=
  text.isEmpty || text.head? == some '#'

/-- What a line sets, if it sets anything; `none` when it cannot be read. -/
def parseLine? (lookup : String → String) (line : List Char) :
    Option (Option (String × String)) :=
  let line := Text.trim line
  if isIgnored line then some none
  else do
    let (key, rest) ← parseAssignment? line
    let rest := rest.dropWhile Text.isBlank
    if isIgnored rest then some (some (key, ""))
    else
      let value ← parseValue? lookup rest
      some (some (key, value))

/-- Reads lines up to the first one that cannot be read. -/
def readLines? (reading : Reading) : List (List Char) → Option Reading
  | [] => some reading
  | line :: rest =>
      match parseLine? reading.lookup line with
      | none => some reading
      | some none => readLines? reading rest
      | some (some (name, value)) =>
          do readLines? (← reading.assign? name value) rest

/-- The environment after the file was read. -/
def load? (environment : Environment) (file : String) : Option Environment :=
  (readLines? ⟨environment, []⟩ (file.toList.splitOn '\n')).map
    Reading.environment

end Dotenv

end HttpEngine
