import HttpEngine.Response

/-!
# Server-sent events

An event has data and may have a name and an id.  It is written as fields of one
line each, the data as one field for each of its lines, and ends with a blank
line.
-/

namespace HttpEngine

structure Event where
  name : Option String
  id : Option String
  data : String
  deriving DecidableEq, Repr

namespace Event

/-! ## Lines -/

/-- The lines of a text, which end at CRLF, LF or CR; the text after the last
end is a line too. -/
def lines : List Char → List (List Char)
  | [] => [[]]
  | '\r' :: '\n' :: rest => [] :: lines rest
  | character :: rest =>
      if character = '\n' ∨ character = '\r' then [] :: lines rest
      else (lines rest).modifyHead (character :: ·)

/-! ## Wire text -/

def field (name : String) (value : List Char) : List Char :=
  name.toList ++ [':', ' '] ++ value ++ ['\n']

def optionalField (name : String) : Option String → List Char
  | none => []
  | some value => field name value.toList

def wireChars (event : Event) : List Char :=
  optionalField "event" event.name ++ optionalField "id" event.id ++
    (lines event.data.toList).flatMap (field "data") ++ ['\n']

def wireText (event : Event) : String := String.ofList event.wireChars

def wireBytes (event : Event) : Bytes := Utf8.encode event.wireChars

/-! ## Responses -/

/-- The head of a response whose body is a stream of events. -/
def streamResponse : Response :=
  { Response.ok.withType "text/event-stream" with
    headers :=
      (Response.ok.withType "text/event-stream").headers.insert "cache-control"
      (Utf8.ofString "no-cache") }

end Event

end HttpEngine
