/-!
# Kinds of errors

The kinds form a tree under `any`.  The distance from a kind to another one
counts the steps up to it and exists for ancestors only.
-/

namespace HttpEngine

inductive ErrorKind where
  | any
  | request
  | invalidParameter
  | body
  | response
  | internal
  | io
  | transport
  | application
  | panic
  deriving DecidableEq, Repr

namespace ErrorKind

def all : List ErrorKind :=
  [.any, .request, .invalidParameter, .body, .response, .internal, .io,
    .transport, .application, .panic]

def name : ErrorKind → String
  | .any => "Any"
  | .request => "Request"
  | .invalidParameter => "InvalidParameter"
  | .body => "Body"
  | .response => "Response"
  | .internal => "Internal"
  | .io => "Io"
  | .transport => "Transport"
  | .application => "Application"
  | .panic => "Panic"

def parent? : ErrorKind → Option ErrorKind
  | .any => none
  | .request | .response | .internal => some .any
  | .invalidParameter | .body => some .request
  | .io | .transport | .application | .panic => some .internal

/-- The steps from the root down to a kind. -/
def depth : ErrorKind → Nat
  | .any => 0
  | .request | .response | .internal => 1
  | .invalidParameter | .body | .io | .transport | .application | .panic => 2

theorem depth_parent? {kind parent : ErrorKind}
    (h : kind.parent? = some parent) :
    parent.depth < kind.depth := by
  cases kind <;> simp only [parent?, reduceCtorEq, Option.some.injEq]
    at h <;> subst h <;> decide

/-- The number of steps up from `kind` to `ancestor`. -/
def distance? (kind ancestor : ErrorKind) : Option Nat :=
  if kind = ancestor then some 0
  else
    match _h : kind.parent? with
    | none => none
    | some parent => (distance? parent ancestor).map (· + 1)
termination_by kind.depth
decreasing_by exact depth_parent? _h

end ErrorKind

end HttpEngine
