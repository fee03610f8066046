import HttpEngine.Bytes

/-!
# Methods and versions

Methods are compared by name; names outside the registry are methods too.
-/

namespace HttpEngine

structure Method where
  name : String
  deriving DecidableEq, Repr

namespace Method

def get : Method := ⟨"GET"⟩
def head : Method := ⟨"HEAD"⟩
def post : Method := ⟨"POST"⟩
def put : Method := ⟨"PUT"⟩
def patch : Method := ⟨"PATCH"⟩
def options : Method := ⟨"OPTIONS"⟩

/-- Methods whose requests have a body that is decoded. -/
def carriesBody (method : Method) : Bool :=
  method == post || method == put || method == patch

end Method

inductive Version where
  | http09
  | http10
  | http11
  | http2
  deriving DecidableEq, Repr

def Version.render : Version → String
  | .http09 => "HTTP/0.9"
  | .http10 => "HTTP/1.0"
  | .http11 => "HTTP/1.1"
  | .http2 => "HTTP/2.0"

end HttpEngine
