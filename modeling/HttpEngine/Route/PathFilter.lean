import HttpEngine.Handler
import HttpEngine.Route.Glob

/-!
# Filters for some paths

A path filter runs its filter for the paths that no exclude matches and that an
include matches, or for all of them when there are no includes.
-/

namespace HttpEngine

structure PathSelection where
  includes : List String
  excludes : List String
  deriving DecidableEq, Repr

namespace PathSelection

def appliesTo (selection : PathSelection) (path : String) : Bool :=
  !selection.excludes.any (Glob.isMatch · path) &&
    (selection.includes.isEmpty || selection.includes.any (Glob.isMatch · path))

/-- The filter in front of the selected paths only. -/
def filter {σ : Type} (selection : PathSelection) (inner : Filter σ) :
    Filter σ :=
  fun request next =>
    if selection.appliesTo request.path then inner request next
    else next request

end PathSelection

end HttpEngine
