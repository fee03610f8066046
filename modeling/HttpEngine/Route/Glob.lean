/-!
# Path globs

A glob is read from the left into tokens, the longest one first: an optional
subtree (`/**`), a run of any text (`**`), a run within a segment (`*`), one
character of a segment (`?`), or a literal character.  A path matches when it is
made of one piece for each token, which is how an anchored regular expression is
documented to match: the tokens stand for `(?:/.*)?`, `.*`, `[^/]*`, `[^/]` and
the character itself, where the dot is any character but a line feed.  The
positions in the path that a glob can reach are followed side by side, so that
matching takes no more steps than the product of both lengths.
-/

namespace HttpEngine

inductive GlobToken where
  | subtree
  | anything
  | segmentRun
  | segmentChar
  | literal (character : Char)
  deriving DecidableEq, Repr

namespace Glob

def tokens : List Char → List GlobToken
  | '/' :: '*' :: '*' :: rest => .subtree :: tokens rest
  | '*' :: '*' :: rest => .anything :: tokens rest
  | '*' :: rest => .segmentRun :: tokens rest
  | '?' :: rest => .segmentChar :: tokens rest
  | character :: rest => .literal character :: tokens rest
  | [] => []

/-! ## Matching

`reach tokens` maps the suffixes of a path at which matching may stand to
whether the whole of one of them is made of pieces for the tokens.  The suffixes
are given as one flag for each position, the last one for the end of the
path. -/

/-- Passes flags on to the right for as long as the characters between
allow it. -/
def spread (allowed : Char → Bool) : List Char → Bool → List Bool → List Bool
  | _, carried, [] => if carried then [true] else []
  | [], carried, flag :: _ => [carried || flag]
  | character :: path, carried, flag :: flags =>
      let here := carried || flag
      here :: spread allowed path (here && allowed character) flags

/-- Moves flags over exactly one character. -/
def advance (allowed : Char → Bool) (path : List Char) (flags : List Bool) :
    List Bool :=
  false :: (List.zip path flags).map fun (character, flag) =>
    flag && allowed character

def isRunChar (character : Char) : Bool := character != '\n'

def isSegmentChar (character : Char) : Bool := character != '/'

/-- The positions reached after one token. -/
def step (path : List Char) (flags : List Bool) : GlobToken → List Bool
  | .literal character => advance (· == character) path flags
  | .segmentChar => advance isSegmentChar path flags
  | .segmentRun => spread isSegmentChar path false flags
  | .anything => spread isRunChar path false flags
  | .subtree =>
      List.zipWith (· || ·) flags
        (spread isRunChar path false (advance (· == '/') path flags))

/-- At first only the beginning of the path is reached. -/
def start (path : List Char) : List Bool := true :: path.map fun _ => false

def matchTokens (tokens : List GlobToken) (path : List Char) : Bool :=
  (tokens.foldl (step path) (start path)).getLastD false

def isMatch (glob path : String) : Bool :=
  matchTokens (tokens glob.toList) path.toList

end Glob

end HttpEngine
