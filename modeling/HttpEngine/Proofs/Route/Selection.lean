import HttpEngine.Proofs.Route.Glob
import HttpEngine.Route.PathFilter

/-!
# Which paths a filter selects

A glob is read from the left, at every place as the longest wildcard that begins
there and otherwise as one literal character.  There is one such reading of each
glob.  A filter for some paths applies to a path that none of its excludes
matches, when it has no includes or one of them matches.
-/

namespace HttpEngine

/-- The token as it stands in a glob. -/
def GlobToken.spelling : GlobToken → List Char
  | .subtree => ['/', '*', '*']
  | .anything => ['*', '*']
  | .segmentRun => ['*']
  | .segmentChar => ['?']
  | .literal character => [character]

namespace Glob

/-! ## Reading globs -/

def wildcards : List GlobToken :=
  [.subtree, .anything, .segmentRun, .segmentChar]

/-- In front of the rest the token is a wildcard, and no longer one begins
there. -/
def IsLongest (token : GlobToken) (rest : List Char) : Prop :=
  token ∈ wildcards ∧ ∀ other ∈ wildcards,
    other.spelling <+: token.spelling ++ rest →
    other.spelling.length ≤ token.spelling.length

/-- The glob, read from the left, is made of these tokens. -/
inductive Scans : List Char → List GlobToken → Prop where
  | nil : Scans [] []
  | wildcard {token : GlobToken} {rest : List Char} {tokens : List GlobToken}
      (hlongest : IsLongest token rest) (hrest_scanned : Scans rest tokens) :
      Scans (token.spelling ++ rest) (token :: tokens)
  | literal {character : Char} {rest : List Char} {tokens : List GlobToken}
      (hplain : ∀ other ∈ wildcards, ¬ other.spelling <+: character :: rest)
      (hrest_scanned : Scans rest tokens) :
      Scans (character :: rest) (.literal character :: tokens)

theorem forall_mem_wildcards_iff {holds : GlobToken → Prop} :
    (∀ token ∈ wildcards, holds token) ↔
      holds .subtree ∧ holds .anything ∧ holds .segmentRun ∧
      holds .segmentChar := by
  simp [wildcards]

theorem isLongest_iff {token : GlobToken} {rest : List Char} :
    IsLongest token rest ↔
      token = .subtree ∨ token = .anything ∨
      (token = .segmentRun ∧ ∀ more, rest ≠ '*' :: more) ∨
        token = .segmentChar := by
  constructor
  · rintro ⟨hmem, hlongest⟩
    simp only [wildcards, List.mem_cons, List.not_mem_nil, or_false] at hmem
    rcases hmem with rfl | rfl | rfl | rfl
    · exact .inl rfl
    · exact .inr (.inl rfl)
    · refine .inr (.inr (.inl ⟨rfl, ?_⟩))
      rintro more rfl
      -- One more star makes the run of a segment a run of any text.
      have hlength := hlongest .anything (by simp [wildcards]) ⟨more, rfl⟩
      simp [GlobToken.spelling] at hlength
    · exact .inr (.inr (.inr rfl))
  · have hstar : ['*'] <+: rest ↔ ∃ more, rest = '*' :: more :=
      exists_congr fun more => eq_comm
    rintro (rfl | rfl | ⟨rfl, hrest⟩ | rfl) <;>
      simp_all [IsLongest, wildcards, GlobToken.spelling]

theorem forall_not_wildcard_iff {character : Char} {rest : List Char} :
    (∀ other ∈ wildcards, ¬ other.spelling <+: character :: rest) ↔
      (character = '/' → ∀ more, rest ≠ '*' :: '*' :: more) ∧ character ≠ '*' ∧
        character ≠ '?' := by
  have hstars : ['*', '*'] <+: rest ↔ ∃ more, rest = '*' :: '*' :: more :=
    exists_congr fun more => eq_comm
  simp only [forall_mem_wildcards_iff, GlobToken.spelling,
    List.cons_prefix_cons, hstars, List.nil_prefix, and_true]
  constructor
  · rintro ⟨hsubtree, -, hstar, hquestion⟩
    refine ⟨?_, Ne.symm hstar, Ne.symm hquestion⟩
    rintro rfl more hmore
    exact hsubtree ⟨rfl, more, hmore⟩
  · rintro ⟨hsubtree, hstar, hquestion⟩
    refine ⟨?_, fun h => hstar h.1.symm, Ne.symm hstar, Ne.symm hquestion⟩
    rintro ⟨rfl, more, hmore⟩
    exact hsubtree rfl more hmore

theorem scans_tokens (glob : List Char) : Scans glob (tokens glob) := by
  fun_induction tokens glob with
  | case1 rest ih => exact .wildcard (isLongest_iff.2 (.inl rfl)) ih
  | case2 rest ih => exact .wildcard (isLongest_iff.2 (.inr (.inl rfl))) ih
  | case3 rest hrest ih =>
      exact .wildcard (isLongest_iff.2 (.inr (.inr (.inl ⟨rfl, hrest⟩)))) ih
  | case4 rest ih =>
      exact .wildcard (isLongest_iff.2 (.inr (.inr (.inr rfl)))) ih
  | case5 character rest hsubtree _ hstar hquestion ih =>
      exact .literal (forall_not_wildcard_iff.2
        ⟨fun hslash more => hsubtree more hslash, hstar, hquestion⟩) ih
  | case6 => exact .nil

theorem Scans.eq_tokens {glob : List Char} {read : List GlobToken}
    (h : Scans glob read) :
    read = tokens glob := by
  induction h with
  | nil => rfl
  | @wildcard token rest read hlongest _ ih =>
      subst ih
      obtain rfl | rfl | ⟨rfl, hrest⟩ | rfl := isLongest_iff.1 hlongest
      · rfl
      · rfl
      · change _ = tokens ('*' :: rest)
        rw [tokens]
        exact hrest
      · rfl
  | @literal character rest read hplain _ ih =>
      obtain ⟨hsubtree, hstar, hquestion⟩ := forall_not_wildcard_iff.1 hplain
      rw [ih, tokens]
      · exact fun more hslash => hsubtree hslash more
      · exact fun more h => absurd h hstar
      · exact hstar
      · exact hquestion

theorem scans_iff {glob : List Char} {read : List GlobToken} :
    Scans glob read ↔ tokens glob = read := by
  constructor
  · exact fun h => h.eq_tokens.symm
  · rintro rfl
    exact scans_tokens glob

example : tokens "a/***".toList = [.literal 'a', .subtree, .segmentRun] := by
    decide

/-- Read from the left the glob has tokens of which the path is made, one piece
for each. -/
def Selects (glob path : String) : Prop :=
  ∃ tokens, Scans glob.toList tokens ∧ Covers tokens path.toList

theorem isMatch_iff_selects {glob path : String} :
    isMatch glob path = true ↔ Selects glob path := by
  simp only [isMatch_iff, Selects, scans_iff, exists_eq_left']

end Glob

/-- A filter applies to a path exactly when no exclude matches it, and there are
no includes or one of them matches it. -/
theorem PathSelection.appliesTo_iff_selects (selection : PathSelection)
    (path : String) :
    selection.appliesTo path = true ↔
      (∀ glob ∈ selection.excludes, ¬ Glob.Selects glob path) ∧
        (selection.includes = [] ∨ ∃ glob ∈ selection.includes,
          Glob.Selects glob path) := by
  simp only [← Glob.isMatch_iff_selects]
  simp [appliesTo]

end HttpEngine
