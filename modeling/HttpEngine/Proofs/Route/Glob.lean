import HttpEngine.Route.Glob

/-!
# What a glob matches

A path matches a glob exactly when it can be cut into one piece for each token.
Matching keeps a flag for every position of the path; the invariant says of each
flag that it is up when the part of the path before it is made of pieces for the
tokens that were read.
-/

namespace HttpEngine

def GlobToken.Takes : GlobToken → List Char → Prop
  | .literal character, piece => piece = [character]
  | .segmentChar, piece => ∃ character, piece = [character] ∧ character ≠ '/'
  | .segmentRun, piece => '/' ∉ piece
  | .anything, piece => '\n' ∉ piece
  | .subtree, piece => piece = [] ∨ ∃ run, piece = '/' :: run ∧ '\n' ∉ run

namespace Glob

/-- The path is made of one piece for each token. -/
inductive Covers : List GlobToken → List Char → Prop where
  | nil : Covers [] []
  | cons {token : GlobToken} {tokens : List GlobToken} {piece path : List Char}
      (hpiece_taken : token.Takes piece) (hpath_covered : Covers tokens path) :
      Covers (token :: tokens) (piece ++ path)

theorem covers_nil_iff {path : List Char} : Covers [] path ↔ path = [] := by
  constructor
  · rintro ⟨⟩
    rfl
  · rintro rfl
    exact .nil

theorem covers_cons_iff {token : GlobToken} {tokens : List GlobToken}
    {path : List Char} :
    Covers (token :: tokens) path ↔
      ∃ piece rest, path = piece ++ rest ∧ token.Takes piece ∧
        Covers tokens rest := by
  constructor
  · rintro ⟨⟩
    next piece rest hpiece hrest => exact ⟨piece, rest, rfl, hpiece, hrest⟩
  · rintro ⟨piece, rest, rfl, hpiece, hrest⟩
    exact .cons hpiece hrest

/-! ## Flags -/

/-- Behind `seen` there is one flag for each position, up where all before it is
reached. -/
inductive Marks (reached : List Char → Prop) : List Char → List Char →
    List Bool → Prop where
  | last {seen : List Char} {flag : Bool}
      (hisUp_iff : flag = true ↔ reached seen) :
      Marks reached seen [] [flag]
  | cons {seen path : List Char} {character : Char} {flag : Bool}
      {flags : List Bool} (hisUp_iff : flag = true ↔ reached seen)
      (hrest : Marks reached (seen ++ [character]) path flags) :
      Marks reached seen (character :: path) (flag :: flags)

section

variable {reached alsoReached : List Char → Prop} {seen path : List Char}
  {flags others : List Bool}

theorem Marks.congr (h : Marks reached seen path flags)
    (heq : ∀ before, reached before ↔ alsoReached before) :
    Marks alsoReached seen path flags := by
  induction h with
  | last hup => exact .last (hup.trans (heq _))
  | cons hup _ ih => exact .cons (hup.trans (heq _)) ih

theorem Marks.getLastD_iff (h : Marks reached seen path flags) :
    flags.getLastD false = true ↔ reached (seen ++ path) := by
  induction h with
  | last hup => simpa using hup
  | @cons seen path character flag flags _ hrest ih =>
      cases hrest <;> simpa using ih

theorem Marks.or (h : Marks reached seen path flags)
    (hothers : Marks alsoReached seen path others) :
    Marks (fun before => reached before ∨ alsoReached before) seen path
      (List.zipWith (· || ·) flags others) := by
  induction h generalizing others with
  | last hup =>
      cases hothers with
      | last hother => exact .last (by simp [hup, hother])
  | cons hup _ ih =>
      cases hothers with
      | cons hother hrest => exact .cons (by simp [hup, hother]) (ih hrest)

/-! ## Moving flags -/

theorem marks_down (h : seen ≠ []) :
    Marks (· = []) seen path ((start path).map fun _ => false) := by
  induction path generalizing seen with
  | nil => exact .last (by simp [h])
  | cons character path ih =>
      exact .cons (by simp [h]) (by simpa [start] using ih (by simp))

theorem marks_start (path : List Char) :
    Marks (· = []) [] path (start path) := by
  cases path with
  | nil => exact .last (by simp)
  | cons character path =>
      have hrest :
          Marks (· = []) [character] path ((start path).map fun _ => false) :=
        marks_down (by simp)
      exact .cons (by simp) (by simpa [start] using hrest)

theorem Marks.advance_rest {allowed : Char → Bool} {flag : Bool}
    (h : Marks reached seen path flags)
    (hnext : ∀ before character,
      alsoReached (before ++ [character]) ↔
      reached before ∧ allowed character = true)
    (hup : flag = true ↔ alsoReached seen) :
    Marks alsoReached seen path
      (flag :: (List.zip path flags).map fun (character, flag) => flag &&
        allowed character) := by
  induction h generalizing flag with
  | last => exact .last hup
  | cons hflag _ ih => exact .cons hup (ih (by simp [hnext, hflag]))

theorem Marks.advance (h : Marks reached [] path flags)
    (allowed : Char → Bool) :
    Marks (fun before => ∃ earlier character,
        before = earlier ++ [character] ∧ reached earlier ∧
        allowed character = true)
      [] path (advance allowed path flags) := by
  refine h.advance_rest (fun before character => ?_) (by simp)
  constructor
  · rintro ⟨earlier, last, hbefore, hearlier, hallowed⟩
    obtain ⟨rfl, hlast⟩ := List.append_inj' hbefore rfl
    obtain rfl := List.cons.inj hlast |>.1
    exact ⟨hearlier, hallowed⟩
  · rintro ⟨hbefore, hallowed⟩
    exact ⟨before, character, rfl, hbefore, hallowed⟩

/-- A flag is up here, or was up before and all characters since then have let
it pass. -/
def Spreads (reached : List Char → Prop) (allowed : Char → Bool)
    (before : List Char) : Prop :=
  ∃ earlier piece, before = earlier ++ piece ∧ reached earlier ∧
    piece.all allowed = true

theorem spreads_nil_iff {allowed : Char → Bool} :
    Spreads reached allowed [] ↔ reached [] := by
  simp [Spreads, and_assoc]

theorem spreads_append_singleton_iff {allowed : Char → Bool}
    {before : List Char} {character : Char} :
    Spreads reached allowed (before ++ [character]) ↔
      reached (before ++ [character]) ∨
        Spreads reached allowed before ∧ allowed character = true := by
  constructor
  · rintro ⟨earlier, piece, hbefore, hearlier, hall⟩
    rcases List.eq_nil_or_concat piece with rfl | ⟨front, last, rfl⟩
    · rw [List.append_nil] at hbefore
      exact .inl (hbefore ▸ hearlier)
    · rw [List.concat_eq_append, ← List.append_assoc] at hbefore
      obtain ⟨rfl, hlast⟩ := List.append_inj' hbefore rfl
      obtain rfl := (List.cons.inj hlast).1
      simp only [List.concat_eq_append, List.all_append, List.all_cons,
        List.all_nil, Bool.and_true, Bool.and_eq_true] at hall
      exact .inr ⟨⟨earlier, front, rfl, hearlier, hall.1⟩, hall.2⟩
  · rintro (hhere | ⟨⟨earlier, piece, rfl, hearlier, hall⟩, hallowed⟩)
    · exact ⟨before ++ [character], [], by simp, hhere, rfl⟩
    · exact ⟨earlier, piece ++ [character],
        by simp, hearlier, by simp [hall, hallowed]⟩

theorem Marks.spread_rest {allowed : Char → Bool} {carried : Bool}
    (h : Marks reached seen path flags)
    (hcarried : Spreads reached allowed seen ↔ reached seen ∨ carried = true) :
    Marks (Spreads reached allowed) seen path
      (spread allowed path carried flags) := by
  induction h generalizing carried with
  | last hup => exact .last (by simp [hcarried, hup, or_comm])
  | cons hup _ ih =>
      refine .cons (by simp [hcarried, hup, or_comm]) (ih ?_)
      simp [spreads_append_singleton_iff, hcarried, hup, or_comm]

theorem Marks.spread (h : Marks reached [] path flags) (allowed : Char → Bool) :
    Marks (Spreads reached allowed) [] path (spread allowed path false flags) :=
  h.spread_rest (by simp [spreads_nil_iff])

/-! ## Tokens -/

/-- Where one more token leads. -/
def Follows (reached : List Char → Prop) (token : GlobToken)
    (before : List Char) : Prop :=
  ∃ earlier piece, before = earlier ++ piece ∧ reached earlier ∧
    token.Takes piece

theorem takes_segmentRun_iff {piece : List Char} :
    GlobToken.segmentRun.Takes piece ↔ piece.all isSegmentChar = true := by
  simp [GlobToken.Takes, isSegmentChar, List.all_eq_true, List.forall_mem_ne']

theorem takes_anything_iff {piece : List Char} :
    GlobToken.anything.Takes piece ↔ piece.all isRunChar = true := by
  simp [GlobToken.Takes, isRunChar, List.all_eq_true, List.forall_mem_ne']

theorem marks_step (h : Marks reached [] path flags) (token : GlobToken) :
    Marks (Follows reached token) [] path (step path flags token) := by
  cases token with
  | literal character =>
      exact (h.advance (· == character)).congr fun before => by
        simp [Follows, GlobToken.Takes]
  | segmentChar =>
      refine (h.advance isSegmentChar).congr fun before => ?_
      constructor
      · rintro ⟨earlier, character, rfl, hearlier, hallowed⟩
        exact ⟨earlier, [character], rfl, hearlier, character, rfl,
          bne_iff_ne.1 hallowed⟩
      · rintro ⟨earlier, _, rfl, hearlier, character, rfl, hslash⟩
        exact ⟨earlier, character, rfl, hearlier, bne_iff_ne.2 hslash⟩
  | segmentRun =>
      exact (h.spread isSegmentChar).congr fun before => by
        simp [Follows, Spreads, takes_segmentRun_iff]
  | anything =>
      exact (h.spread isRunChar).congr fun before => by
        simp [Follows, Spreads, takes_anything_iff]
  | subtree =>
      refine (h.or ((h.advance (· == '/')).spread isRunChar)).congr
        fun before => ?_
      constructor
      · rintro (hbefore
          | ⟨_, run, rfl, ⟨earlier, slash, rfl, hearlier, hslash⟩, hall⟩)
        · exact ⟨before, [], by simp, hbefore, .inl rfl⟩
        · obtain rfl := beq_iff_eq.1 hslash
          exact ⟨earlier, '/' :: run, by simp, hearlier,
            .inr ⟨run, rfl, takes_anything_iff.2 hall⟩⟩
      · rintro ⟨earlier, piece, rfl, hearlier, rfl | ⟨run, rfl, hline⟩⟩
        · exact .inl (by simpa using hearlier)
        · exact .inr ⟨earlier ++ ['/'], run,
            by simp, ⟨earlier, '/', rfl, hearlier, rfl⟩,
            takes_anything_iff.1 hline⟩

theorem marks_foldl_step (tokens : List GlobToken)
    (h : Marks reached [] path flags) :
    Marks (fun before => ∃ earlier rest, before = earlier ++ rest ∧
      reached earlier ∧ Covers tokens rest)
      [] path (tokens.foldl (step path) flags) := by
  induction tokens generalizing reached flags with
  | nil => exact h.congr fun before => by simp [covers_nil_iff]
  | cons token tokens ih =>
      refine (ih (marks_step h token)).congr fun before => ?_
      constructor
      · rintro ⟨_, rest, rfl, ⟨earlier, piece, rfl, hearlier, hpiece⟩, hrest⟩
        exact ⟨earlier, piece ++ rest, by simp, hearlier, .cons hpiece hrest⟩
      · rintro ⟨earlier, rest, rfl, hearlier, hrest⟩
        obtain ⟨piece, rest, rfl, hpiece, hrest⟩ := covers_cons_iff.1 hrest
        exact ⟨earlier ++ piece, rest,
          by simp, ⟨earlier, piece, rfl, hearlier, hpiece⟩, hrest⟩

end

theorem matchTokens_iff {tokens : List GlobToken} {path : List Char} :
    matchTokens tokens path = true ↔ Covers tokens path := by
  rw [matchTokens, (marks_foldl_step tokens (marks_start path)).getLastD_iff,
    List.nil_append]
  constructor
  · rintro ⟨_, rest, rfl, rfl, hrest⟩
    exact hrest
  · intro hpath
    exact ⟨[], path, rfl, rfl, hpath⟩

theorem isMatch_iff {glob path : String} :
    isMatch glob path = true ↔ Covers (tokens glob.toList) path.toList :=
  matchTokens_iff

/-! ## A literal path and what is below it -/

theorem tokens_cons_of_plain {character : Char} {text : List Char}
    (hstar : character ≠ '*') (hquestion : character ≠ '?')
    (hnext : text.head? ≠ some '*') :
    tokens (character :: text) = .literal character :: tokens text := by
  rw [tokens]
  · rintro rest - rfl
    exact hnext rfl
  · rintro rest rfl
    exact absurd rfl hstar
  · exact hstar
  · exact hquestion

theorem tokens_append {text : List Char} (hstar : '*' ∉ text)
    (hquestion : '?' ∉ text) (rest : List Char) :
    tokens (text ++ '/' :: '*' :: '*' :: rest) =
      text.map .literal ++ .subtree :: tokens rest := by
  induction text with
  | nil => simp [tokens]
  | cons character text ih =>
      simp only [List.mem_cons, not_or] at hstar hquestion
      have hnext : (text ++ '/' :: '*' :: '*' :: rest).head? ≠ some '*' := by
        cases text with
        | nil => simp
        | cons next text =>
            simpa using Ne.symm (List.ne_of_not_mem_cons hstar.2)
      rw [List.cons_append,
        tokens_cons_of_plain (Ne.symm hstar.1) (Ne.symm hquestion.1) hnext,
        ih hstar.2 hquestion.2]
      rfl

theorem covers_literals_append {text : List Char} {tokens : List GlobToken}
    {path : List Char} :
    Covers (text.map .literal ++ tokens) path ↔
      ∃ rest, path = text ++ rest ∧ Covers tokens rest := by
  induction text generalizing path with
  | nil => simp
  | cons character text ih =>
      simp only [List.map_cons, List.cons_append, covers_cons_iff, ih,
        GlobToken.Takes]
      constructor
      · rintro ⟨_, _, rfl, rfl, rest, rfl, hrest⟩
        exact ⟨rest, rfl, hrest⟩
      · rintro ⟨rest, rfl, hrest⟩
        exact ⟨[character], text ++ rest, rfl, rfl, rest, rfl, hrest⟩

theorem isMatch_subtree_iff {text path : String} (hstar : '*' ∉ text.toList)
    (hquestion : '?' ∉ text.toList) :
    isMatch (text ++ "/**") path = true ↔
      path = text ∨ ∃ run, path.toList = text.toList ++ '/' :: run ∧
      '\n' ∉ run := by
  have hglob :
      (text ++ "/**").toList = text.toList ++ '/' :: '*' :: '*' :: [] :=
    String.toList_append
  rw [isMatch_iff, hglob, tokens_append hstar hquestion, covers_literals_append]
  simp only [tokens, covers_cons_iff, covers_nil_iff, GlobToken.Takes]
  constructor
  · rintro ⟨_, hpath, piece, _, rfl, rfl | ⟨run, rfl, hline⟩, rfl⟩
    · exact .inl (String.toList_inj.1 (by simpa using hpath))
    · exact .inr ⟨run, by simpa using hpath, hline⟩
  · rintro (rfl | ⟨run, hpath, hline⟩)
    · exact ⟨[], by simp, [], [], rfl, .inl rfl, rfl⟩
    · exact ⟨'/' :: run, hpath, '/' :: run, [],
        by simp, .inr ⟨run, rfl, hline⟩, rfl⟩

end Glob

end HttpEngine
