import HttpEngine.Proofs.Multipart.Chunking

/-!
# Where the bound holds

The bound is meant for header blocks, whatever chunks they come in.  It is
tested on what is buffered: a block that comes whole is never tested, and one
that fits is refused if a chunk ends between the bytes that end it and these lie
beyond the bound.
-/

namespace HttpEngine.Multipart

/-- The block at the front ends, and is no longer than the bound. -/
def HeadFits (tail : Bytes) : Prop :=
  ∃ block after, Outline.splitHead? tail = some (block, after) ∧
    block.length ≤ maxHeaderSize

namespace Decoder

/-- What the chunks of a body decode to. -/
def outcome (boundary : Bytes) (chunks : List Bytes) : Except Fault Form :=
  (chunks.foldl decode (new (some boundary))).finish.1

/-- A form has no part with a longer header block, and no body is refused for
its header blocks when they all fit. -/
structure Enforced (boundary : Bytes) (chunks : List Bytes) : Prop where
  accepted : ∀ form, outcome boundary chunks = .ok form →
    ∀ tail ∈ Outline.headsOfBody boundary chunks.flatten, HeadFits tail
  refused :
    (∀ tail ∈ Outline.headsOfBody boundary chunks.flatten, HeadFits tail) →
    outcome boundary chunks ≠ .error .headersTooLarge

theorem finish_eq_headersTooLarge_iff (decoder : Decoder) :
    decoder.finish.1 = .error .headersTooLarge ↔
      decoder.fault = some .headersTooLarge := by
  unfold finish
  cases hfault : decoder.fault with
  | some fault => simp
  | none =>
      simp only [reduceCtorEq, iff_false]
      split <;> simp

variable {boundary : Bytes} {chunks : List Bytes}

theorem outcome_eq_headersTooLarge_iff (hboundary : boundary ≠ [])
    (chunks : List Bytes) :
    outcome boundary chunks = .error .headersTooLarge ↔
      ∃ tail ∈ Outline.headsOfBody boundary chunks.flatten,
        Overruns chunks tail :=
  (finish_eq_headersTooLarge_iff _).trans
    (fault_foldl_decode_eq_iff hboundary chunks)

theorem exists_outcome_eq_ok_iff (hboundary : boundary ≠ []) :
    (∃ form, outcome boundary chunks = .ok form) ↔
      (Outline.ofBody boundary chunks.flatten).ending = .closed ∧
        ∀ tail ∈ Outline.headsOfBody boundary chunks.flatten,
          ¬ Overruns chunks tail := by
  have hrefused := outcome_eq_headersTooLarge_iff hboundary chunks
  by_cases hkept : ∀ tail ∈ Outline.headsOfBody boundary chunks.flatten,
    ¬ Overruns chunks tail
  · rw [outcome, finish_foldl_decode_of_not_overruns hboundary hkept,
      Outline.formAfter]
    cases hending : (Outline.ofBody boundary chunks.flatten).ending with
    | closed => simpa using hkept
    | _ => simp
  · simp only [not_forall, not_not, exists_prop] at hkept
    rw [hrefused.2 hkept]
    obtain ⟨tail, hmem, hoverruns⟩ := hkept
    simp only [reduceCtorEq, exists_false, false_iff]
    exact fun hform => hform.2 tail hmem hoverruns

/-- The decoder refuses a body exactly if a chunk ends within a header block and
beyond the bound, and reads any other as if it came whole.  The bound is
enforced exactly if such a chunk is there when a form has a block that is too
long, and is not there when every block fits. -/
theorem enforced_iff (hboundary : boundary ≠ []) (chunks : List Bytes) :
    let heads := Outline.headsOfBody boundary chunks.flatten
    let outline := Outline.ofBody boundary chunks.flatten
    (outcome boundary chunks = .error .headersTooLarge ↔
      ∃ tail ∈ heads, Overruns chunks tail) ∧
      ((∀ tail ∈ heads, ¬ Overruns chunks tail) →
        outcome boundary chunks = outline.formAfter [] []) ∧
      (Enforced boundary chunks ↔
        (outline.ending = .closed → (∃ tail ∈ heads, ¬ HeadFits tail) →
          ∃ tail ∈ heads, Overruns chunks tail) ∧
        ((∀ tail ∈ heads, HeadFits tail) →
          ∀ tail ∈ heads, ¬ Overruns chunks tail)) := by
  intro heads outline
  have hrefused := outcome_eq_headersTooLarge_iff hboundary chunks
  have hform := @exists_outcome_eq_ok_iff boundary chunks hboundary
  refine ⟨hrefused, finish_foldl_decode_of_not_overruns hboundary, ?_⟩
  constructor
  · rintro ⟨haccepts, hrejects⟩
    constructor
    · rintro hclosed ⟨tail, hmem, hlong⟩
      by_contra hkept
      simp only [not_exists, not_and] at hkept
      obtain ⟨form, hok⟩ := hform.2 ⟨hclosed, hkept⟩
      exact hlong (haccepts form hok tail hmem)
    · intro hfits tail hmem hoverruns
      exact hrejects hfits (hrefused.2 ⟨tail, hmem, hoverruns⟩)
  · rintro ⟨hcaught, hspared⟩
    constructor
    · intro form hok tail hmem
      obtain ⟨hclosed, hkept⟩ := hform.1 ⟨form, hok⟩
      by_contra hlong
      obtain ⟨other, hamong, hoverruns⟩ := hcaught hclosed ⟨tail, hmem, hlong⟩
      exact hkept other hamong hoverruns
    · intro hfits herror
      obtain ⟨tail, hmem, hoverruns⟩ := hrefused.1 herror
      exact hspared hfits tail hmem hoverruns

/-! ## A block near the bound -/

/-- A header block of `size` bytes, its part and the end of the form, for the
boundary `b`. -/
def wideTail (size : Nat) : Bytes :=
  List.replicate size 97 ++ (crlf ++ crlf ++ Utf8.ofString "x\r\n--b--")

/-- A body with that block, of which the first chunk ends `place` bytes behind
its beginning. -/
def wideChunks (size place : Nat) : List Bytes :=
  [Utf8.ofString "--b\r\n" ++ (wideTail size).take place,
    (wideTail size).drop place]

variable {size place : Nat}

theorem splitHead?_wideTail (hpositive : 0 < size) :
    Outline.splitHead? (wideTail size) =
      some (List.replicate size 97, Utf8.ofString "x\r\n--b--") := by
  obtain ⟨size, rfl⟩ := Nat.exists_eq_add_of_le' hpositive
  have hopen : crlf.isPrefixOf (wideTail (size + 1)) = false := rfl
  have hplain : (13 : UInt8) ∉ List.replicate (size + 1) 97 := by simp
  have hfound :=
    Sequence.cut?_self_append (crlf ++ crlf) (Utf8.ofString "x\r\n--b--")
  have hcut : Sequence.cut? (crlf ++ crlf) (wideTail (size + 1)) = _ :=
    Sequence.cut?_append_of_not_mem hplain _
  rw [Outline.splitHead?, hopen, if_neg Bool.false_ne_true, hcut]
  exact (congrArg _ hfound).trans (by simp)

theorem flatten_wideChunks (size place : Nat) :
    (wideChunks size place).flatten = Utf8.ofString "--b\r\n" ++
      wideTail size := by
  simp [wideChunks]

theorem cut?_wideChunks (size place : Nat) :
    Sequence.cut? (crlf ++ dashes ++ [98])
      (crlf ++ (wideChunks size place).flatten) =
      some ([], crlf ++ wideTail size) := by
  rw [flatten_wideChunks]
  exact Sequence.cut?_self_append (crlf ++ dashes ++ [98])
    (crlf ++ wideTail size)

theorem cut?_wideEnd :
    Sequence.cut? (crlf ++ dashes ++ [98]) (Utf8.ofString "x\r\n--b--") =
    some ([120], dashes) := by
  decide

theorem headsOfBody_wideChunks (hpositive : 0 < size) (place : Nat) :
    Outline.headsOfBody [98] (wideChunks size place).flatten =
      [wideTail size] := by
  rw [Outline.headsOfBody, Outline.headsBehind, cut?_wideChunks]
  simp only [Outline.headsOfRest_crlf, splitHead?_wideTail hpositive,
    Outline.headsBehind, cut?_wideEnd]
  rw [Outline.headsOfRest_other (by decide)]

theorem ending_wideChunks (hpositive : 0 < size) (place : Nat) :
    (Outline.ofBody [98] (wideChunks size place).flatten).ending = .closed := by
  rw [Outline.ofBody, Outline.ofPreamble, cut?_wideChunks]
  simp only [Outline.ofRest_crlf, splitHead?_wideTail hpositive,
    Outline.ofContent, cut?_wideEnd]
  exact congrArg Outline.ending (Outline.ofRest_dashes _ [])

theorem headFits_wideTail_iff (hpositive : 0 < size) :
    HeadFits (wideTail size) ↔ size ≤ maxHeaderSize := by
  simp [HeadFits, splitHead?_wideTail hpositive]

theorem overruns_wideChunks_iff (hpositive : 0 < size)
    (hbefore : place < size + 4) :
    Overruns (wideChunks size place) (wideTail size) ↔
      maxHeaderSize < place := by
  have hsize : (wideTail size).length = size + 12 := by
    simp [wideTail, crlf]
    rfl
  have hend : Outline.headEnd (wideTail size) = size + 4 := by
    rw [Outline.headEnd_of_eq_some (splitHead?_wideTail hpositive), hsize]
    rfl
  have hlate :
      [(wideTail size).drop place].flatten.length = size + 12 - place := by
    simp [hsize]
  constructor
  · rintro ⟨after, hsuffix, hover, hwithin⟩
    rw [hsize] at hover hwithin
    rcases List.suffix_cons_iff.1 hsuffix with hwhole | hsuffix
    · rw [hwhole] at hover
      change _ < _ - (wideChunks size place).flatten.length at hover
      rw [flatten_wideChunks, List.length_append, hsize] at hover
      omega
    · rcases List.suffix_cons_iff.1 hsuffix with rfl | hsuffix
      · omega
      · rw [List.suffix_nil.1 hsuffix, hend, List.flatten_nil, List.length_nil]
          at hwithin
        omega
  · intro hover
    refine ⟨[(wideTail size).drop place], List.suffix_cons _ _, ?_⟩
    rw [IsOverlong, hsize, hlate, hend]
    omega

/-- A block that fits is refused, and one that does not is taken. -/
theorem not_enforced_wideChunks :
    ¬ Enforced [98] (wideChunks 8192 8193) ∧
      ¬ Enforced [98] (wideChunks 8193 0) := by
  have hboundary : ([98] : Bytes) ≠ [] := List.cons_ne_nil 98 []
  constructor
  · intro henforced
    have hheads := headsOfBody_wideChunks (by decide : 0 < 8192) 8193
    apply henforced.refused
    · rw [hheads, List.forall_mem_singleton, headFits_wideTail_iff (by decide)]
      exact Nat.le_refl maxHeaderSize
    · rw [outcome_eq_headersTooLarge_iff hboundary, hheads]
      refine ⟨_, List.mem_singleton_self _, ?_⟩
      rw [overruns_wideChunks_iff (by decide) (by decide)]
      decide
  · intro henforced
    have hheads := headsOfBody_wideChunks (by decide : 0 < 8193) 0
    have hform : ∃ form, outcome [98] (wideChunks 8193 0) = .ok form := by
      rw [exists_outcome_eq_ok_iff hboundary, hheads, List.forall_mem_singleton,
        overruns_wideChunks_iff (by decide) (by decide)]
      exact ⟨ending_wideChunks (by decide) 0, by decide⟩
    obtain ⟨form, hok⟩ := hform
    have hfits :=
      henforced.accepted form hok (wideTail 8193) (by rw [hheads]; simp)
    rw [headFits_wideTail_iff (by decide)] at hfits
    exact absurd hfits (by decide)

theorem enforced_wideChunks :
    ([98] : Bytes) ≠ [] ∧ Enforced [98] (wideChunks 8192 8192) := by
  have hboundary : ([98] : Bytes) ≠ [] := List.cons_ne_nil 98 []
  have hheads := headsOfBody_wideChunks (by decide : 0 < 8192) 8192
  have hfits : HeadFits (wideTail 8192) :=
    (headFits_wideTail_iff (by decide)).2 (Nat.le_refl maxHeaderSize)
  have hkept : ¬ Overruns (wideChunks 8192 8192) (wideTail 8192) := by
    rw [overruns_wideChunks_iff (by decide) (by decide)]
    exact Nat.lt_irrefl maxHeaderSize
  refine ⟨hboundary, (enforced_iff hboundary (wideChunks 8192 8192)).2.2.2 ?_⟩
  rw [hheads]
  exact ⟨by simp [hfits], by simp [hkept]⟩

end Decoder

end HttpEngine.Multipart
