import HttpEngine.Proofs.Body.Limit
import Mathlib.Data.List.Induction
import Mathlib.Tactic.Tauto

/-!
# What a parser retains

A parser that has been released, or whose limit was crossed, is over: nothing
more is to be kept.  The chunk that crosses the limit is not kept, but a release
does not keep the chunks behind it from the decoder while they fit.  Decoders
that take bytes again then fill up, and as a parser is released only once, the
crossing of the limit does not empty them.
-/

namespace HttpEngine

/-! ## Decoders -/

namespace BodyDecoder

/-- Nothing of the body is kept. -/
def IsClear : BodyDecoder → Prop
  | .discard => True
  | .raw kept => kept = #[]
  | .urlEncoded kept => kept = #[]
  | .multipart decoder =>
      decoder.buffer = [] ∧ decoder.fields = [] ∧ decoder.files = [] ∧
        ∀ part, decoder.phase ≠ .content part

/-- A release leaves the decoder as it was made, ready for bytes. -/
def refills : BodyDecoder → Bool
  | .raw _ | .urlEncoded _ => true
  | .discard | .multipart _ => false

variable {decoder : BodyDecoder}

@[simp] theorem refills_decode (decoder : BodyDecoder) (chunk : Bytes) :
    (decoder.decode chunk).refills = decoder.refills := by
  cases decoder <;> rfl

@[simp] theorem refills_release (decoder : BodyDecoder) :
    decoder.release.refills = decoder.refills := by
  cases decoder <;> rfl

@[simp] theorem release_release (decoder : BodyDecoder) :
    decoder.release.release = decoder.release := by
  cases decoder <;> rfl

theorem isClear_release (decoder : BodyDecoder) : decoder.release.IsClear := by
  cases decoder with
  | discard => trivial
  | raw kept => rfl
  | urlEncoded kept => rfl
  | multipart decoder =>
      exact ⟨rfl, rfl, rfl, fun part => by simp [Multipart.Decoder.release]⟩

theorem isClear_of_release_eq (h : decoder.release = decoder) :
    decoder.IsClear :=
  h ▸ isClear_release decoder

theorem append_eq_self_iff (kept : Array UInt8) (chunk : Bytes) :
    kept ++ chunk = kept ↔ chunk = [] := by
  rw [← Array.toList_inj, Array.toList_appendList, List.append_right_eq_self]

theorem decode_eq_self_iff (h : decoder.refills = true) (chunk : Bytes) :
    decoder.decode chunk = decoder ↔ chunk = [] := by
  cases decoder with
  | raw kept => simp [decode, append_eq_self_iff]
  | urlEncoded kept => simp [decode, append_eq_self_iff]
  | _ => contradiction

theorem append_eq_empty_iff (kept : Array UInt8) (chunk : Bytes) :
    kept ++ chunk = #[] ↔ kept = #[] ∧ chunk = [] := by
  rw [← Array.toList_inj, Array.toList_appendList, Array.toList_empty,
    List.append_eq_nil_iff, Array.toList_eq_nil_iff]

theorem isClear_decode_iff (h : decoder.refills = true) (chunk : Bytes) :
    (decoder.decode chunk).IsClear ↔ decoder.IsClear ∧ chunk = [] := by
  cases decoder with
  | raw kept => exact append_eq_empty_iff kept chunk
  | urlEncoded kept => exact append_eq_empty_iff kept chunk
  | _ => contradiction

theorem decode_release (h : decoder.refills = false) (chunk : Bytes) :
    decoder.release.decode chunk = decoder.release := by
  cases decoder with
  | discard => rfl
  | multipart decoder =>
      simp [release, decode, Multipart.Decoder.decode,
        Multipart.Decoder.release]
  | _ => contradiction

end BodyDecoder

namespace BodyParser

/-! ## Calls -/

inductive Call where
  | offer (chunk : Bytes)
  | release
  deriving DecidableEq, Repr

def Call.bytes : Call → Bytes
  | .offer chunk => chunk
  | .release => []

def perform (parser : BodyParser) : Call → BodyParser
  | .offer chunk => parser.offer chunk
  | .release => parser.release

def performAll (parser : BodyParser) (calls : List Call) : BodyParser :=
  calls.foldl perform parser

theorem performAll_snoc (parser : BodyParser) (calls : List Call)
    (call : Call) :
    parser.performAll (calls ++ [call]) =
      (parser.performAll calls).perform call := by
  simp [performAll]

/-- The bytes that the calls bring, up to the greatest count. -/
def counted (calls : List Call) : Nat :=
  min (calls.map fun call => call.bytes.length).sum maxCount

/-- The calls bring more than the limit. -/
def Passes (limit : Option Nat) (calls : List Call) : Prop :=
  ∃ bound, limit = some bound ∧ bound < counted calls

/-- Behind a release the calls bring bytes that are within the limit. -/
def Refilled (limit : Option Nat) (calls : List Call) : Prop :=
  ∃ before call, before ++ [call] <+: calls ∧ .release ∈ before ∧
    call.bytes ≠ [] ∧ ¬ Passes limit (before ++ [call])

variable {limit : Option Nat} {calls : List Call} {call : Call}
  {parser : BodyParser} {decoder : BodyDecoder} {chunk : Bytes}

theorem counted_snoc (calls : List Call) (call : Call) :
    counted (calls ++ [call]) =
      min (counted calls + call.bytes.length) maxCount := by
  simp only [counted, List.map_append, List.sum_append, List.map_cons,
    List.map_nil, List.sum_cons, List.sum_nil]
  omega

theorem Passes.snoc (h : Passes limit calls) (call : Call) :
    Passes limit (calls ++ [call]) := by
  obtain ⟨bound, hlimit, hbound⟩ := h
  refine ⟨bound, hlimit, ?_⟩
  have hmax : counted calls ≤ maxCount := Nat.min_le_right _ _
  rw [counted_snoc]
  omega

theorem passes_snoc_of_bytes_eq_nil (h : call.bytes = []) :
    Passes limit (calls ++ [call]) ↔ Passes limit calls := by
  refine ⟨?_, fun hpasses => hpasses.snoc call⟩
  rintro ⟨bound, hlimit, hbound⟩
  refine ⟨bound, hlimit, ?_⟩
  rw [counted_snoc, h] at hbound
  simp only [List.length_nil] at hbound
  omega

theorem Refilled.release_mem (h : Refilled limit calls) : .release ∈ calls := by
  obtain ⟨before, call, hprefix, hrelease, -⟩ := h
  exact hprefix.subset (List.mem_append_left _ hrelease)

theorem refilled_snoc_iff :
    Refilled limit (calls ++ [call]) ↔
      Refilled limit calls ∨
        .release ∈ calls ∧ call.bytes ≠ [] ∧
        ¬ Passes limit (calls ++ [call]) := by
  constructor
  · rintro ⟨before, last, hprefix, hlast⟩
    rcases List.prefix_concat_iff.1 hprefix with hwhole | hprefix
    · obtain ⟨rfl, hsame⟩ := List.append_inj' hwhole rfl
      obtain rfl := List.singleton_inj.1 hsame
      exact .inr hlast
    · exact .inl ⟨before, last, hprefix, hlast⟩
  · rintro (⟨before, last, hprefix, hlast⟩ | hlast)
    · exact ⟨before, last, hprefix.trans (List.prefix_append _ _), hlast⟩
    · exact ⟨calls, call, List.prefix_rfl, hlast⟩

theorem refilled_snoc_iff_of_dropped
    (hdropped : call.bytes = [] ∨ Passes limit (calls ++ [call])) :
    Refilled limit (calls ++ [call]) ↔ Refilled limit calls := by
  rw [refilled_snoc_iff]
  tauto

/-! ## The decoder of a released parser -/

/-- What is in the decoder once the parser has been released. -/
structure Holds (limit : Option Nat) (calls : List Call)
    (decoder : BodyDecoder) : Prop where
  refilled : decoder.refills = true → (decoder.IsClear ↔ ¬ Refilled limit calls)
  closed : decoder.refills = false → decoder.release = decoder

theorem holds_release (h : ¬ Refilled limit calls) (decoder : BodyDecoder) :
    Holds limit calls decoder.release where
  refilled _ := iff_of_true decoder.isClear_release h
  closed _ := decoder.release_release

theorem Holds.snoc_dropped (h : Holds limit calls decoder)
    (hdropped : call.bytes = [] ∨ Passes limit (calls ++ [call])) :
    Holds limit (calls ++ [call]) decoder where
  refilled hrefills := by
    rw [refilled_snoc_iff_of_dropped hdropped]
    exact h.refilled hrefills
  closed := h.closed

theorem Holds.snoc_decode (h : Holds limit calls decoder)
    (hrelease : .release ∈ calls)
    (hfits : ¬ Passes limit (calls ++ [.offer chunk])) :
    Holds limit (calls ++ [.offer chunk]) (decoder.decode chunk) where
  refilled hrefills := by
    rw [BodyDecoder.refills_decode] at hrefills
    rw [BodyDecoder.isClear_decode_iff hrefills, h.refilled hrefills,
      refilled_snoc_iff]
    simp only [Call.bytes]
    tauto
  closed hrefills := by
    rw [BodyDecoder.refills_decode] at hrefills
    rw [← h.closed hrefills, BodyDecoder.decode_release hrefills,
      BodyDecoder.release_release]

theorem Holds.isClear_iff (h : Holds limit calls decoder) :
    decoder.IsClear ↔ decoder.refills = false ∨ ¬ Refilled limit calls := by
  cases hrefills : decoder.refills with
  | true => simp [h.refilled hrefills]
  | false => simpa using BodyDecoder.isClear_of_release_eq (h.closed hrefills)

/-! ## The account of a run -/

/-- What has become of a parser with the limit and the decoder after
the calls. -/
structure HasPerformed (limit : Option Nat) (decoder : BodyDecoder)
    (calls : List Call) (parser : BodyParser) : Prop where
  maxSize_eq : parser.maxSize = limit
  seen_eq : parser.seen = counted calls
  exceeded_iff : parser.exceeded = true ↔ Passes limit calls
  released_iff : parser.released = true ↔ Passes limit calls ∨ .release ∈ calls
  refills_eq : parser.decoder.refills = decoder.refills
  holds : parser.released = true → Holds limit calls parser.decoder

theorem hasPerformed_new (limit : Option Nat) (decoder : BodyDecoder) :
    HasPerformed limit decoder [] (new limit decoder) := by
  constructor <;> simp [new, counted, Passes]

theorem release_frame (parser : BodyParser) :
    parser.release.maxSize = parser.maxSize ∧
      parser.release.seen = parser.seen ∧
      parser.release.exceeded = parser.exceeded ∧
      parser.release.released = true := by
  cases hreleased : parser.released <;> simp [BodyParser.release, hreleased]

variable (h : HasPerformed limit decoder calls parser)
include h

theorem HasPerformed.countAfter_snoc (chunk : Bytes) :
    parser.countAfter chunk = counted (calls ++ [.offer chunk]) := by
  rw [counted_snoc, countAfter, h.seen_eq, Call.bytes]

theorem HasPerformed.wouldExceed_iff_passes (chunk : Bytes) :
    parser.wouldExceed chunk = true ↔
      Passes limit (calls ++ [.offer chunk]) := by
  rw [wouldExceed_iff, h.maxSize_eq, h.countAfter_snoc chunk, Passes]

/-- A release, by a call or by the limit, empties the decoder unless it comes
too late. -/
theorem HasPerformed.holds_releaseDecoder
    (hdropped : call.bytes = [] ∨ Passes limit (calls ++ [call])) :
    parser.release.decoder.refills = decoder.refills ∧
      Holds limit (calls ++ [call]) parser.release.decoder := by
  cases hreleased : parser.released with
  | true =>
      -- Too late: what the decoder took since the first release stays in it.
      rw [release_of_released hreleased]
      exact ⟨h.refills_eq, (h.holds hreleased).snoc_dropped hdropped⟩
  | false =>
      have hnot : ¬ Refilled limit (calls ++ [call]) := by
        rw [refilled_snoc_iff_of_dropped hdropped]
        intro hrefilled
        have hyes := h.released_iff.2 (.inr hrefilled.release_mem)
        rw [hreleased] at hyes
        contradiction
      rw [release_of_not_released hreleased]
      exact ⟨(BodyDecoder.refills_release _).trans h.refills_eq,
        holds_release hnot _⟩

theorem HasPerformed.release :
    HasPerformed limit decoder (calls ++ [.release]) parser.release := by
  have hbytes : Call.release.bytes = [] := rfl
  obtain ⟨hmaxSize, hseen, hexceeded, hreleased⟩ := release_frame parser
  obtain ⟨hrefills, hholds⟩ := h.holds_releaseDecoder (.inl hbytes)
  refine ⟨hmaxSize.trans h.maxSize_eq, ?_, ?_, ?_, hrefills, fun _ => hholds⟩
  · rw [hseen, counted_snoc, h.seen_eq, hbytes]
    exact (Nat.min_eq_left (Nat.min_le_right _ _)).symm
  · rw [hexceeded, passes_snoc_of_bytes_eq_nil hbytes]
    exact h.exceeded_iff
  · exact iff_of_true hreleased (.inr (by simp))

theorem HasPerformed.offer (chunk : Bytes) :
    HasPerformed limit decoder (calls ++ [.offer chunk])
      (parser.offer chunk) := by
  have hcount := h.countAfter_snoc chunk
  have hbeyond := h.wouldExceed_iff_passes chunk
  have hmem : .release ∈ calls ++ [.offer chunk] ↔ .release ∈ calls := by simp
  cases hexceeded : parser.exceeded with
  | true =>
      have hpasses := (h.exceeded_iff.1 hexceeded).snoc (.offer chunk)
      have hreleased := h.released_iff.2 (.inl (h.exceeded_iff.1 hexceeded))
      rw [offer_of_exceeded hexceeded]
      exact ⟨h.maxSize_eq, hcount, iff_of_true hexceeded hpasses,
        iff_of_true hreleased (.inl hpasses), h.refills_eq,
        fun hreleased => (h.holds hreleased).snoc_dropped (.inr hpasses)⟩
  | false =>
      cases hwould : parser.wouldExceed chunk with
      | true =>
          have hpasses := hbeyond.1 hwould
          obtain ⟨hmaxSize, -, -, hreleased⟩ := release_frame parser
          obtain ⟨hrefills, hholds⟩ := h.holds_releaseDecoder (.inr hpasses)
          rw [offer_of_wouldExceed hexceeded hwould]
          exact ⟨hmaxSize.trans h.maxSize_eq, hcount, iff_of_true rfl hpasses,
            iff_of_true hreleased (.inl hpasses), hrefills, fun _ => hholds⟩
      | false =>
          have hfits : ¬ Passes limit (calls ++ [.offer chunk]) := by
            simp [← hbeyond, hwould]
          have hbefore : ¬ Passes limit calls :=
            fun hpasses => hfits (hpasses.snoc _)
          have hreleased := h.released_iff
          rw [or_iff_right hbefore] at hreleased
          rw [offer_of_fits hexceeded hwould]
          refine ⟨h.maxSize_eq, hcount,
            iff_of_false (by simp [hexceeded]) hfits, ?_,
            (BodyDecoder.refills_decode _ _).trans h.refills_eq, fun hyes => ?_⟩
          · rw [or_iff_right hfits, hmem]
            exact hreleased
          · exact (h.holds hyes).snoc_decode (hreleased.1 hyes) hfits

omit h

theorem hasPerformed_performAll (limit : Option Nat) (decoder : BodyDecoder)
    (calls : List Call) :
    HasPerformed limit decoder calls
      ((new limit decoder).performAll calls) := by
  induction calls using List.reverseRecOn with
  | nil => exact hasPerformed_new limit decoder
  | append_singleton calls call ih =>
      rw [performAll_snoc]
      cases call with
      | offer chunk => exact ih.offer chunk
      | release => exact ih.release

/-! ## Parsers that are over -/

def IsOver (parser : BodyParser) : Prop :=
  parser.exceeded = true ∨ parser.released = true

/-- Something of the body is kept, although the parser is over. -/
def Retains (parser : BodyParser) : Prop :=
  parser.IsOver ∧ ¬ parser.decoder.IsClear

/-- The chunk does more than to advance the count, although the parser
is over. -/
def Takes (parser : BodyParser) (chunk : Bytes) : Prop :=
  parser.IsOver ∧
  parser.offer chunk ≠ { parser with seen := parser.countAfter chunk }

include h

theorem HasPerformed.isOver_iff :
    parser.IsOver ↔ Passes limit calls ∨ .release ∈ calls := by
  rw [IsOver, h.exceeded_iff, h.released_iff]
  tauto

theorem HasPerformed.retains_iff :
    parser.Retains ↔ decoder.refills = true ∧ Refilled limit calls := by
  constructor
  · rintro ⟨hover, hkept⟩
    have hholds := h.holds (h.released_iff.2 (h.isOver_iff.1 hover))
    rw [hholds.isClear_iff, h.refills_eq] at hkept
    simpa using hkept
  · rintro ⟨hrefills, hrefilled⟩
    have hreleased : Passes limit calls ∨ .release ∈ calls :=
      .inr hrefilled.release_mem
    have hholds := h.holds (h.released_iff.2 hreleased)
    refine ⟨h.isOver_iff.2 hreleased, ?_⟩
    rw [hholds.isClear_iff, h.refills_eq]
    simp [hrefills, hrefilled]

theorem HasPerformed.offer_eq_iff (hexceeded : parser.exceeded = false)
    (hreleased : parser.released = true) (chunk : Bytes) :
    parser.offer chunk = { parser with seen := parser.countAfter chunk } ↔
      chunk = [] ∨ decoder.refills = false ∧
      ¬ Passes limit (calls ++ [.offer chunk]) := by
  have hbeyond := h.wouldExceed_iff_passes chunk
  cases hwould : parser.wouldExceed chunk with
  | true =>
      have hpasses := hbeyond.1 hwould
      rw [offer_of_wouldExceed hexceeded hwould]
      refine iff_of_false (by simp [hexceeded]) ?_
      rintro (rfl | ⟨-, hfits⟩)
      · have hnothing : (Call.offer []).bytes = [] := rfl
        have hbefore := (passes_snoc_of_bytes_eq_nil hnothing).1 hpasses
        simp [h.exceeded_iff.2 hbefore] at hexceeded
      · exact hfits hpasses
  | false =>
      have hfits : ¬ Passes limit (calls ++ [.offer chunk]) := by
        simp [← hbeyond, hwould]
      rw [offer_of_fits hexceeded hwould]
      simp only [BodyParser.mk.injEq, true_and]
      cases hrefills : decoder.refills with
      | true =>
          rw [BodyDecoder.decode_eq_self_iff (h.refills_eq.trans hrefills)]
          simp
      | false =>
          have hrefills' := h.refills_eq.trans hrefills
          refine iff_of_true ?_ (.inr ⟨rfl, hfits⟩)
          rw [← (h.holds hreleased).closed hrefills',
            BodyDecoder.decode_release hrefills']

theorem HasPerformed.takes_iff (chunk : Bytes) :
    parser.Takes chunk ↔
      .release ∈ calls ∧ ¬ Passes limit calls ∧ chunk ≠ [] ∧
        (decoder.refills = true ∨ Passes limit (calls ++ [.offer chunk])) := by
  rw [Takes, h.isOver_iff]
  by_cases hpasses : Passes limit calls
  · have hcounts := @offer_of_exceeded parser chunk (h.exceeded_iff.2 hpasses)
    exact iff_of_false (fun htakes => htakes.2 hcounts) (fun hright =>
      hright.2.1 hpasses)
  · rw [or_iff_right hpasses]
    refine and_congr_right fun hrelease => ?_
    have hexceeded : parser.exceeded = false := by
      rwa [← Bool.not_eq_true, h.exceeded_iff]
    have hreleased := h.released_iff.2 (.inr hrelease)
    rw [Ne, h.offer_eq_iff hexceeded hreleased chunk, ← Bool.not_eq_true]
    tauto

omit h

/-- A parser that is over retains something exactly when a decoder that takes
bytes again was offered some behind a release and within the limit.  A chunk
does more than to be counted exactly when it comes behind a release and before
the limit is crossed, and reaches such a decoder or crosses the limit. -/
theorem retains_performAll_iff (limit : Option Nat) (decoder : BodyDecoder)
    (calls : List Call) :
    let parser := (new limit decoder).performAll calls
    (parser.IsOver ↔ Passes limit calls ∨ .release ∈ calls) ∧
      (parser.Retains ↔ decoder.refills = true ∧ Refilled limit calls) ∧
      ∀ chunk, parser.Takes chunk ↔
        .release ∈ calls ∧ ¬ Passes limit calls ∧ chunk ≠ [] ∧
          (decoder.refills = true ∨
            Passes limit (calls ++ [.offer chunk])) := by
  intro parser
  have h := hasPerformed_performAll limit decoder calls
  exact ⟨h.isOver_iff, h.retains_iff, h.takes_iff⟩

/-- A release, a byte and then the bytes that cross the limit. -/
theorem retains_released_raw :
    let parser :=
      (raw (some 5)).performAll [.offer [97, 98, 99], .release, .offer [100]]
    parser.Takes [101, 102] ∧ (parser.offer [101, 102]).exceeded = true ∧
      (parser.offer [101, 102]).decoder = .raw #[100] ∧
      (parser.offer [101, 102]).Retains := by
  intro parser
  have hkept : (parser.offer [101, 102]).decoder = .raw #[100] := by
    decide +kernel
  refine ⟨⟨.inr (by decide +kernel), by decide +kernel⟩,
    by decide +kernel, hkept, .inl (by decide +kernel), ?_⟩
  rw [hkept]
  exact Array.ne_empty_of_size_pos (by decide)

end BodyParser

end HttpEngine
