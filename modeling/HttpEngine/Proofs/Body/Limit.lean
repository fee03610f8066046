import HttpEngine.Body.Parser
import Mathlib.Algebra.GroupWithZero.Nat

/-!
# Parsers and their limit

A parser that has been offered some chunks has counted their bytes, knows
whether these were too many, and has either fed its decoder with all of them or
with none.  Offering a chunk keeps this up, and so what a parser reports depends
on the bytes offered and not on how they were cut.
-/

namespace HttpEngine

/-- The body that a decoder makes of the chunks. -/
def BodyDecoder.bodyOf (decoder : BodyDecoder) (chunks : List Bytes) : Body :=
  (chunks.foldl decode decoder).finish.1

namespace BodyParser

/-! ## Offering a chunk -/

theorem wouldExceed_iff (parser : BodyParser) (chunk : Bytes) :
    parser.wouldExceed chunk = true ↔
      ∃ bound, parser.maxSize = some bound ∧
        bound < parser.countAfter chunk := by
  unfold wouldExceed
  cases parser.maxSize with
  | none => simp
  | some limit => simp

variable {parser : BodyParser} {chunk : Bytes}

theorem offer_of_exceeded (h : parser.exceeded = true) :
    parser.offer chunk = { parser with seen := parser.countAfter chunk } := by
  simp [offer, checkLimit, h]

theorem release_of_released (h : parser.released = true) :
    parser.release = parser := by
  simp [release, h]

theorem release_of_not_released (h : parser.released = false) :
    parser.release =
      { parser with released := true, decoder := parser.decoder.release } := by
  simp [release, h]

theorem offer_of_wouldExceed (h : parser.exceeded = false)
    (hbeyond : parser.wouldExceed chunk = true) :
    parser.offer chunk =
      { parser.release with
        seen := parser.countAfter chunk, exceeded := true } := by
  cases hreleased : parser.released <;>
    simp [offer, checkLimit, release, h, hreleased, hbeyond]

theorem offer_of_fits (h : parser.exceeded = false)
    (hfits : parser.wouldExceed chunk = false) :
    parser.offer chunk =
      { parser with
        seen := parser.countAfter chunk
        decoder := parser.decoder.decode chunk } := by
  simp [offer, checkLimit, h, hfits]

/-! ## The account a parser keeps -/

/-- What has become of a parser with the given limit and decoder that was
offered the chunks. -/
structure HasTaken (limit : Option Nat) (decoder : BodyDecoder)
    (chunks : List Bytes) (parser : BodyParser) : Prop where
  maxSize_eq : parser.maxSize = limit
  seen_eq : parser.seen = min (chunks.map List.length).sum maxCount
  exceeded_iff : parser.exceeded = true ↔
    ∃ bound, limit = some bound ∧ bound < parser.seen
  released_eq : parser.released = parser.exceeded
  decoder_eq : parser.exceeded = false →
    parser.decoder = chunks.foldl BodyDecoder.decode decoder

variable {limit : Option Nat} {decoder : BodyDecoder} {chunks : List Bytes}

theorem hasTaken_new (limit : Option Nat) (decoder : BodyDecoder) :
    HasTaken limit decoder [] (new limit decoder) where
  maxSize_eq := rfl
  seen_eq := rfl
  exceeded_iff := by simp [new]
  released_eq := rfl
  decoder_eq _ := rfl

theorem HasTaken.countAfter_eq (h : HasTaken limit decoder chunks parser)
    (chunk : Bytes) :
    parser.countAfter chunk =
      min ((chunks ++ [chunk]).map List.length).sum maxCount := by
  rw [countAfter, h.seen_eq, List.map_append, List.sum_append]
  simp only [List.map_cons, List.map_nil, List.sum_cons, List.sum_nil]
  omega

theorem HasTaken.seen_le_countAfter (h : HasTaken limit decoder chunks parser)
    (chunk : Bytes) :
    parser.seen ≤ parser.countAfter chunk := by
  have hseen := h.seen_eq
  rw [countAfter]
  omega

theorem hasTaken_offer (h : HasTaken limit decoder chunks parser)
    (chunk : Bytes) :
    HasTaken limit decoder (chunks ++ [chunk]) (parser.offer chunk) := by
  cases hexceeded : parser.exceeded with
  | true =>
      rw [offer_of_exceeded hexceeded]
      obtain ⟨bound, hlimit, hbound⟩ := h.exceeded_iff.1 hexceeded
      have hbeyond := Nat.lt_of_lt_of_le hbound (h.seen_le_countAfter chunk)
      exact ⟨h.maxSize_eq, h.countAfter_eq chunk,
        iff_of_true hexceeded ⟨bound, hlimit, hbeyond⟩,
        h.released_eq, by simp [hexceeded]⟩
  | false =>
      have hreleased := h.released_eq.trans hexceeded
      have hlimit := wouldExceed_iff parser chunk
      rw [h.maxSize_eq] at hlimit
      cases hbeyond : parser.wouldExceed chunk with
      | true =>
          rw [offer_of_wouldExceed hexceeded hbeyond,
            release_of_not_released hreleased]
          exact ⟨h.maxSize_eq, h.countAfter_eq chunk,
            iff_of_true rfl (hlimit.1 hbeyond), rfl, by simp⟩
      | false =>
          rw [offer_of_fits hexceeded hbeyond]
          refine ⟨h.maxSize_eq, h.countAfter_eq chunk, ?_, h.released_eq,
            fun _ => ?_⟩
          · rw [← hlimit, hexceeded, hbeyond]
          · rw [List.foldl_append, ← h.decoder_eq hexceeded]
            rfl

theorem hasTaken_offerAll (h : HasTaken limit decoder chunks parser)
    (more : List Bytes) :
    HasTaken limit decoder (chunks ++ more) (parser.offerAll more) := by
  induction more generalizing chunks parser with
  | nil =>
      rw [List.append_nil]
      exact h
  | cons chunk more ih =>
      have hnext := ih (hasTaken_offer h chunk)
      rw [List.append_assoc] at hnext
      exact hnext

/-- A fresh parser, offered all the chunks. -/
theorem hasTaken_new_offerAll (limit : Option Nat) (decoder : BodyDecoder)
    (chunks : List Bytes) :
    HasTaken limit decoder chunks ((new limit decoder).offerAll chunks) :=
  hasTaken_offerAll (hasTaken_new limit decoder) chunks

theorem HasTaken.exceeded_offerAll (h : HasTaken limit decoder chunks parser)
    (hexceeded : parser.exceeded = true) (more : List Bytes) :
    (parser.offerAll more).exceeded = true := by
  have hmore := hasTaken_offerAll h more
  obtain ⟨bound, hlimit, hbound⟩ := h.exceeded_iff.1 hexceeded
  refine hmore.exceeded_iff.2 ⟨bound, hlimit, ?_⟩
  have hseen := h.seen_eq
  have hcount := hmore.seen_eq
  rw [List.map_append, List.sum_append] at hcount
  omega

theorem finish_of_exceeded (hexceeded : parser.exceeded = true) :
    parser.finish.1 = .empty := by
  simp [finish, hexceeded]

theorem HasTaken.finish_of_fits (h : HasTaken limit decoder chunks parser)
    (hexceeded : parser.exceeded = false) :
    parser.finish.1 = decoder.bodyOf chunks := by
  simp [finish, BodyDecoder.bodyOf, hexceeded, h.released_eq,
    h.decoder_eq hexceeded]

end BodyParser

/-! ## Decoders that keep the bytes as they are -/

namespace BodyDecoder

theorem bodyOf_discard (chunks : List Bytes) :
    bodyOf .discard chunks = .empty := by
  induction chunks with
  | nil => rfl
  | cons chunk chunks ih => exact ih

theorem append_flatten_cons (kept : Array UInt8) (chunk : Bytes)
    (chunks : List Bytes) :
    kept ++ (chunk :: chunks).flatten = kept ++ chunk ++ chunks.flatten := by
  apply Array.toList_inj.1
  simp

/-- A decoder that adds each chunk to what it keeps keeps all the bytes. -/
theorem foldl_decode_keeping {keeping : Array UInt8 → BodyDecoder}
    (h : ∀ kept chunk, (keeping kept).decode chunk = keeping (kept ++ chunk))
    (kept : Array UInt8) (chunks : List Bytes) :
    chunks.foldl decode (keeping kept) = keeping (kept ++ chunks.flatten) := by
  induction chunks generalizing kept with
  | nil => simp
  | cons chunk chunks ih => rw [List.foldl_cons, h, ih, append_flatten_cons]

theorem bodyOf_raw (chunks : List Bytes) :
    bodyOf (.raw #[]) chunks = .ofBytes chunks.flatten := by
  have hkept : chunks.foldl decode (.raw #[]) = .raw (#[] ++ chunks.flatten) :=
    foldl_decode_keeping (fun _ _ => rfl) #[] chunks
  simp [bodyOf, hkept, finish]

theorem bodyOf_urlEncoded (chunks : List Bytes) :
    bodyOf (.urlEncoded #[]) chunks = .form (.ofUrlEncoded chunks.flatten) := by
  have hkept : chunks.foldl decode (.urlEncoded #[]) =
      .urlEncoded (#[] ++ chunks.flatten) :=
    foldl_decode_keeping (fun _ _ => rfl) #[] chunks
  simp [bodyOf, hkept, finish]

end BodyDecoder

/-! ## Plain bodies -/

/-- The bodies that are read off their bytes at the end. -/
inductive PlainKind where
  | empty
  | raw
  | urlEncoded
  deriving DecidableEq, Repr

namespace PlainKind

def decoder : PlainKind → BodyDecoder
  | .empty => .discard
  | .raw => .raw #[]
  | .urlEncoded => .urlEncoded #[]

def parser (kind : PlainKind) (limit : Option Nat) : BodyParser :=
  match kind with
  | .empty => .new limit .discard
  | .raw => .raw limit
  | .urlEncoded => .urlEncoded limit

/-- The body that all the bytes stand for. -/
def decode (kind : PlainKind) (bytes : Bytes) : Body :=
  match kind with
  | .empty => .empty
  | .raw => if bytes = [] then .empty else .raw bytes
  | .urlEncoded => .form ⟨⟨.form, Query.decode bytes⟩, []⟩

theorem parser_eq_new (kind : PlainKind) (limit : Option Nat) :
    kind.parser limit = .new limit kind.decoder := by
  cases kind <;> rfl

theorem bodyOf_decoder (kind : PlainKind) (chunks : List Bytes) :
    kind.decoder.bodyOf chunks = kind.decode chunks.flatten := by
  cases kind with
  | empty => exact BodyDecoder.bodyOf_discard chunks
  | raw =>
      refine (BodyDecoder.bodyOf_raw chunks).trans ?_
      simp only [Body.ofBytes, decode, List.isEmpty_iff]
  | urlEncoded => exact BodyDecoder.bodyOf_urlEncoded chunks

end PlainKind

namespace BodyParser

theorem hasTaken_plain (kind : PlainKind) (limit : Option Nat)
    (chunks : List Bytes) :
    HasTaken limit kind.decoder chunks
      ((kind.parser limit).offerAll chunks) := by
  rw [kind.parser_eq_new limit]
  exact hasTaken_new_offerAll limit kind.decoder chunks

theorem finish_offerAll_plain (kind : PlainKind) (limit : Option Nat)
    (chunks : List Bytes) :
    ((kind.parser limit).offerAll chunks).finish.1 =
      if ((kind.parser limit).offerAll chunks).exceeded then .empty
      else kind.decode chunks.flatten := by
  cases hexceeded : ((kind.parser limit).offerAll chunks).exceeded with
  | true => exact finish_of_exceeded hexceeded
  | false =>
      rw [(hasTaken_plain kind limit chunks).finish_of_fits hexceeded]
      exact kind.bodyOf_decoder chunks

/-- The count, the flag and the body of a plain parser follow from the bytes
offered to it, in whatever chunks they came. -/
theorem offerAll_plain_report (kind : PlainKind) (limit : Option Nat)
    (chunks : List Bytes) :
    let parser := (kind.parser limit).offerAll chunks
    parser.seen = min (chunks.map List.length).sum (2 ^ 64 - 1) ∧
      (parser.exceeded = true ↔
        ∃ bound, limit = some bound ∧ bound < parser.seen) ∧
      (∀ more, parser.exceeded = true →
        (parser.offerAll more).exceeded = true) ∧
      parser.finish.1 =
        (if parser.exceeded then .empty else kind.decode chunks.flatten) ∧
      ∀ others, others.flatten = chunks.flatten →
        let other := (kind.parser limit).offerAll others
        other.seen = parser.seen ∧ other.exceeded = parser.exceeded ∧
          other.finish.1 = parser.finish.1 := by
  intro parser
  have h := hasTaken_plain kind limit chunks
  refine ⟨h.seen_eq, h.exceeded_iff, ?_,
    finish_offerAll_plain kind limit chunks, ?_⟩
  · intro more hexceeded
    exact h.exceeded_offerAll hexceeded more
  · intro others hothers other
    have hother := hasTaken_plain kind limit others
    have hseen : other.seen = parser.seen := by
      rw [hother.seen_eq, h.seen_eq, ← List.length_flatten,
        ← List.length_flatten, hothers]
    have hexceeded : other.exceeded = parser.exceeded := by
      rw [Bool.eq_iff_iff, hother.exceeded_iff, h.exceeded_iff, hseen]
    refine ⟨hseen, hexceeded, ?_⟩
    calc other.finish.1
        = if other.exceeded then .empty else kind.decode others.flatten :=
          finish_offerAll_plain kind limit others
      _ = if parser.exceeded then .empty else kind.decode chunks.flatten := by
          rw [hexceeded, hothers]
      _ = parser.finish.1 := (finish_offerAll_plain kind limit chunks).symm

end BodyParser

end HttpEngine
