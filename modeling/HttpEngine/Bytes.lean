/-!
# Bytes and sequences

Message bodies, header values and frames are lists of bytes.  The operations on
them that are not in the standard library are numbers written in bytes, and
cuts: at the first occurrence of a run, at the first occurrence of one element,
and into pieces of a given size.
-/

namespace HttpEngine

abbrev Bytes := List UInt8

/-- Carriage return and line feed. -/
def crlf : Bytes := [13, 10]

/-- Two hyphens, which open and close the delimiters of a multipart body. -/
def dashes : Bytes := [45, 45]

/-! ## Numbers -/

namespace BigEndian

/-- The low bytes of a number, the most significant one first. -/
def encode (width value : Nat) : Bytes :=
  (List.range width).map fun index =>
    UInt8.ofNat (value >>> (8 * (width - 1 - index)))

/-- The number that bytes spell, the most significant one first. -/
def decode (bytes : Bytes) : Nat :=
  bytes.foldl (fun value byte => value * 256 + byte.toNat) 0

end BigEndian

namespace Sequence

variable {α : Type} [BEq α]

/-! ## Cuts -/

/-- What follows `first` at the front of a list. -/
def dropPrefix? : List α → List α → Option (List α)
  | [], items => some items
  | _ :: _, [] => none
  | expected :: rest, head :: tail =>
      if expected == head then dropPrefix? rest tail else none

/-- What stands before and after the first occurrence of `needle`. -/
def cut? (needle : List α) : List α → Option (List α × List α)
  | [] => if needle.isEmpty then some ([], []) else none
  | head :: tail =>
      match dropPrefix? needle (head :: tail) with
      | some after => some ([], after)
      | none => (cut? needle tail).map fun (before, after) =>
          (head :: before, after)

theorem dropPrefix?_eq_some_iff {α : Type} [BEq α] [LawfulBEq α]
    {first items after : List α} :
    dropPrefix? first items = some after ↔ items = first ++ after := by
  induction first generalizing items with
  | nil => simp [dropPrefix?]
  | cons expected rest ih =>
      cases items with
      | nil => simp [dropPrefix?]
      | cons head tail =>
          by_cases h : expected = head
          · simp [dropPrefix?, h, ih]
          · simp [dropPrefix?, h, Ne.symm h]

theorem eq_of_cut? {α : Type} [BEq α] [LawfulBEq α]
    {needle items before after : List α}
    (h : cut? needle items = some (before, after)) :
    items = before ++ needle ++ after := by
  induction items generalizing before with
  | nil =>
      simp only [cut?] at h
      split at h <;> simp_all
  | cons head tail ih =>
      simp only [cut?] at h
      split at h
      · next rest hprefix =>
          obtain ⟨rfl, rfl⟩ := Prod.mk.inj (Option.some.inj h)
          simpa using dropPrefix?_eq_some_iff.1 hprefix
      · next hprefix =>
          obtain ⟨⟨first, last⟩, hcut, hpair⟩ := Option.map_eq_some_iff.1 h
          obtain ⟨rfl, rfl⟩ := Prod.mk.inj hpair
          simp [ih hcut]

/-- What stands before and after the first element equal to `separator`. -/
def cutAt? (separator : α) : List α → Option (List α × List α)
  | [] => none
  | head :: tail =>
      if head == separator then some ([], tail)
      else (cutAt? separator tail).map fun (before, after) =>
        (head :: before, after)

/-- Splits at every occurrence of the run `separator`; `fuel` bounds the number
of cuts. -/
def splitRunsAux (separator : List α) : Nat → List α → List (List α)
  | 0, items => [items]
  | fuel + 1, items =>
      match cut? separator items with
      | some (before, after) => before :: splitRunsAux separator fuel after
      | none => [items]

/-- Splits at every occurrence of the non-empty run `separator`. -/
def splitRuns (separator items : List α) : List (List α) :=
  splitRunsAux separator items.length items

/-- Everything but the last `count` elements, and those. -/
def splitLast (count : Nat) (items : List α) : List α × List α :=
  items.splitAt (items.length - count)

/-! ## Pieces -/

/-- Cuts from the left into pieces of `size` elements; the last one may be
shorter, and none is empty. -/
def pieces (size : Nat) (items : List α) : List (List α) :=
  if _h : items = [] ∨ size = 0 then []
  else items.take size :: pieces size (items.drop size)
termination_by items.length
decreasing_by
  have : items.length ≠ 0 := by simpa using fun hitems => _h (Or.inl hitems)
  simp only [List.length_drop]
  omega

end Sequence

end HttpEngine
