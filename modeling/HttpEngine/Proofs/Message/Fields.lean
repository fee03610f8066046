import HttpEngine.Header
import HttpEngine.Proofs.Text.Utf8

/-!
# Header fields

What replacing the values of a field does to it and to the others, and what the
values of a `Content-Length` field say.
-/

namespace HttpEngine

/-! ## Replaced fields -/

namespace HeaderMap

theorem getAll_insert {name : String} (h : Header.normalizeName name = name)
    (headers : HeaderMap) (value : Bytes) :
    (headers.insert name value).getAll name = [value] := by
  simp [insert, remove, append, getAll, h, List.filter_filter]

theorem getAll_insert_of_ne {name other : String}
    (h : Header.normalizeName name = name)
    (hne : name ≠ Header.normalizeName other) (headers : HeaderMap)
    (value : Bytes) :
    (headers.insert name value).getAll other = headers.getAll other := by
  have hkept : ∀ field ∈ headers.fields,
      (field.1 == Header.normalizeName other && field.1 != name) =
        (field.1 == Header.normalizeName other) := by
    intro field _
    by_cases hsame : field.1 = Header.normalizeName other
    · simp [hsame, Ne.symm hne]
    · simp [hsame]
  simp only [insert, remove, append, getAll, h, List.filter_append,
    List.filter_filter]
  rw [List.filter_congr hkept]
  simp [hne]

end HeaderMap

/-! ## Lengths -/

/-- The length that a value spells in decimal digits. -/
def Header.length? (value : Bytes) : Option Nat :=
  let digits := Utf8.decodeLossy value
  if digits ≠ [] ∧ digits.all Char.isDigit then
    some (Nat.ofDigitChars 10 digits 0) else none

theorem Header.length?_ofString (length : Nat) :
    Header.length? (Utf8.ofString (toString length)) = some length := by
  have hdigits : (toString length).toList = Nat.toDigits 10 length := by
    rw [Nat.toString_eq_ofList_toDigits, String.toList_ofList]
  have hall : ∀ digit ∈ Nat.toDigits 10 length, digit.isDigit = true :=
    fun digit hamong =>
    Nat.isDigit_of_mem_toDigits (by decide) (by decide) hamong
  rw [Utf8.ofString, hdigits, Header.length?, Utf8.decodeLossy_encode,
    if_pos ⟨Nat.toDigits_ne_nil, List.all_eq_true.2 hall⟩,
    Nat.ofDigitChars_ten_toDigits]

/-- A length is announced not at all, or once and truthfully. -/
def HeaderMap.Announces (headers : HeaderMap) (length : Nat) : Prop :=
  (headers.getAll "content-length").length ≤ 1 ∧
    ∀ value ∈ headers.getAll "content-length",
      Header.length? value = some length

instance (headers : HeaderMap) (length : Nat) :
    Decidable (headers.Announces length) :=
  inferInstanceAs (Decidable (_ ∧ _))

end HttpEngine
