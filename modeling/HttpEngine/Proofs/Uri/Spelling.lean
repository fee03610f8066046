import HttpEngine.Proofs.Text.Utf8
import HttpEngine.Uri.Percent

/-!
# Spellings of a path

A byte of a path is written as it is or as a percent sign and two digits, a
percent sign and a byte outside ASCII only in the second way.  All spellings of
a text decode to it.
-/

namespace HttpEngine.Percent

/-- A hexadecimal digit of either case. -/
def IsDigit (digit : UInt8) (value : Nat) : Prop :=
  value < 10 ∧ digit.toNat = 48 + value ∨
    10 ≤ value ∧ value < 16 ∧
    (digit.toNat = 55 + value ∨ digit.toNat = 87 + value)

instance (digit : UInt8) (value : Nat) : Decidable (IsDigit digit value) :=
  inferInstanceAs (Decidable (_ ∨ _))

/-- The second list spells the bytes of the first one. -/
inductive Spells : Bytes → Bytes → Prop where
  | nil : Spells [] []
  | plain {byte : UInt8} {bytes written : Bytes} (hascii : byte.toNat < 0x80)
      (hsign : byte ≠ percentSign) (h : Spells bytes written) :
      Spells (byte :: bytes) (byte :: written)
  | escaped {byte high low : UInt8} {bytes written : Bytes}
      (hhigh : IsDigit high (byte.toNat / 16))
      (hlow : IsDigit low (byte.toNat % 16)) (h : Spells bytes written) :
      Spells (byte :: bytes) (percentSign :: high :: low :: written)

/-! ## Decoding -/

theorem hexValue?_of_isDigit {digit : UInt8} {value : Nat}
    (h : IsDigit digit value) :
    hexValue? digit = some value := by
  unfold hexValue?
  dsimp only
  rcases h with ⟨hsmall, hdigit⟩ | ⟨hlow, hhigh, hupper | hlower⟩
  · rw [if_pos (by omega), hdigit, Nat.add_sub_cancel_left]
  · rw [if_neg (by omega), if_neg (by omega), if_pos (by omega), hupper,
      Nat.add_sub_cancel_left]
  · rw [if_neg (by omega), if_pos (by omega), hlower, Nat.add_sub_cancel_left]

theorem joinHex?_of_isDigit {byte high low : UInt8}
    (hhigh : IsDigit high (byte.toNat / 16))
    (hlow : IsDigit low (byte.toNat % 16)) : joinHex? high low = some byte := by
  have hvalue : byte.toNat / 16 * 16 + byte.toNat % 16 = byte.toNat := by omega
  simp only [joinHex?, hexValue?_of_isDigit hhigh,
    hexValue?_of_isDigit hlow, hvalue, UInt8.ofNat_toNat]

theorem decode_cons_of_ne {byte : UInt8} (h : byte ≠ percentSign)
    (rest : Bytes) :
    decode (byte :: rest) = byte :: decode rest := by
  cases rest with
  | nil => simp [decode]
  | cons second rest =>
      cases rest with
      | nil => simp [decode]
      | cons third rest => rw [decode, if_neg h]

theorem decode_escaped {byte high low : UInt8}
    (hhigh : IsDigit high (byte.toNat / 16))
    (hlow : IsDigit low (byte.toNat % 16)) (rest : Bytes) :
    decode (percentSign :: high :: low :: rest) = byte :: decode rest := by
  rw [decode, if_pos rfl, joinHex?_of_isDigit hhigh hlow]

theorem Spells.decode_eq {bytes written : Bytes} (h : Spells bytes written) :
    decode written = bytes := by
  induction h with
  | nil => rfl
  | plain _ hsign _ ih => rw [decode_cons_of_ne hsign, ih]
  | escaped hhigh hlow _ ih => rw [decode_escaped hhigh hlow, ih]

/-! ## Paths -/

/-- What a written path stands for: the text that it spells, or itself when it
spells none. -/
inductive StandsFor (written text : String) : Prop where
  | spelled (h : Spells (Utf8.ofString text) (Utf8.ofString written))
  | verbatim (h : ∀ other, decode (Utf8.ofString written) ≠ Utf8.ofString other)
      (heq : written = text)

theorem StandsFor.decodePath_eq {written text : String}
    (h : StandsFor written text) :
    decodePath written = text := by
  cases h with
  | spelled h =>
      rw [decodePath, h.decode_eq, Utf8.toString?_eq_some_iff.2 rfl]
      rfl
  | verbatim h heq =>
      rw [decodePath, Utf8.toString?_eq_none_iff.2 h, heq]
      rfl

end HttpEngine.Percent
