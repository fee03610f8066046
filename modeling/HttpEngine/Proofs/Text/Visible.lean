import HttpEngine.Header
import HttpEngine.Proofs.Text.Blank
import HttpEngine.Proofs.Text.Utf8

/-!
# Visible texts

A text of visible ASCII is written with one byte for each character.  It can
stand in a header field, and writing it keeps the order.
-/

namespace HttpEngine

/-- The character can stand in a header value that counts as text. -/
def IsVisibleChar (character : Char) : Prop :=
  character.toNat = 9 ∨ 32 ≤ character.toNat ∧ character.toNat < 127

instance (character : Char) : Decidable (IsVisibleChar character) :=
  inferInstanceAs (Decidable (_ ∨ _))

def IsVisible (text : List Char) : Prop :=
  ∀ character ∈ text, IsVisibleChar character

theorem IsVisibleChar.toNat_lt {character : Char}
    (h : IsVisibleChar character) :
    character.toNat < 127 := by
  rcases h with h | h <;> omega

theorem IsVisible.cons_iff {character : Char} {text : List Char} :
    IsVisible (character :: text) ↔ IsVisibleChar character ∧ IsVisible text :=
  List.forall_mem_cons

theorem IsVisibleChar.toLower_iff {character : Char} :
    IsVisibleChar character.toLower ↔ IsVisibleChar character := by
  rw [IsVisibleChar, IsVisibleChar, Text.toNat_toLower]
  split <;> omega

theorem IsVisible.lower_iff {text : List Char} :
    IsVisible (Text.lower text) ↔ IsVisible text := by
  simp [IsVisible, Text.lower, IsVisibleChar.toLower_iff]

/-! ## Bytes -/

/-- A byte and the character that spells it have one number. -/
theorem toNat_ofNat_byte (byte : UInt8) :
    (Char.ofNat byte.toNat).toNat = byte.toNat := by
  have hvalid : byte.toNat.isValidChar := .inl (by have := byte.toNat_lt; omega)
  rw [Char.ofNat, dif_pos hvalid]
  rfl

theorem utf8EncodeChar_of_isVisibleChar {character : Char}
    (h : IsVisibleChar character) :
    String.utf8EncodeChar character = [UInt8.ofNat character.toNat] := by
  have hlt := h.toNat_lt
  have hascii : character.val.toNat ≤ 0x7f := by
    change character.toNat ≤ 0x7f
    omega
  unfold String.utf8EncodeChar
  dsimp only
  rw [if_pos hascii]
  rfl

theorem toNat_ofNat_toNat {character : Char} (h : IsVisibleChar character) :
    (UInt8.ofNat character.toNat).toNat = character.toNat := by
  have hlt := h.toNat_lt
  rw [UInt8.toNat_ofNat']
  omega

theorem isValue_encode {text : List Char} (h : IsVisible text) :
    Header.isValue (Utf8.encode text) = true := by
  induction text with
  | nil => rfl
  | cons character text ih =>
      obtain ⟨hcharacter, htext⟩ := IsVisible.cons_iff.1 h
      have hbyte : Header.isValueByte (UInt8.ofNat character.toNat) = true := by
        simp only [Header.isValueByte, toNat_ofNat_toNat hcharacter,
          Bool.or_eq_true, beq_iff_eq,
          decide_eq_true_eq]
        rcases hcharacter with htab | hrange
        · exact .inl htab
        · exact .inr ⟨hrange.1, by omega⟩
      have hrest := ih htext
      rw [Header.isValue] at hrest ⊢
      rw [Utf8.encode_cons, utf8EncodeChar_of_isVisibleChar hcharacter,
        List.all_append, hrest]
      simp [hbyte]

theorem encode_lt_encode {first second : List Char} (hfirst : IsVisible first)
    (hsecond : IsVisible second) (h : first < second) :
    Utf8.encode first < Utf8.encode second := by
  induction first generalizing second with
  | nil =>
      cases second with
      | nil => exact absurd h (List.lt_irrefl [])
      | cons character second =>
          rw [Utf8.encode_cons,
            utf8EncodeChar_of_isVisibleChar (IsVisible.cons_iff.1 hsecond).1]
          exact List.nil_lt_cons _ _
  | cons character first ih =>
      cases second with
      | nil => exact absurd h (List.not_lt_nil _)
      | cons other second =>
          obtain ⟨hcharacter, hfirstRest⟩ := IsVisible.cons_iff.1 hfirst
          obtain ⟨hother, hsecondRest⟩ := IsVisible.cons_iff.1 hsecond
          rw [Utf8.encode_cons, Utf8.encode_cons,
            utf8EncodeChar_of_isVisibleChar hcharacter,
            utf8EncodeChar_of_isVisibleChar hother, List.singleton_append,
            List.singleton_append, List.cons_lt_cons_iff]
          rcases List.cons_lt_cons_iff.1 h with hless | ⟨rfl, hrest⟩
          · left
            rw [UInt8.lt_iff_toNat_lt, toNat_ofNat_toNat hcharacter,
              toNat_ofNat_toNat hother]
            exact hless
          · exact .inr ⟨rfl, ih hfirstRest hsecondRest hrest⟩

/-! ## Header values and tokens -/

theorem isVisible_of_text? {value : Bytes} {text : String}
    (h : Header.text? value = some text) :
    IsVisible text.toList := by
  unfold Header.text? at h
  split at h
  · next hvisible =>
      obtain rfl := Option.some.inj h
      intro character hcharacter
      rw [String.toList_ofList] at hcharacter
      obtain ⟨byte, hbyte, rfl⟩ := List.mem_map.1 hcharacter
      have hrange := List.all_eq_true.1 hvisible byte hbyte
      simp only [Header.isVisibleByte, Bool.or_eq_true, beq_iff_eq,
        decide_eq_true_eq] at hrange
      rw [IsVisibleChar, toNat_ofNat_byte]
      exact hrange
  · cases h

theorem isVisibleChar_of_isTokenChar {character : Char}
    (h : isTokenChar character = true) :
    IsVisibleChar character ∧ character ≠ ',' := by
  simp only [isTokenChar, Bool.or_eq_true, beq_iff_eq, List.contains_iff_mem]
    at h
  rcases h with (halphanum | hmark) | rfl
  · have hbounds : 48 ≤ character.toNat ∧ character.toNat ≤ 122 := by
      delta Char.isAlphanum Char.isAlpha Char.isUpper Char.isLower Char.isDigit
        at halphanum
      simp [UInt32.le_iff_toNat_le] at halphanum
      omega
    refine ⟨.inr (by omega), ?_⟩
    rintro rfl
    exact absurd hbounds.1 (by decide)
  · have hall : ("!#$%&'*+-.^_|~".toList.all fun mark =>
        decide (IsVisibleChar mark ∧ mark ≠ ',')) = true := by
      decide +kernel
    exact of_decide_eq_true (List.all_eq_true.1 hall character hmark)
  · decide

end HttpEngine
