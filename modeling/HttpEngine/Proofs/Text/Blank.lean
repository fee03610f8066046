import HttpEngine.Text.Blank
import Mathlib.Data.List.TakeWhile

/-!
# Trimmed texts

Trimming takes blanks from both ends of a text and nothing else, and letter case
does not matter to it.
-/

namespace HttpEngine.Text

/-! ## Blanks at the ends -/

theorem trim_cons_of_isBlank {character : Char} (h : isBlank character = true)
    (text : List Char) : trim (character :: text) = trim text := by
  rw [trim, List.dropWhile_cons_of_pos h, trim]

/-- There is nothing to trim between two characters that are no blanks. -/
theorem trim_between {first last : Char} (hfirst : isBlank first = false)
    (hlast : isBlank last = false) (text : List Char) :
    trim (first :: (text ++ [last])) = first :: (text ++ [last]) := by
  rw [trim, List.dropWhile_cons_of_neg (by simp [hfirst]), List.reverse_cons,
    List.reverse_append, List.reverse_singleton, List.singleton_append,
    List.cons_append, List.dropWhile_cons_of_neg (by simp [hlast])]
  simp

theorem mem_of_mem_trim {character : Char} {text : List Char}
    (h : character ∈ trim text) :
    character ∈ text := by
  rw [trim, List.mem_reverse] at h
  have hdropped := (List.dropWhile_sublist _).mem h
  rw [List.mem_reverse] at hdropped
  exact (List.dropWhile_sublist _).mem hdropped

theorem trim_append_of_isBlank {right : List Char}
    (h : ∀ character ∈ right, isBlank character) (text : List Char) :
    trim (text ++ right) = trim text := by
  have hdropped (rest : List Char) : (right.reverse ++ rest).dropWhile isBlank =
      rest.dropWhile isBlank :=
    List.dropWhile_append_of_pos fun character hamong =>
      h character (List.mem_reverse.1 hamong)
  rw [trim, trim, List.dropWhile_append]
  split
  · next hnone =>
      rw [List.isEmpty_iff.1 hnone, List.dropWhile_eq_nil_iff.2 h]
  · rw [List.reverse_append, hdropped]

/-- Blanks around a text are not part of it. -/
theorem trim_pad {left right : List Char}
    (hleft : ∀ character ∈ left, isBlank character)
    (hright : ∀ character ∈ right, isBlank character) (text : List Char) :
    trim (left ++ text ++ right) = trim text := by
  rw [trim_append_of_isBlank hright, trim,
    List.dropWhile_append_of_pos hleft, trim]

/-! ## Letter case -/

theorem toNat_toLower (character : Char) : character.toLower.toNat =
    if 65 ≤ character.toNat ∧ character.toNat ≤ 90 then character.toNat + 32
    else character.toNat := by
  have hupper : ('A'.val ≤ character.val ∧ character.val ≤ 'Z'.val) ↔
      65 ≤ character.toNat ∧ character.toNat ≤ 90 := by
    simp [UInt32.le_iff_toNat_le]
  delta Char.toLower
  split
  · next hbetween =>
      have hbounds := hupper.1 hbetween
      rw [if_pos hbounds]
      change (character.val + 32).toNat = character.toNat + 32
      rw [UInt32.toNat_add, Char.toNat_val]
      exact Nat.mod_eq_of_lt (by change character.toNat + 32 < 2 ^ 32; omega)
  · next houtside => rw [if_neg (mt hupper.2 houtside)]

theorem isBlank_toLower (character : Char) :
    isBlank character.toLower = isBlank character := by
  rw [isBlank, isBlank, toNat_toLower]
  split
  · grind
  · rfl

theorem trim_lower (text : List Char) :
    trim (lower text) = lower (trim text) := by
  have hsame : isBlank ∘ Char.toLower = isBlank := funext isBlank_toLower
  rw [trim, lower, List.dropWhile_map, hsame, ← List.map_reverse,
    List.dropWhile_map, hsame, ← List.map_reverse, lower, trim]

/-- No letter is a comma, in neither case. -/
theorem splitOn_lower (text : List Char) :
    (lower text).splitOn ',' = (text.splitOn ',').map lower := by
  induction text with
  | nil => rfl
  | cons character text ih =>
      have hcomma : (character.toLower == ',') = (character == ',') := by
        rw [Bool.eq_iff_iff, beq_iff_eq, beq_iff_eq, ← Char.toNat_inj,
          ← Char.toNat_inj, toNat_toLower, show ','.toNat = 44 from rfl]
        split <;> omega
      rw [lower, List.map_cons, ← lower, List.splitOn_cons_eq_if_modifyHead,
        hcomma, ih, List.splitOn_cons_eq_if_modifyHead]
      split
      · rfl
      · obtain ⟨first, rest, hcut⟩ :=
          List.exists_cons_of_ne_nil (List.splitOn_ne_nil ',' text)
        rw [hcut]
        rfl

end HttpEngine.Text
