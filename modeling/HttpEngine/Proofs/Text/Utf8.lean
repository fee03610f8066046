import HttpEngine.Text.Utf8

/-!
# Texts through UTF-8

Reading the bytes of a text gives the text back, and strict reading accepts no
other bytes.  Only the characters of ASCII are written with bytes of ASCII, so
that a text holds such a byte exactly when it holds that character.
-/

namespace HttpEngine.Utf8

/-! ## Reading one character -/

section

variable {lead second third fourth : UInt8}

private theorem scan_ascii (h : lead.toNat < 0x80) (rest : Bytes) :
    scan (lead :: rest) = some (Char.ofNat lead.toNat) :: scan rest := by
  have hlead : leadOf lead = .ascii := by rw [leadOf, if_pos h]
  rw [scan.eq_def]
  simp only [hlead]

private theorem scan_pair (hlow : 0xC2 ≤ lead.toNat) (hhigh : lead.toNat ≤ 0xDF)
    (hsecond : isTail second = true) (rest : Bytes) :
    scan (lead :: second :: rest) = some (joinTwo lead second) ::
      scan rest := by
  have hlead : leadOf lead = .pair := by
    rw [leadOf, if_neg (by omega), if_pos ⟨hlow, hhigh⟩]
  rw [scan.eq_def]
  simp only [hlead, hsecond, if_true]

private theorem scan_triple (hlow : 0xE0 ≤ lead.toNat)
    (hhigh : lead.toNat ≤ 0xEF) (hsecond : isSecond lead second = true)
    (hthird : isTail third = true) (rest : Bytes) :
    scan (lead :: second :: third :: rest) =
      some (joinThree lead second third) :: scan rest := by
  have hlead : leadOf lead = .triple := by
    rw [leadOf, if_neg (by omega), if_neg (by omega), if_pos ⟨hlow, hhigh⟩]
  rw [scan.eq_def]
  simp only [hlead, hsecond, hthird, if_true]

private theorem scan_quadruple (hlow : 0xF0 ≤ lead.toNat)
    (hhigh : lead.toNat ≤ 0xF4) (hsecond : isSecond lead second = true)
    (hthird : isTail third = true) (hfourth : isTail fourth = true)
    (rest : Bytes) :
    scan (lead :: second :: third :: fourth :: rest) =
      some (joinFour lead second third fourth) :: scan rest := by
  have hlead : leadOf lead = .quadruple := by
    rw [leadOf, if_neg (by omega), if_neg (by omega), if_neg (by omega),
      if_pos ⟨hlow, hhigh⟩]
  rw [scan.eq_def]
  simp only [hlead, hsecond, hthird, hfourth, if_true]

private theorem isTail_of_range (hlow : 0x80 ≤ lead.toNat)
    (hhigh : lead.toNat ≤ 0xBF) :
    isTail lead = true :=
  decide_eq_true ⟨hlow, hhigh⟩

private theorem isSecond_iff :
    isSecond lead second = true ↔
      0x80 ≤ second.toNat ∧ second.toNat ≤ 0xBF ∧
      (lead.toNat = 0xE0 → 0xA0 ≤ second.toNat) ∧
        (lead.toNat = 0xED → second.toNat ≤ 0x9F) ∧
        (lead.toNat = 0xF0 → 0x90 ≤ second.toNat) ∧
          (lead.toNat = 0xF4 → second.toNat ≤ 0x8F) := by
  unfold isSecond
  grind

end

/-! ## Writing one character -/

private theorem toNat_ofNat_of_lt {value : Nat} (h : value < 256) :
    (UInt8.ofNat value).toNat = value := by
  rw [UInt8.toNat_ofNat']
  omega

private theorem ofNat_eq_of_eq_toNat {character : Char} {point : Nat}
    (h : point = character.toNat) : Char.ofNat point = character := by
  rw [h]
  exact Char.ofNat_toNat character

/-- Code points are below the surrogates or above them, and within the code
space. -/
theorem toNat_range (character : Char) :
    character.toNat < 0xD800 ∨ 0xDFFF < character.toNat ∧
      character.toNat < 0x110000 :=
  character.valid

/-- The bytes of a character read back as that character. -/
theorem scan_encodeChar_append (character : Char) (rest : Bytes) :
    scan (String.utf8EncodeChar character ++ rest) =
      some character :: scan rest := by
  have hrange := toNat_range character
  obtain ⟨point, hpoint⟩ : ∃ point, point = character.toNat := ⟨_, rfl⟩
  rw [← hpoint] at hrange
  have htail :
      ∀ value, (UInt8.ofNat (value % 0x40 + 0x80)).toNat =
        value % 0x40 + 0x80 :=
    fun value => toNat_ofNat_of_lt (by omega)
  unfold String.utf8EncodeChar
  rw [show character.val.toNat = point from hpoint.symm]
  dsimp only
  split
  · next hone =>
      have hlead : (UInt8.ofNat point).toNat = point :=
        toNat_ofNat_of_lt (by omega)
      rw [List.cons_append, List.nil_append, scan_ascii (by omega), hlead,
        ofNat_eq_of_eq_toNat hpoint]
  split
  · next hone htwo =>
      have hlead : (UInt8.ofNat (point / 64 % 0x20 + 0xc0)).toNat =
          point / 64 % 0x20 + 0xc0 :=
        toNat_ofNat_of_lt (by omega)
      have hsecond := htail point
      simp only [List.cons_append, List.nil_append]
      rw [scan_pair (by omega) (by omega)
        (isTail_of_range (by omega) (by omega)), joinTwo, ofNat_eq_of_eq_toNat]
      omega
  split
  · next hone htwo hthree =>
      have hlead : (UInt8.ofNat (point / 4096 % 0x10 + 0xe0)).toNat =
          point / 4096 % 0x10 + 0xe0 := toNat_ofNat_of_lt (by omega)
      have hsecond := htail (point / 64)
      have hthird := htail point
      simp only [List.cons_append, List.nil_append]
      have hshape : isSecond (UInt8.ofNat (point / 4096 % 0x10 + 0xe0))
          (UInt8.ofNat (point / 64 % 0x40 + 0x80)) = true := by
        exact isSecond_iff.2 (by omega)
      rw [scan_triple (by omega) (by omega) hshape
        (isTail_of_range (by omega) (by omega)),
        joinThree, ofNat_eq_of_eq_toNat]
      omega
  · next hone htwo hthree =>
      have hlead : (UInt8.ofNat (point / 262144 % 0x08 + 0xf0)).toNat =
          point / 262144 % 0x08 + 0xf0 := toNat_ofNat_of_lt (by omega)
      have hsecond := htail (point / 4096)
      have hthird := htail (point / 64)
      have hfourth := htail point
      simp only [List.cons_append, List.nil_append]
      have hshape : isSecond (UInt8.ofNat (point / 262144 % 0x08 + 0xf0))
          (UInt8.ofNat (point / 4096 % 0x40 + 0x80)) = true := by
        exact isSecond_iff.2 (by omega)
      rw [scan_quadruple (by omega) (by omega) hshape
        (isTail_of_range (by omega) (by omega))
        (isTail_of_range (by omega) (by omega)), joinFour, ofNat_eq_of_eq_toNat]
      omega

/-- A byte of ASCII stands for nothing but itself. -/
theorem eq_of_mem_encodeChar {byte : UInt8} {character : Char}
    (h : byte ∈ String.utf8EncodeChar character) (hascii : byte.toNat < 0x80) :
    character = Char.ofNat byte.toNat := by
  have hlong : ∀ value, 0x80 ≤ value → value < 256 →
      byte ≠ UInt8.ofNat value := by
    rintro value hlow hhigh rfl
    rw [toNat_ofNat_of_lt hhigh] at hascii
    omega
  have hrange := toNat_range character
  obtain ⟨point, hpoint⟩ : ∃ point, point = character.toNat := ⟨_, rfl⟩
  rw [← hpoint] at hrange
  unfold String.utf8EncodeChar at h
  rw [show character.val.toNat = point from hpoint.symm] at h
  dsimp only at h
  split at h
  · obtain rfl := List.mem_singleton.1 h
    rw [toNat_ofNat_of_lt (by omega), ofNat_eq_of_eq_toNat hpoint]
  · exfalso
    split at h
    · simp only [List.mem_cons, List.not_mem_nil, or_false] at h
      rcases h with h | h <;> exact hlong _ (by omega) (by omega) h
    · split at h
      · simp only [List.mem_cons, List.not_mem_nil, or_false] at h
        rcases h with h | h | h <;> exact hlong _ (by omega) (by omega) h
      · simp only [List.mem_cons, List.not_mem_nil, or_false] at h
        rcases h with h | h | h | h <;> exact hlong _ (by omega) (by omega) h

/-! ## Texts -/

theorem encode_cons (character : Char) (text : List Char) :
    encode (character :: text) = String.utf8EncodeChar character ++
      encode text :=
  List.flatMap_cons

@[simp] theorem encode_append (first second : List Char) :
    encode (first ++ second) = encode first ++ encode second :=
  List.flatMap_append

theorem encode_intercalate (separator : List Char) (pieces : List (List Char)) :
    encode (separator.intercalate pieces) =
      (encode separator).intercalate (pieces.map encode) := by
  induction pieces with
  | nil => rfl
  | cons piece more ih =>
      cases more with
      | nil => simp
      | cons second more =>
          rw [List.intercalate_cons_cons, encode_append, encode_append, ih]
          simp

theorem scan_encode (text : List Char) :
    scan (encode text) = text.map some := by
  induction text with
  | nil => rfl
  | cons character text ih =>
      rw [encode_cons, scan_encodeChar_append, ih]
      rfl

@[simp] theorem decodeLossy_encode (text : List Char) :
    decodeLossy (encode text) = text := by
  rw [decodeLossy, scan_encode, List.map_map]
  exact List.map_id text

theorem encode_eq_nil_iff {text : List Char} :
    encode text = [] ↔ text = [] := by
  constructor
  · intro h
    rw [← decodeLossy_encode text, h]
    rfl
  · rintro rfl
    rfl

@[simp] theorem toStringLossy_ofString (text : String) :
    toStringLossy (ofString text) = text := by
  rw [toStringLossy, ofString, decodeLossy_encode]
  exact String.ofList_toList

theorem mem_of_mem_encode {byte : UInt8} {text : List Char}
    (h : byte ∈ encode text) (hascii : byte.toNat < 0x80) :
    Char.ofNat byte.toNat ∈ text := by
  obtain ⟨character, hmem, hbyte⟩ := List.mem_flatMap.1 h
  rw [← eq_of_mem_encodeChar hbyte hascii]
  exact hmem

/-! ## Strict reading -/

section

variable {lead second third fourth : UInt8}

theorem toNat_charOfNat {point : Nat}
    (h : point < 0xD800 ∨ 0xDFFF < point ∧ point < 0x110000) :
    (Char.ofNat point).toNat = point := by
  rw [Char.ofNat, dif_pos h]
  rfl

theorem ofNat_eq_of_toNat_eq {value : Nat} (byte : UInt8)
    (h : byte.toNat = value) :
    UInt8.ofNat value = byte := by
  rw [← h]
  exact UInt8.ofNat_toNat

/-- The first bytes of each class. -/
theorem leadOf_range (byte : UInt8) :
    match leadOf byte with
    | .ascii => byte.toNat < 0x80
    | .pair => 0xC2 ≤ byte.toNat ∧ byte.toNat ≤ 0xDF
    | .triple => 0xE0 ≤ byte.toNat ∧ byte.toNat ≤ 0xEF
    | .quadruple => 0xF0 ≤ byte.toNat ∧ byte.toNat ≤ 0xF4
    | .stray => True := by
  unfold leadOf
  grind

private theorem encodeChar_ascii (hlead : leadOf lead = .ascii) :
    String.utf8EncodeChar (Char.ofNat lead.toNat) = [lead] := by
  have hrange := leadOf_range lead
  rw [hlead] at hrange
  have hpoint := toNat_charOfNat (.inl (show lead.toNat < 0xD800 by omega))
  unfold String.utf8EncodeChar
  rw [show (Char.ofNat lead.toNat).val.toNat = _ from hpoint]
  dsimp only
  rw [if_pos (by omega), UInt8.ofNat_toNat]

private theorem encodeChar_pair (hlead : leadOf lead = .pair)
    (hsecond : isTail second = true) :
    String.utf8EncodeChar (joinTwo lead second) = [lead, second] := by
  have hrange := leadOf_range lead
  rw [hlead] at hrange
  obtain ⟨hsecondLow, hsecondHigh⟩ := of_decide_eq_true hsecond
  have hpoint :
      (joinTwo lead second).toNat = lead.toNat % 32 * 64 + second.toNat % 64 :=
    toNat_charOfNat (.inl (by omega))
  unfold String.utf8EncodeChar
  rw [show (joinTwo lead second).val.toNat = _ from hpoint]
  dsimp only
  rw [if_neg (by omega), if_pos (by omega),
    ofNat_eq_of_toNat_eq lead (by omega),
    ofNat_eq_of_toNat_eq second (by omega)]

private theorem encodeChar_triple (hlead : leadOf lead = .triple)
    (hsecond : isSecond lead second = true) (hthird : isTail third = true) :
    String.utf8EncodeChar (joinThree lead second third) =
      [lead, second, third] := by
  have hrange := leadOf_range lead
  rw [hlead] at hrange
  have hsecondRange := isSecond_iff.1 hsecond
  obtain ⟨hthirdLow, hthirdHigh⟩ := of_decide_eq_true hthird
  have hpoint : (joinThree lead second third).toNat =
      lead.toNat % 16 * 4096 + second.toNat % 64 * 64 + third.toNat % 64 :=
    toNat_charOfNat (by omega)
  unfold String.utf8EncodeChar
  rw [show (joinThree lead second third).val.toNat = _ from hpoint]
  dsimp only
  rw [if_neg (by omega), if_neg (by omega), if_pos (by omega),
    ofNat_eq_of_toNat_eq lead (by omega),
    ofNat_eq_of_toNat_eq second (by omega),
    ofNat_eq_of_toNat_eq third (by omega)]

private theorem encodeChar_quadruple (hlead : leadOf lead = .quadruple)
    (hsecond : isSecond lead second = true) (hthird : isTail third = true)
    (hfourth : isTail fourth = true) :
    String.utf8EncodeChar (joinFour lead second third fourth) =
      [lead, second, third, fourth] := by
  have hrange := leadOf_range lead
  rw [hlead] at hrange
  have hsecondRange := isSecond_iff.1 hsecond
  obtain ⟨hthirdLow, hthirdHigh⟩ := of_decide_eq_true hthird
  obtain ⟨hfourthLow, hfourthHigh⟩ := of_decide_eq_true hfourth
  have hpoint : (joinFour lead second third fourth).toNat =
      lead.toNat % 8 * 262144 + second.toNat % 64 * 4096 +
        third.toNat % 64 * 64 + fourth.toNat % 64 := toNat_charOfNat (by omega)
  unfold String.utf8EncodeChar
  rw [show (joinFour lead second third fourth).val.toNat = _ from hpoint]
  dsimp only
  rw [if_neg (by omega), if_neg (by omega), if_neg (by omega),
    ofNat_eq_of_toNat_eq lead (by omega),
    ofNat_eq_of_toNat_eq second (by omega),
    ofNat_eq_of_toNat_eq third (by omega),
    ofNat_eq_of_toNat_eq fourth (by omega)]

end

private theorem none_cons_ne_map_some {rest : List (Option Char)}
    {text : List Char} :
    none :: rest ≠ text.map some := by
  cases text <;> simp

private theorem encode_of_cons {character : Char} {rest : List (Option Char)}
    {written after : Bytes} {text : List Char}
    (h : some character :: rest = text.map some)
    (hwritten : String.utf8EncodeChar character = written)
    (hafter : ∀ {more : List Char}, rest = more.map some →
      encode more = after) :
    encode text = written ++ after := by
  obtain ⟨first, more, rfl, hfirst, hmore⟩ := List.map_eq_cons_iff.1 h.symm
  obtain rfl := Option.some.inj hfirst
  rw [encode_cons, hwritten, hafter hmore.symm]

/-- Bytes without a fault are those of the text they read as. -/
theorem encode_of_scan {bytes : Bytes} {text : List Char}
    (h : scan bytes = text.map some) :
    encode text = bytes := by
  fun_induction scan bytes generalizing text with
  | case1 =>
      rw [List.map_eq_nil_iff.1 h.symm]
      rfl
  | case2 lead rest hlead ih =>
      exact encode_of_cons h (encodeChar_ascii hlead) ih
  | case5 lead hlead second rest hsecond ih =>
      exact encode_of_cons h (encodeChar_pair hlead hsecond) ih
  | case9 lead hlead second hsecond third rest hthird ih =>
      exact encode_of_cons h (encodeChar_triple hlead hsecond hthird) ih
  | case15 lead hlead second hsecond third hthird fourth rest hfourth ih =>
      exact encode_of_cons h (encodeChar_quadruple hlead hsecond hthird hfourth)
        ih
  -- Every other way ends in a fault.
  | _ => exact absurd h none_cons_ne_map_some

private theorem mapM_id_eq_some_iff {items : List (Option Char)}
    {text : List Char} :
    items.mapM id = some text ↔ items = text.map some := by
  induction items generalizing text with
  | nil => cases text <;> simp
  | cons item items ih =>
      cases item with
      | none => simp [none_cons_ne_map_some]
      | some character =>
          simp only [List.mapM_cons, id_eq, Option.bind_eq_bind,
            Option.bind_some,
            Option.bind_eq_some_iff, Option.pure_def, Option.some.injEq, ih]
          constructor
          · rintro ⟨rest, rfl, rfl⟩
            rfl
          · intro h
            obtain ⟨other, rest, rfl, hother, hrest⟩ :=
              List.map_eq_cons_iff.1 h.symm
            obtain rfl := Option.some.inj hother
            exact ⟨rest, hrest.symm, rfl⟩

/-- Strict reading accepts the bytes of texts and nothing else. -/
theorem decode?_eq_some_iff {bytes : Bytes} {text : List Char} :
    decode? bytes = some text ↔ bytes = encode text := by
  rw [decode?, mapM_id_eq_some_iff]
  constructor
  · intro h
    exact (encode_of_scan h).symm
  · rintro rfl
    exact scan_encode text

theorem toString?_eq_some_iff {bytes : Bytes} {text : String} :
    toString? bytes = some text ↔ bytes = ofString text := by
  rw [toString?, Option.map_eq_some_iff, ofString, ← decode?_eq_some_iff]
  constructor
  · rintro ⟨characters, hdecode, rfl⟩
    rwa [String.toList_ofList]
  · intro h
    exact ⟨text.toList, h, String.ofList_toList⟩

theorem toString?_eq_none_iff {bytes : Bytes} :
    toString? bytes = none ↔ ∀ text, bytes ≠ ofString text := by
  simp only [Option.eq_none_iff_forall_ne_some, ne_eq, toString?_eq_some_iff]

end HttpEngine.Utf8
