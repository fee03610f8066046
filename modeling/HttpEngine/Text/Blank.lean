/-!
# Blanks and letter case

Blanks are the characters with the Unicode property White_Space.  Letter case is
that of ASCII, which is all that header names, media types and tokens
distinguish.  Where a text is compared with a name in ASCII, one more character
has a lower case there.
-/

namespace HttpEngine.Text

def isBlank (character : Char) : Bool :=
  let point := character.toNat
  decide (0x09 ≤ point ∧ point ≤ 0x0D) || point == 0x20 || point == 0x85 ||
    point == 0xA0 ||
    point == 0x1680 || decide (0x2000 ≤ point ∧ point ≤ 0x200A) ||
      point == 0x2028 ||
    point == 0x2029 || point == 0x202F || point == 0x205F || point == 0x3000

/-- Drops the blanks at both ends. -/
def trim (text : List Char) : List Char :=
  ((text.dropWhile isBlank).reverse.dropWhile isBlank).reverse

def lower (text : List Char) : List Char := text.map Char.toLower

/-- The kelvin sign, the one character outside ASCII whose lower case is a
letter of ASCII. -/
def kelvinSign : Char := Char.ofNat 0x212A

/-- Lower case in ASCII, and that of the kelvin sign. -/
def lowerName (text : List Char) : List Char :=
  text.map fun character =>
    if character == kelvinSign then 'k' else character.toLower

/-- Two texts that differ at most in the case of ASCII letters. -/
def sameLetters (first second : List Char) : Bool := lower first == lower second

end HttpEngine.Text
