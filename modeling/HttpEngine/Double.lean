/-!
# Binary fractions

Numbers with a sign, 53 significant binary digits and a bounded exponent.  The
magnitude of each is a whole number of units of which 2 to the power 1074 make
one.  Arithmetic is exact on natural numbers, and its result is rounded to the
nearest number, a half going to the even one.

A decimal is read digits first and scaled by a power of ten then, so that it is
rounded twice.  A number is written with the fewest decimal digits that are
nearest to it and to no other number.
-/

namespace HttpEngine

structure Double where
  negative : Bool
  /-- The magnitude in units of the least positive number. -/
  units : Nat
  deriving DecidableEq, Repr

namespace Double

/-! ## Rounding -/

/-- The power of two that the units of one are. -/
def places : Nat := 1074

/-- The units of one. -/
def one : Nat := 1 <<< places

/-- The units from which on a magnitude is out of range. -/
def limit : Nat := 1 <<< (places + 1024)

/-- The number of binary digits. -/
def bitLength (value : Nat) : Nat := if value = 0 then 0 else value.log2 + 1

/-- The nearest integer to a fraction, a half going to the even one. -/
def roundToEven (numerator denominator : Nat) : Nat :=
  let quotient := numerator / denominator
  let double := 2 * (numerator % denominator)
  if denominator < double ∨ (double = denominator ∧ quotient % 2 = 1) then
    quotient + 1
  else quotient

/-- The nearest integer to a fraction, a half going up. -/
def roundUp (numerator denominator : Nat) : Nat :=
  (2 * numerator + denominator) / (2 * denominator)

/-- A fraction of a unit to 53 significant binary digits. -/
def round (numerator denominator : Nat) : Nat :=
  let step := 1 <<< (bitLength (numerator / denominator) - 53)
  roundToEven numerator (denominator * step) * step

/-! ## Magnitudes -/

def ofNat (value : Nat) : Nat := round (value * one) 1

def multiply (first second : Nat) : Nat := round (first * second) one

def divide (first second : Nat) : Nat := round (first * one) second

def powerOfTen (exponent : Nat) : Nat := ofNat (Nat.pow 10 exponent)

/-! ## Decimals -/

/-- The greatest power of ten that is in range. -/
def maxPower : Nat := 308

/-- Divides by a power of ten, by one in range at a time. -/
def scaleDown (units exponent : Nat) : Nat :=
  if exponent ≤ maxPower then divide units (powerOfTen exponent)
  else if units = 0 then 0
  else scaleDown (divide units (powerOfTen maxPower)) (exponent - maxPower)
termination_by exponent
decreasing_by
  unfold maxPower at *
  omega

/-- Multiplies by a power of ten, `none` when the product is out of range. -/
def scaleUp? (units exponent : Nat) : Option Nat :=
  if units = 0 then some 0
  else if maxPower < exponent then none
  else
    let product := multiply units (powerOfTen exponent)
    if product < limit then some product else none

/-- The number with these decimal digits and this power of ten. -/
def ofDecimal? (negative : Bool) (digits : Nat) (exponent : Int) :
    Option Double :=
  match exponent with
  | .ofNat exponent => (scaleUp? (ofNat digits) exponent).map fun units =>
      ⟨negative, units⟩
  | .negSucc exponent =>
      some ⟨negative, scaleDown (ofNat digits) (exponent + 1)⟩

/-! ## Shortest decimals

Two to the power 1074 times five to the same power is a power of ten.  So a
number of units times the power of five is the magnitude with 1074 decimal
places. -/

def powerOfFive : Nat := Nat.pow 5 places

/-- Which of two decimals is taken that are as near to a number. -/
inductive Tie where
  | up
  | even
  deriving DecidableEq, Repr

/-- The multiple of a decimal step next to a magnitude, if it stands for the
magnitude; of two that do the nearer one. -/
def multiple? (tie : Tie) (units step : Nat) : Option Nat :=
  let exact := units * powerOfFive
  let below := exact / step
  let above := below + 1
  let nearest :=
    match tie with
    | .up => roundUp exact step
    | .even => roundToEven exact step
  let candidates := if nearest = below then [below, above] else [above, below]
  (candidates.map (· * step)).find? fun candidate =>
    round candidate powerOfFive == units

/-- The shortest decimal of a magnitude, with 1074 decimal places. -/
def shortest (tie : Tie) (units : Nat) : Nat :=
  let exact := units * powerOfFive
  let width := (Nat.toDigits 10 exact).length
  ((List.range 17).findSome? fun count =>
    multiple? tie units (Nat.pow 10 (width - (count + 1)))).getD exact

/-- Digits before the point, and those after it down to the last one that is not
zero. -/
def render (value : Double) : String :=
  let decimal := shortest .up value.units
  let unit := Nat.pow 10 places
  let digits := Nat.toDigits 10 (decimal % unit)
  let fraction := List.replicate (places - digits.length) '0' ++ digits
  let kept := (fraction.reverse.dropWhile (· == '0')).reverse
  (if value.negative then "-" else "") ++ toString (decimal / unit) ++
    (if kept.isEmpty then "" else "." ++ String.ofList kept)

/-- The number that comes of writing this one and reading it.  An integer below
10 to the power 16 is written with a zero after the point, any other number
without one. -/
def reread? (value : Double) : Option Double :=
  let decimal := shortest .even value.units
  let unit := Nat.pow 10 places
  let zeros := ((Nat.toDigits 10 decimal).reverse.takeWhile (· == '0')).length
  if decimal % unit = 0 ∧ decimal < Nat.pow 10 16 * unit then
    ofDecimal? value.negative (decimal / unit * 10) (-1)
  else ofDecimal? value.negative (decimal / Nat.pow 10 zeros) (zeros - places)

/-! ## Conversions -/

def isZero (value : Double) : Bool := value.units == 0

/-- The nearest integer, a half going away from zero. -/
def toInt (value : Double) : Int :=
  let magnitude := roundUp value.units one
  if value.negative then -magnitude else magnitude

end Double

end HttpEngine
