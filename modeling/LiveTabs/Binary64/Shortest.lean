import LiveTabs.Binary64
import LiveTabs.Decimal
/-!
The shortest decimal that reads back as a given number: the fewest digits, and of those the nearest,
an exact tie going to the even digit.
-/
namespace LiveTabs.Binary64

/-- A decimal `significand * 10 ^ exponent`. -/
structure ShortDecimal where
  significand : Nat
  exponent : Int
  deriving DecidableEq

def ShortDecimal.readsBack (decimal : ShortDecimal) (x : Binary64) : Bool :=
  ofRatio x.negative (decimal.significand * Decimal.tenPow decimal.exponent.toNat)
    (Decimal.tenPow (-decimal.exponent).toNat) == some x

/-- The exponent of the first decimal digit of a number other than zero. Every such number is at
least 10 ^ -324, so 330 more places leave a digit before the point. -/
def decimalOrder (x : Binary64) : Int :=
  ((Decimal.digits (x.numerator * Decimal.tenPow 330 / x.denominator)).length : Int) - 331

/-- The two neighbours of a number on the grid with `places` digits, the nearer one first. -/
def neighbours (x : Binary64) (places : Nat) : List ShortDecimal :=
  let exponent := x.decimalOrder - places + 1
  let num := x.numerator * Decimal.tenPow (-exponent).toNat
  let den := x.denominator * Decimal.tenPow exponent.toNat
  let below := num / den
  if roundEven num den = below then [⟨below, exponent⟩, ⟨below + 1, exponent⟩]
  else [⟨below + 1, exponent⟩, ⟨below, exponent⟩]

/-- Seventeen digits always read back. -/
def shortest (x : Binary64) : Option ShortDecimal :=
  (List.range 17).findSome? fun places =>
    (x.neighbours (places + 1)).find? fun decimal => decimal.readsBack x

end LiveTabs.Binary64
