/-!
Finite binary floating-point numbers of 64 bits, held exactly as a sign, a significand and a power
of two. The form is canonical, so equal numbers of one sign are equal values; the two zeros differ.
Rounding goes to the nearest number, a tie to the even significand, and is exact arithmetic on
natural numbers throughout.
-/
namespace LiveTabs

/-- A power of two. -/
def twoPow (k : Nat) : Nat := Nat.pow 2 k

structure Binary64 where
  negative : Bool
  significand : Nat
  exponent : Int
  significand_lt : significand < twoPow 53
  exponent_ge : -1074 ≤ exponent
  exponent_le : exponent ≤ 971
  canonical : twoPow 52 ≤ significand ∨ exponent = -1074
  deriving DecidableEq

namespace Binary64

def zero (negative : Bool) : Binary64 :=
  ⟨negative, 0, -1074, by decide, by decide, by decide, .inr rfl⟩

def isZero (x : Binary64) : Bool := x.significand == 0

/-- The number with these parts, if they are canonical and in range. -/
def ofParts? (negative : Bool) (significand : Nat) (exponent : Int) : Option Binary64 :=
  if admitted : significand < twoPow 53 ∧ -1074 ≤ exponent ∧ exponent ≤ 971 ∧
      (twoPow 52 ≤ significand ∨ exponent = -1074) then
    some ⟨negative, significand, exponent, admitted.1, admitted.2.1, admitted.2.2.1,
      admitted.2.2.2⟩
  else none

/-- The magnitude is `numerator / denominator`, one of the two being free of the power of two. -/
def numerator (x : Binary64) : Nat := x.significand * twoPow x.exponent.toNat

def denominator (x : Binary64) : Nat := twoPow (-x.exponent).toNat

/-- The quotient to the nearest natural number, a tie to the even one. -/
def roundEven (num den : Nat) : Nat :=
  if 2 * (num % den) < den then num / den
  else if den < 2 * (num % den) then num / den + 1
  else num / den + num / den % 2

/-- `num / den` in units of `2 ^ exponent`. -/
def inUnits (num den : Nat) (exponent : Int) : Nat × Nat :=
  (num * twoPow (-exponent).toNat, den * twoPow exponent.toNat)

/-- The greatest power of two that is not above `num / den`. -/
def floorLog2 (num den : Nat) : Int :=
  let guess : Int := (num.log2 : Int) - (den.log2 : Int)
  let units := inUnits num den guess
  if units.2 ≤ units.1 then guess else guess - 1

/-- The exponent at which `num / den` has 53 significant bits, or the least there is. -/
def roundingExponent (num den : Nat) : Int := max (floorLog2 num den - 52) (-1074)

/-- The number nearest to `num / den`; none where that is beyond the largest one. -/
def ofRatio (negative : Bool) (num den : Nat) : Option Binary64 :=
  if num = 0 then some (zero negative)
  else
    let exponent := roundingExponent num den
    let units := inUnits num den exponent
    let significand := roundEven units.1 units.2
    if significand = twoPow 53 then ofParts? negative (twoPow 52) (exponent + 1)
    else ofParts? negative significand exponent

def ofNat (n : Nat) : Option Binary64 := ofRatio false n 1

def ofInt (n : Int) : Option Binary64 := ofRatio (decide (n < 0)) n.natAbs 1

def mul (x y : Binary64) : Option Binary64 :=
  ofRatio (x.negative != y.negative) (x.numerator * y.numerator) (x.denominator * y.denominator)

/-- Division by a number other than zero. -/
def div (x y : Binary64) : Option Binary64 :=
  ofRatio (x.negative != y.negative) (x.numerator * y.denominator) (x.denominator * y.numerator)

def neg (x : Binary64) : Binary64 := { x with negative := !x.negative }

/-- The whole number that this one equals, if any. -/
def toInt? (x : Binary64) : Option Int :=
  if x.numerator % x.denominator = 0 then
    let magnitude : Int := (x.numerator / x.denominator : Nat)
    some (if x.negative then -magnitude else magnitude)
  else none

end Binary64
end LiveTabs
