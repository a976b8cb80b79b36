import LiveTabs.Binary64
import LiveTabs.Decimal
/-!
Reading decimals. `ofDecimal` rounds once, from the exact value; `ofScaled` rounds the significand
first and its product or quotient with a power of ten after that.
-/
namespace LiveTabs.Binary64

/-- `significand * 10 ^ exponent` to the nearest number. Past 309 digits nothing is in range, and
below 10 ^ -324 everything is nearest to zero, so those powers of ten are never computed. -/
def ofDecimal (negative : Bool) (significand : Nat) (exponent : Int) : Option Binary64 :=
  let places : Int := (Decimal.digits significand).length
  if significand = 0 then some (zero negative)
  else if 310 ≤ places + exponent then none
  else if places + exponent ≤ -324 then some (zero negative)
  else ofRatio negative (significand * Decimal.tenPow exponent.toNat)
    (Decimal.tenPow (-exponent).toNat)

/-- The powers of ten up to the largest one in range. -/
def powerOfTen (k : Nat) : Option Binary64 := ofNat (Decimal.tenPow k)

/-- Divides a number below 2 ^ 64 by ten `k` times over, in strides that are powers in range. Past
two full strides nothing is left. -/
def scaleDown (x : Binary64) (k : Nat) : Option Binary64 :=
  if k ≤ 308 then (powerOfTen k).bind x.div
  else if k ≤ 616 then
    ((powerOfTen 308).bind x.div).bind fun smaller => (powerOfTen (k - 308)).bind smaller.div
  else some (zero false)

/-- `significand * 10 ^ exponent` in two roundings, for a significand below 2 ^ 64; none beyond the
range. -/
def ofScaled (significand : Nat) (exponent : Int) : Option Binary64 :=
  match ofNat significand with
  | none => none
  | some x =>
    if exponent < 0 then scaleDown x exponent.natAbs
    else if x.isZero then some x
    else if 308 < exponent then none
    else (powerOfTen exponent.toNat).bind x.mul

/-- Decimal text with an optional sign, digits with or without a point, and an optional exponent.
The outcome is none for other text and for a value out of range. -/
def read? (text : List Char) : Option Binary64 :=
  let negative := text.head? == some '-'
  let unsigned := if negative || text.head? == some '+' then text.drop 1 else text
  let whole := unsigned.takeWhile Char.isDigit
  let afterWhole := unsigned.dropWhile Char.isDigit
  let pointed := afterWhole.head? == some '.'
  let afterPoint := if pointed then afterWhole.drop 1 else afterWhole
  let fraction := if pointed then afterPoint.takeWhile Char.isDigit else []
  let rest := if pointed then afterPoint.dropWhile Char.isDigit else afterWhole
  let exponent? : Option Int :=
    match rest with
    | [] => some 0
    | mark :: power => if mark == 'e' || mark == 'E' then Decimal.readSigned? power else none
  if whole.isEmpty && fraction.isEmpty then none
  else exponent?.bind fun exponent =>
    ofDecimal negative (Decimal.valueFrom (Decimal.value whole) fraction)
      (exponent - fraction.length)

end LiveTabs.Binary64
