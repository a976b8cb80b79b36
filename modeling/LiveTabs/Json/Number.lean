import LiveTabs.Binary64.Reading
import LiveTabs.Binary64.Shortest
import LiveTabs.Json
/-!
The text of JSON numbers. Whole numbers of 64 bits are written and read as they are. A
floating-point number is written with the fewest digits that read back, plainly while its first
digit stands between 10 ^ -5 and 10 ^ 15, and always with a fraction or an exponent.
-/
namespace LiveTabs.Json

/-- Digits with a point after the first `whole` of them, and a zero for a fraction left empty. -/
def pointed (digits : List Char) (whole : Nat) : List Char :=
  let fraction := digits.drop whole
  digits.take whole ++ List.replicate (whole - digits.length) '0' ++
    '.' :: (if fraction.isEmpty then ['0'] else fraction)

/-- One digit before the point, none after it if there are no more, and a signed exponent. -/
def scientific (digits : List Char) (order : Int) : List Char :=
  let fraction := digits.drop 1
  digits.take 1 ++ (if fraction.isEmpty then [] else '.' :: fraction) ++
    'e' :: (if order < 0 then '-' else '+') :: Decimal.digits order.natAbs

/-- The text of a number whose first digit has the place value `10 ^ order`. -/
def placed (digits : List Char) (order : Int) : List Char :=
  if order < -5 || 15 < order then scientific digits order
  else if order < 0 then
    '0' :: '.' :: List.replicate (order.natAbs - 1) '0' ++ digits
  else pointed digits (order.toNat + 1)

def writeMagnitude (decimal : Binary64.ShortDecimal) : List Char :=
  let digits := Decimal.digits decimal.significand
  if decimal.significand = 0 then ['0', '.', '0']
  else
    placed (digits.reverse.dropWhile (· == '0')).reverse (decimal.exponent + digits.length - 1)

def writeFloat (x : Binary64) : List Char :=
  (if x.negative then ['-'] else []) ++ (x.shortest.map writeMagnitude).getD []

/-- Reads digits on from `start` while the number stays within `limit`; the number read and how
many digits went into it. -/
def keepDigits (limit : Nat) : Nat → List Char → Nat × Nat
  | start, [] => (start, 0)
  | start, c :: rest =>
    let next := 10 * start + Decimal.digitValue c
    if next ≤ limit then
      let kept := keepDigits limit next rest
      (kept.1, kept.2 + 1)
    else (start, 0)

/-- The significand has the leading digits that fit 64 bits. Digits before the point that do not
fit count as places, digits after it are left out. -/
def readFloat (whole fraction : List Char) (exponent : Int) : Option Binary64 :=
  let before := keepDigits greatestInt.toNat 0 whole
  let after := keepDigits greatestInt.toNat before.1 fraction
  Binary64.ofScaled after.1 (exponent + (whole.length - before.2 : Nat) - after.2)

/-- A whole number beyond 64 bits, and negative zero, are read as floating-point numbers. -/
def readWhole (negative : Bool) (whole : List Char) : Option Json :=
  let n : Int := Decimal.value whole
  if negative then
    if n ≠ 0 ∧ leastInt ≤ -n then some (.int (-n))
    else (readFloat whole [] 0).map fun x => .float x.neg
  else if n ≤ greatestInt then some (.int n)
  else (readFloat whole [] 0).map .float

/-- Digits without a leading zero, unless it is the only one. -/
def isWhole (digits : List Char) : Bool :=
  !digits.isEmpty && (digits.head? != some '0' || digits.length == 1)

def readFraction (negative : Bool) (whole fraction rest : List Char) : Option Json :=
  let exponent? : Option Int :=
    match rest with
    | [] => some 0
    | mark :: power => if mark == 'e' || mark == 'E' then Decimal.readSigned? power else none
  exponent?.bind fun exponent =>
    (readFloat whole fraction exponent).map fun x => .float (if negative then x.neg else x)

def readNumber? (text : List Char) : Option Json :=
  let negative := text.head? == some '-'
  let unsigned := if negative then text.drop 1 else text
  let whole := unsigned.takeWhile Char.isDigit
  if !isWhole whole then none
  else
    match unsigned.dropWhile Char.isDigit with
    | [] => readWhole negative whole
    | '.' :: rest =>
      let fraction := rest.takeWhile Char.isDigit
      if fraction.isEmpty then none
      else readFraction negative whole fraction (rest.dropWhile Char.isDigit)
    | rest => readFraction negative whole [] rest

end LiveTabs.Json
