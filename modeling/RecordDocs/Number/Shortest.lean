import RecordDocs.Number.Binary64

/-!
# The shortest decimal that reads back

A finite number is written with the fewest significant digits whose decimal reads back as the same
number; of two such decimals the one nearer to the number is taken,
and the even one of two equally near. On the grid of decimals with a
given number of digits only the two neighbours of the number can be meant, so these are tried, for
one digit, then two, up to the seventeen that always suffice.
-/

namespace RecordDocs.Number

structure Decimal where
  digits : Nat
  exponent : Int
  deriving DecidableEq, Repr

def Decimal.nearest (decimal : Decimal) : Binary64 :=
  Binary64.ofDecimal decimal.digits decimal.exponent

/-- How many digits a natural has, none for zero. -/
def digitCount : Nat → Nat
  | 0 => 0
  | n + 1 => digitCount ((n + 1) / 10) + 1

/-- The exponent `e` with `10 ^ (e - 1) ≤ numerator / denominator < 10 ^ e`. -/
def decimalExponent (numerator denominator : Nat) : Int :=
  let whole := digitCount (numerator / denominator)
  if whole > 0 then whole
  else 1 - (digitCount ((denominator - 1) / numerator) : Int)

/-- Of the two neighbours on the grid of multiples of `10 ^ exponent`, the nearer one that reads
back, if any does; the even one if both are equally near. -/
def neighbourReadingBack (x : Binary64) (exponent : Int) : Option Decimal :=
  let (top, bottom) := x.ratio
  let top := top * Nat.pow 10 (-exponent).toNat
  let bottom := bottom * Nat.pow 10 exponent.toNat
  let below : Decimal := ⟨top / bottom, exponent⟩
  let above : Decimal := ⟨top / bottom + 1, exponent⟩
  let belowReads := below.nearest == x
  let aboveReads := above.nearest == x
  if belowReads && aboveReads then
    some ⟨roundHalfEven top bottom, exponent⟩
  else if belowReads then some below
  else if aboveReads then some above
  else none

def shortest (x : Binary64) : Decimal :=
  let (top, bottom) := x.ratio
  let exponent := decimalExponent top bottom
  let attempt (count : Nat) := neighbourReadingBack x (exponent - count)
  ((List.range 17).findSome? fun index => attempt (index + 1)).getD ⟨x.significand, x.exponent⟩

/-- How decimals are laid out: positional notation from `10 ^ low` up to below `10 ^ high`, and
otherwise one digit before the point and an exponent of at least `exponentWidth` digits. -/
structure DecimalLayout where
  low : Int
  high : Int
  exponentWidth : Nat

/-- Positional from `0.0001` up to below `1e16`, exponents of at least two digits. -/
def plainLayout : DecimalLayout := ⟨-4, 16, 2⟩

def padStart (width : Nat) (text : String) : String :=
  String.ofList (List.replicate (width - text.length) '0') ++ text

def trimZeros (digits : String) : String :=
  String.ofList ((digits.toList.reverse.dropWhile (· == '0')).reverse)

def DecimalLayout.write (layout : DecimalLayout) (decimal : Decimal) : String :=
  let digits := trimZeros (toString decimal.digits)
  let count := digits.length
  -- the exponent of the first digit
  let leading : Int := decimal.exponent + (toString decimal.digits).length - 1
  if layout.low ≤ leading && leading < layout.high then
    if leading < 0 then
      "0." ++ padStart (count + (-leading).toNat - 1) digits
    else
      let whole := leading.toNat + 1
      if count ≤ whole then
        digits ++ String.ofList (List.replicate (whole - count) '0') ++ ".0"
      else
        (digits.take whole).toString ++ "." ++ (digits.drop whole).toString
  else
    let mantissa :=
      if count ≤ 1 then digits else (digits.take 1).toString ++ "." ++ (digits.drop 1).toString
    let sign := if leading < 0 then "-" else "+"
    mantissa ++ "e" ++ sign ++ padStart layout.exponentWidth (toString leading.natAbs)

def Binary64.text (x : Binary64) : String :=
  if x.isNaN then "nan"
  else
    let sign := if x.isNegative then "-" else ""
    let magnitude := if x.isNegative then x.neg else x
    if magnitude.isInfinite then sign ++ "inf"
    else if magnitude.isZero then sign ++ "0.0"
    else sign ++ plainLayout.write (shortest magnitude)

end RecordDocs.Number
