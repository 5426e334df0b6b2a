/-!
# Binary floating point numbers of 64 bits

A number is kept as its bit pattern, so that two numbers are equal exactly when they are the same
datum. `ofRatio` rounds a quotient of naturals to the nearest number, a tie to the even one, in
exact arithmetic.
-/

namespace RecordDocs.Number

structure Binary64 where
  bits : UInt64
  deriving DecidableEq, Repr, Inhabited

namespace Binary64

def infinity : Binary64 := ⟨0x7FF0000000000000⟩

def nan : Binary64 := ⟨0x7FF8000000000000⟩

def isNegative (x : Binary64) : Bool :=
  x.bits >>> 63 == 1

def exponentField (x : Binary64) : Nat :=
  ((x.bits >>> 52) &&& 0x7FF).toNat

def fraction (x : Binary64) : Nat :=
  (x.bits &&& 0xFFFFFFFFFFFFF).toNat

def isNaN (x : Binary64) : Bool :=
  x.exponentField == 2047 && x.fraction != 0

def isInfinite (x : Binary64) : Bool :=
  x.exponentField == 2047 && x.fraction == 0

def isZero (x : Binary64) : Bool :=
  x.exponentField == 0 && x.fraction == 0

/-- The leading bit of a significand, which is not written down. -/
def hiddenBit : Nat := 0x10000000000000

/-- The integer whose multiple by a power of two the magnitude of a finite number is. -/
def significand (x : Binary64) : Nat :=
  if x.exponentField == 0 then x.fraction else hiddenBit + x.fraction

def exponent (x : Binary64) : Int :=
  if x.exponentField == 0 then -1074 else x.exponentField - 1075

def ratio (x : Binary64) : Nat × Nat :=
  (x.significand * Nat.pow 2 x.exponent.toNat, Nat.pow 2 (-x.exponent).toNat)

def neg (x : Binary64) : Binary64 :=
  ⟨x.bits ^^^ 0x8000000000000000⟩

def withSign (negative : Bool) (x : Binary64) : Binary64 :=
  if negative then x.neg else x

end Binary64

/-- The quotient rounded to the nearest natural, a tie to the even one. -/
def roundHalfEven (numerator denominator : Nat) : Nat :=
  let quotient := numerator / denominator
  let twice := 2 * (numerator % denominator)
  if twice > denominator || (twice == denominator && quotient % 2 == 1) then quotient + 1
  else quotient

/-- The number whose significand is `significand` at exponent `exponent ≥ -1074`, where a
significand without the leading bit occurs at the least exponent only and one of twice that bit
stands for the next binade. -/
def Binary64.assemble (significand : Nat) (exponent : Int) : Binary64 :=
  if significand < hiddenBit then ⟨UInt64.ofNat significand⟩
  else
    let (significand, exponent) :=
      if significand == 2 * hiddenBit then (hiddenBit, exponent + 1) else (significand, exponent)
    let field := (exponent + 1075).toNat
    if field ≥ 2047 then infinity
    else ⟨UInt64.ofNat (field * hiddenBit + (significand - hiddenBit))⟩

/-- The nearest number to a quotient, a tie going to the even significand. -/
def Binary64.ofRatio (numerator denominator : Nat) : Binary64 :=
  if numerator == 0 then ⟨0⟩
  else
    let guess : Int := (numerator.log2 : Int) - denominator.log2 - 52
    let scaled (exponent : Int) : Nat × Nat :=
      (numerator * Nat.pow 2 (-exponent).toNat, denominator * Nat.pow 2 exponent.toNat)
    -- the quotient lies within a factor of two of the guess, so one step down may be needed
    let (top, bottom) := scaled guess
    let exponent := if top < hiddenBit * bottom then guess - 1 else guess
    let exponent := max exponent (-1074)
    let (top, bottom) := scaled exponent
    assemble (roundHalfEven top bottom) exponent

/-- The nearest number to `digits * 10 ^ exponent`. Exponents far outside the range of the format
are answered without computing the power. -/
def Binary64.ofDecimal (digits : Nat) (exponent : Int) : Binary64 :=
  if digits == 0 then ⟨0⟩
  else if exponent > 400 then infinity
  else if exponent + (digits.log2 / 3 + 1 : Nat) < -400 then ⟨0⟩
  else ofRatio (digits * Nat.pow 10 exponent.toNat) (Nat.pow 10 (-exponent).toNat)

end RecordDocs.Number
