/-! # Floating-point numbers by their bits

A finite floating-point number is a sign and a magnitude `m * 2 ^ q` with natural `m` and integer
`q`. Here are the way from the bits to these parts, the order of numbers read off the bits, and
the way back: the nearest number to a quotient of integers.
-/

namespace Scholia.Binary64

def twoTo (n : Nat) : Nat := Nat.pow 2 n

def tenTo (n : Nat) : Nat := Nat.pow 10 n

/-- The exponent of the least positive number. -/
def leastExponent : Int := -1074

def signBit : Nat := twoTo 63

/-- The leading bit of a significand of 53 bits. -/
def leadingBit : Nat := twoTo 52

def bits (x : Float) : Nat :=
  x.toBits.toNat

def magnitudeBits (x : Float) : Nat :=
  bits x % signBit

def isNegative (x : Float) : Bool :=
  signBit ≤ bits x

def infinityBits : Nat := 0x7FF * leadingBit

def isNaN (x : Float) : Bool :=
  infinityBits < magnitudeBits x

/-- The value is one of the infinities. -/
def isInfinite (x : Float) : Bool :=
  magnitudeBits x == infinityBits

/-- The integer `m` of the magnitude `m * 2 ^ q` of a finite number. -/
def significand (x : Float) : Nat :=
  if magnitudeBits x < leadingBit then magnitudeBits x
  else magnitudeBits x % leadingBit + leadingBit

/-- The exponent `q` of the magnitude `m * 2 ^ q` of a finite number. -/
def exponent (x : Float) : Int :=
  if magnitudeBits x < leadingBit then leastExponent
  else (magnitudeBits x / leadingBit : Nat) - 1 + leastExponent

/-- An integer that grows with the number; the two zeros share one. -/
def orderKey (x : Float) : Int :=
  if isNegative x then -(magnitudeBits x : Int) else magnitudeBits x

/-- The first number is at most the second; false if either is no number. -/
def le (x y : Float) : Bool :=
  !isNaN x && !isNaN y && orderKey x ≤ orderKey y

/-- The first number is less than the second; false if either is no number. -/
def lt (x y : Float) : Bool :=
  !isNaN x && !isNaN y && orderKey x < orderKey y

/-- The number with the given magnitude bits and sign. -/
def ofMagnitude (negative : Bool) (magnitude : Nat) : Float :=
  Float.ofBits (UInt64.ofNat (if negative then signBit + magnitude else magnitude))

def infinity (negative : Bool) : Float :=
  ofMagnitude negative infinityBits

/-- A value that is no number. -/
def notANumber : Float :=
  ofMagnitude false (infinityBits + twoTo 51)

/-- The quotient rounded to the nearest natural number, a half to the even neighbour. -/
def divNearest (numerator denominator : Nat) : Nat :=
  let quotient := numerator / denominator
  let twice := 2 * (numerator % denominator)
  if twice < denominator then quotient
  else if denominator < twice then quotient + 1
  else if quotient % 2 = 0 then quotient
  else quotient + 1

/-- The fraction `numerator / denominator / 2 ^ q` as numerator and denominator. -/
def scaled (numerator denominator : Nat) (q : Int) : Nat × Nat :=
  if 0 ≤ q then (numerator, denominator * twoTo q.toNat)
  else (numerator * twoTo (-q).toNat, denominator)

/-- The exponent at which a positive quotient has a significand of 53 bits, or the least one. -/
def quotientExponent (numerator denominator : Nat) : Int :=
  let guess : Int := (numerator.log2 : Int) - denominator.log2 - 52
  let (n, d) := scaled numerator denominator guess
  max leastExponent (if n < d * leadingBit then guess - 1 else guess)

/-- The magnitude bits nearest to a quotient, ties going to the even neighbour; a quotient beyond
    all finite numbers has the bits of infinity or more. -/
def quotientBits (numerator denominator : Nat) : Nat :=
  if numerator = 0 then 0
  else
    let q := quotientExponent numerator denominator
    let (n, d) := scaled numerator denominator q
    (q - leastExponent).toNat * leadingBit + divNearest n d

/-- The finite number nearest to a quotient of integers, if there is one. -/
def ofQuotient? (numerator : Int) (denominator : Nat) : Option Float :=
  let magnitude := quotientBits numerator.natAbs denominator
  if magnitude < infinityBits then some (ofMagnitude (numerator < 0) magnitude) else none

/-- The number nearest to an integer, infinite beyond the finite range. -/
def ofInt (n : Int) : Float :=
  (ofQuotient? n 1).getD (infinity (n < 0))

/-- The whole part of the magnitude of a finite number. -/
def wholePart (x : Float) : Nat :=
  if 0 ≤ exponent x then significand x * twoTo (exponent x).toNat
  else significand x / twoTo (-exponent x).toNat

/-- The integer next to a finite number on the side of zero. -/
def truncate (x : Float) : Int :=
  if isNegative x then -(wholePart x : Int) else wholePart x

def isWhole (x : Float) : Bool :=
  0 ≤ exponent x || significand x % twoTo (-exponent x).toNat == 0

/-- The least integer that is no less than a finite number. -/
def ceiling (x : Float) : Int :=
  if isNegative x || isWhole x then truncate x else truncate x + 1

end Scholia.Binary64
