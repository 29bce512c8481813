import Scholia.Binary64.Basic

/-! # Decimal text of floating-point numbers

The shortest text is the one with the fewest digits that reads back as the same number, and of
those the nearest to it. The text with fixed places rounds the exact value.
-/

namespace Scholia.Binary64

/-- A positive decimal number `digits * 10 ^ exponent`. -/
structure Decimal where
  digits : Nat
  exponent : Int
  deriving Repr, DecidableEq

/-- The reals that round to a positive number, in quarters of its last place: from `low` to
    `high` around `middle`, the ends included when `closed`. -/
structure Rounding where
  low : Nat
  middle : Nat
  high : Nat
  closed : Bool
  scale : Int

namespace Rounding

/-- The reals that round to the magnitude of a finite number. -/
def of (x : Float) : Rounding :=
  let m := significand x
  let narrow := m == leadingBit && leastExponent < exponent x
  { low := if narrow then 4 * m - 1 else 4 * m - 2
    middle := 4 * m
    high := 4 * m + 2
    closed := m % 2 == 0
    scale := exponent x - 2 }

/-- A multiple of a power of ten and a quarter count, over a common denominator. -/
def common (r : Rounding) (digits : Nat) (power : Int) (quarters : Nat) : Nat × Nat :=
  let left := if 0 ≤ power then digits * tenTo power.toNat else digits
  let right := if 0 ≤ power then quarters else quarters * tenTo (-power).toNat
  if 0 ≤ r.scale then (left, right * twoTo r.scale.toNat)
  else (left * twoTo (-r.scale).toNat, right)

/-- The decimal number rounds to the floating-point number. -/
def admits (r : Rounding) (digits : Nat) (power : Int) : Bool :=
  let (a, low) := r.common digits power r.low
  let (b, high) := r.common digits power r.high
  if r.closed then low ≤ a && b ≤ high else low < a && b < high

/-- The number of whole units `10 ^ power` in the number. -/
def units (r : Rounding) (power : Int) : Nat :=
  let (unit, value) := r.common 1 power r.middle
  value / unit

/-- Twice the number lies above `2 * digits + 1` units, or at it with `digits` odd. -/
def upperIsNearer (r : Rounding) (digits : Nat) (power : Int) : Bool :=
  let (half, value) := r.common (2 * digits + 1) power (2 * r.middle)
  half < value || (half == value && digits % 2 == 1)

/-- The nearest multiple of `10 ^ power` that rounds to the number, if one does. -/
def onGrid? (r : Rounding) (power : Int) : Option Nat :=
  let below := r.units power
  match r.admits below power, r.admits (below + 1) power with
  | true, true => some (if r.upperIsNearer below power then below + 1 else below)
  | true, false => some below
  | false, true => some (below + 1)
  | false, false => none

/-- The decimal exponent of the leading digit, from a guess that is never too high. -/
def leadingPower (r : Rounding) : Nat → Int → Int
  | 0, guess => guess
  | fuel + 1, guess => if r.units (guess + 1) = 0 then guess else r.leadingPower fuel (guess + 1)

/-- The first grid, from the coarsest, with a number that reads back. -/
def search (r : Rounding) (leading : Int) : Nat → Int → Decimal
  | 0, power => ⟨r.units power, power⟩
  | fuel + 1, power =>
    match r.onGrid? power with
    | some digits => ⟨digits, power⟩
    | none => r.search leading fuel (power - 1)

end Rounding

/-- The shortest decimal number that reads back as the magnitude of a finite, nonzero number. -/
def shortest (x : Float) : Decimal :=
  let r := Rounding.of x
  let guess : Int := ((significand x).log2 + exponent x) * 30103 / 100000 - 1
  let leading := r.leadingPower 4 guess
  r.search leading 17 leading

/-- The decimal digits of a natural number. -/
def natText (n : Nat) : List Char :=
  (Nat.toDigits 10 n)

/-- An integer with a minus sign if it is negative. -/
def intText (n : Int) : List Char :=
  if n < 0 then '-' :: natText n.natAbs else natText n.natAbs

/-- Digits without the zeros at their end. -/
def significantDigits (d : Decimal) : List Char :=
  ((natText d.digits).reverse.dropWhile (· == '0')).reverse

/-- How a decimal number is laid out: from which place of the point it is positional, and what
    stands in front of an exponent that is not negative. Up to sixteen whole digits are
    positional. -/
structure Layout where
  leastPoint : Int
  plus : List Char
  exponentDigits : Nat

/-- Positional from `0.0001`; an exponent has a sign and at least two digits. -/
def Layout.signed : Layout := ⟨-3, ['+'], 2⟩

/-- Positional from `0.00001`; an exponent has no more signs and digits than it needs. -/
def Layout.plain : Layout := ⟨-4, [], 1⟩

def Decimal.text (form : Layout) (d : Decimal) : List Char :=
  let digits := significantDigits d
  let point : Int := (natText d.digits).length + d.exponent
  if form.leastPoint ≤ point && point ≤ 16 then
    if point ≤ 0 then
      '0' :: '.' :: List.replicate (-point).toNat '0' ++ digits
    else
      let whole := digits.take point.toNat
      let fraction := digits.drop point.toNat
      whole ++ List.replicate (point.toNat - whole.length) '0' ++ '.' ::
        (if fraction.isEmpty then ['0'] else fraction)
  else
    let power := point - 1
    let mantissa := match digits with
      | first :: second :: rest => first :: '.' :: second :: rest
      | short => short
    let magnitude := natText power.natAbs
    mantissa ++ 'e' :: (if power < 0 then ['-'] else form.plus) ++
      (List.replicate (form.exponentDigits - magnitude.length) '0' ++ magnitude)

/-- The shortest text that reads back as the number. -/
def text (x : Float) (form : Layout := .signed) : String :=
  let sign := if isNegative x then "-" else ""
  if isNaN x then "nan"
  else if isInfinite x then sign ++ "inf"
  else if magnitudeBits x = 0 then sign ++ "0.0"
  else sign ++ String.ofList ((shortest x).text form)

/-- The number with two decimal places, its exact value rounded with halves to even. -/
def hundredths (x : Float) : String :=
  let sign := if isNegative x then "-" else ""
  if isNaN x then "nan"
  else if isInfinite x then sign ++ "inf"
  else
    let (n, d) := scaled (100 * significand x) 1 (-exponent x)
    let count := divNearest n d
    let fraction := count % 100
    sign ++ String.ofList (natText (count / 100) ++ '.' ::
      (if fraction < 10 then '0' :: natText fraction else natText fraction))

end Scholia.Binary64
