import Scholia.Binary64.Decimal
import Scholia.Text.Basic
import Scholia.Unicode.Classes

/-! # Numbers read from text, and numbers of two kinds

A setting is an integer or a floating-point number. Text is read with blanks around it, digits of
any script and single underscores between digits.
-/

namespace Scholia.Numeral

/-- The most digits that an integer in text may have. -/
def maxIntegerDigits : Nat := 4300

/-- The values of digits that may have single underscores between them. -/
def digitValues? : Text → Option (List Nat)
  | [] => some []
  | [c] => (Unicode.digitValue? c).map ([·])
  | c :: '_' :: d :: rest => do
    let value ← Unicode.digitValue? c
    let values ← digitValues? (d :: rest)
    return value :: values
  | c :: d :: rest => do
    let value ← Unicode.digitValue? c
    let values ← digitValues? (d :: rest)
    return value :: values

/-- The number with the given decimal digits. -/
def ofDigits (values : List Nat) : Nat :=
  values.foldl (fun n value => 10 * n + value) 0

/-- Take a sign off the front; true for a minus. -/
def takeSign : Text → Bool × Text
  | '-' :: rest => (true, rest)
  | '+' :: rest => (false, rest)
  | text => (false, text)

def trim (text : Text) : Text :=
  Text.trimWhere Text.isSpacing text

def readInt? (text : Text) : Option Int := do
  let (negative, digits) := takeSign (trim text)
  let values ← digitValues? digits
  if values.isEmpty || maxIntegerDigits < values.length then none
  else
    let n : Int := ofDigits values
    return if negative then -n else n

/-- Decimal exponents beyond this one only tell zero from infinity. -/
def exponentCap : Int := 100000

/-- The number nearest to `digits * 10 ^ power` with a sign. -/
def nearest (negative : Bool) (digits : Nat) (power : Int) : Float :=
  let length : Int := (Binary64.natText digits).length
  if digits = 0 || power + length < -400 then Binary64.ofMagnitude negative 0
  else if 400 < power + length then Binary64.infinity negative
  else
    let magnitude :=
      if 0 ≤ power then Binary64.quotientBits (digits * Binary64.tenTo power.toNat) 1
      else Binary64.quotientBits digits (Binary64.tenTo (-power).toNat)
    Binary64.ofMagnitude negative (min magnitude Binary64.infinityBits)

/-- Cut off an exponent part that starts with `e`; no such part is exponent zero. -/
def splitExponent (text : Text) : Option (Text × Int) :=
  match text.span fun c => c != 'e' && c != 'E' with
  | (mantissa, []) => some (mantissa, 0)
  | (mantissa, _ :: power) => do
    let (negative, digits) := takeSign power
    let values ← digitValues? digits
    if values.isEmpty then none
    else
      let n : Int := ofDigits values
      return (mantissa, max (-exponentCap) (min exponentCap (if negative then -n else n)))

def splitPoint (text : Text) : Text × Text :=
  match text.span (· != '.') with
  | (whole, _ :: fraction) => (whole, fraction)
  | (whole, []) => (whole, [])

/-- Read a floating-point number: decimal, infinite or no number. -/
def readFloat? (text : Text) : Option Float := do
  let (negative, body) := takeSign (trim text)
  match String.ofList (body.map Char.toLower) with
  | "inf" | "infinity" => return Binary64.infinity negative
  | "nan" => return Binary64.notANumber
  | _ =>
    let (mantissa, power) ← splitExponent body
    let (whole, fraction) := splitPoint mantissa
    let wholeDigits ← digitValues? whole
    let fractionDigits ← digitValues? fraction
    let digits := wholeDigits ++ fractionDigits
    if digits.isEmpty then none
    else return nearest negative (ofDigits digits) (power - fractionDigits.length)

end Scholia.Numeral

namespace Scholia

/-- A number as given in settings: exact, or floating-point. -/
inductive Number where
  | int (value : Int)
  | float (value : Float)
  deriving BEq, Inhabited

namespace Number

def toFloat : Number → Float
  | int value => Binary64.ofInt value
  | float value => value

/-- Add: exactly if both numbers are integers. -/
def add : Number → Number → Number
  | int a, int b => int (a + b)
  | a, b => float (a.toFloat + b.toFloat)

/-- Multiply: exactly if both numbers are integers. -/
def mul : Number → Number → Number
  | int a, int b => int (a * b)
  | a, b => float (a.toFloat * b.toFloat)

/-- Why a floating-point number has no whole part. -/
inductive NotFinite where
  | infinite
  | notANumber
  deriving Repr, DecidableEq

/-- The message of a number without whole part. -/
def NotFinite.message : NotFinite → String
  | .infinite => "cannot convert float infinity to integer"
  | .notANumber => "cannot convert float NaN to integer"

def truncate : Number → Except NotFinite Int
  | int value => .ok value
  | float value =>
    if Binary64.isNaN value then .error .notANumber
    else if Binary64.isInfinite value then .error .infinite
    else .ok (Binary64.truncate value)

/-- The whole milliseconds in some seconds, zero if the number of seconds is not finite. -/
def milliseconds (seconds : Number) : Int :=
  match (seconds.mul (.int 1000)).truncate with
  | .ok n => n
  | .error _ => 0

end Number

end Scholia
