/-! # UTF-8

Text as bytes. Reading strictly refuses the first ill-formed sequence and says where it stands;
reading leniently puts the replacement character in place of each such sequence.
-/

namespace Scholia.Utf8

def encodeChar (c : Char) : List UInt8 :=
  let n := c.toNat
  if n < 0x80 then
    [n.toUInt8]
  else if n < 0x800 then
    [(0xC0 + n / 0x40).toUInt8, (0x80 + n % 0x40).toUInt8]
  else if n < 0x10000 then
    [(0xE0 + n / 0x1000).toUInt8, (0x80 + n / 0x40 % 0x40).toUInt8, (0x80 + n % 0x40).toUInt8]
  else
    [(0xF0 + n / 0x40000).toUInt8, (0x80 + n / 0x1000 % 0x40).toUInt8,
      (0x80 + n / 0x40 % 0x40).toUInt8, (0x80 + n % 0x40).toUInt8]

def encode (text : List Char) : List UInt8 :=
  text.flatMap encodeChar

/-- What is wrong with a byte sequence. -/
inductive Fault where
  | invalidStart
  | invalidContinuation
  | unexpectedEnd
  deriving Repr, DecidableEq

/-- What the front of a byte list holds: a character, or an ill-formed sequence of `length` bytes;
    a character of `length` bytes in the first case. -/
inductive Scan where
  | character (c : Char) (length : Nat)
  | malformed (fault : Fault) (length : Nat)
  deriving Repr, DecidableEq

/-- The bytes that may come second after a lead byte, least and greatest. -/
def secondRange (lead : Nat) : Nat × Nat :=
  if lead = 0xE0 then (0xA0, 0xBF)
  else if lead = 0xED then (0x80, 0x9F)
  else if lead = 0xF0 then (0x90, 0xBF)
  else if lead = 0xF4 then (0x80, 0x8F)
  else (0x80, 0xBF)

/-- The number of bytes announced by a lead byte; zero if no sequence starts with it. -/
def sequenceLength (lead : Nat) : Nat :=
  if lead < 0x80 then 1
  else if lead < 0xC2 then 0
  else if lead < 0xE0 then 2
  else if lead < 0xF0 then 3
  else if lead < 0xF5 then 4
  else 0

/-- The value bits of a lead byte of a sequence of the given length. -/
def leadBits (length lead : Nat) : Nat :=
  if length = 2 then lead % 0x20
  else if length = 3 then lead % 0x10
  else lead % 0x08

/-- Read `missing` more continuation bytes, the next one being in a range, after `seen` bytes. -/
def continuation (range : Nat × Nat) (value seen : Nat) : Nat → List UInt8 → Scan
  | 0, _ => .character (Char.ofNat value) seen
  | _ + 1, [] => .malformed .unexpectedEnd seen
  | missing + 1, byte :: rest =>
    let n := byte.toNat
    if range.1 ≤ n && n ≤ range.2 then
      continuation (0x80, 0xBF) (value * 0x40 + n % 0x40) (seen + 1) missing rest
    else
      .malformed .invalidContinuation seen

/-- Read the front of a nonempty byte list. -/
def scan (first : UInt8) (rest : List UInt8) : Scan :=
  let lead := first.toNat
  match sequenceLength lead with
  | 0 => .malformed .invalidStart 1
  | 1 => .character (Char.ofNat lead) 1
  | length => continuation (secondRange lead) (leadBits length lead) 1 (length - 1) rest

/-- The number of bytes of a scanned sequence after the first. -/
def Scan.extra : Scan → Nat
  | .character _ length => length - 1
  | .malformed _ length => length - 1

/-- An ill-formed sequence in a byte list. -/
structure Malformed where
  position : Nat
  bytes : List UInt8
  fault : Fault
  deriving Repr, DecidableEq

/-- Read bytes that start at a position strictly. -/
def decodeAt (position : Nat) : List UInt8 → Except Malformed (List Char)
  | [] => .ok []
  | first :: rest =>
    match scan first rest with
    | .character c length => (decodeAt (position + length) (rest.drop (length - 1))).map (c :: ·)
    | .malformed fault length =>
      .error ⟨position, first :: rest.take (length - 1), fault⟩
termination_by bytes => bytes.length
decreasing_by
  simp only [List.length_drop, List.length_cons]
  omega

/-- Read bytes strictly. -/
def decode (bytes : List UInt8) : Except Malformed (List Char) :=
  decodeAt 0 bytes

/-- Read bytes with the replacement character for each ill-formed sequence. -/
def decodeLossy : List UInt8 → List Char
  | [] => []
  | first :: rest =>
    match scan first rest with
    | .character c length => c :: decodeLossy (rest.drop (length - 1))
    | .malformed _ length => '\uFFFD' :: decodeLossy (rest.drop (length - 1))
termination_by bytes => bytes.length
decreasing_by
  all_goals
    simp only [List.length_drop, List.length_cons]
    omega

private def byteText (byte : UInt8) : String :=
  let digit (n : Nat) : Char := if n < 10 then Char.ofNat (48 + n) else Char.ofNat (87 + n)
  String.ofList [digit (byte.toNat / 16), digit (byte.toNat % 16)]

def Fault.message : Fault → String
  | .invalidStart => "invalid start byte"
  | .invalidContinuation => "invalid continuation byte"
  | .unexpectedEnd => "unexpected end of data"

def Malformed.message (m : Malformed) : String :=
  let place := match m.bytes with
    | [byte] => s!"byte 0x{byteText byte} in position {m.position}"
    | bytes => s!"bytes in position {m.position}-{m.position + bytes.length - 1}"
  s!"'utf-8' codec can't decode {place}: {m.fault.message}"

end Scholia.Utf8
