/-!
# Numbers as text

Reading unsigned decimals, writing bytes and numbers in hex, and writing a duration in the
largest unit it reaches.
-/

set_option autoImplicit false

namespace LinkTap.Text

inductive NumberError where
  | empty
  | invalidDigit
  | tooLarge
deriving DecidableEq, Repr

def NumberError.message : NumberError → String
  | .empty => "cannot parse integer from empty string"
  | .invalidDigit => "invalid digit found in string"
  | .tooLarge => "number too large to fit in target type"

/-- Accumulates decimal digits into `acc`, staying below `bound`. -/
def readDigits (bound : Nat) (acc : Nat) : List Char → Except NumberError Nat
  | [] => .ok acc
  | c :: rest =>
    if c.isDigit then
      let next := acc * 10 + (c.toNat - '0'.toNat)
      if next < bound then readDigits bound next rest else .error .tooLarge
    else .error .invalidDigit

/-- Reads an unsigned number of `bits` bits. -/
def parseUnsigned (bits : Nat) (s : String) : Except NumberError Nat :=
  match s.toList with
  | [] => .error .empty
  | ['+'] => .error .invalidDigit
  | ['-'] => .error .invalidDigit
  | '+' :: digits => readDigits (Nat.pow 2 bits) 0 digits
  | digits => readDigits (Nat.pow 2 bits) 0 digits

end LinkTap.Text

namespace LinkTap.Hex

def digit (n : Nat) : Char :=
  if n < 10 then Char.ofNat (48 + n) else Char.ofNat (87 + n)

def byteChars (b : UInt8) : List Char :=
  [digit (b.toNat / 16), digit (b.toNat % 16)]

def ofBytes (bytes : List UInt8) : String :=
  String.ofList (bytes.flatMap byteChars)

def ofByte (b : UInt8) : String :=
  String.ofList (byteChars b)

/-- Hexadecimal digits of a number, most significant first, with no padding. -/
def natChars (n : Nat) : List Char :=
  if _h : n < 16 then [digit n]
  else natChars (n / 16) ++ [digit (n % 16)]
termination_by n
decreasing_by omega

/-- A number in lowercase hexadecimal without a prefix (`ff`, `7`). -/
def ofNat (n : Nat) : String :=
  String.ofList (natChars n)

/-- A number in lowercase hexadecimal with the `0x` prefix (`0x1f`, `0x0`). -/
def ofNatPrefixed (n : Nat) : String :=
  "0x" ++ ofNat n

theorem length_byteChars (b : UInt8) : (byteChars b).length = 2 := rfl

theorem length_flatMap_byteChars (bytes : List UInt8) :
    (bytes.flatMap byteChars).length = 2 * bytes.length := by
  induction bytes with
  | nil => rfl
  | cons b rest ih =>
    simp only [List.flatMap_cons, List.length_append, length_byteChars, ih, List.length_cons]
    omega

end LinkTap.Hex

namespace LinkTap

structure Duration where
  nanos : Nat
deriving DecidableEq, Repr, Inhabited

namespace Duration

def nanosPerMilli : Nat := 1000000

def nanosPerSec : Nat := 1000000000

def ofMillis (ms : Nat) : Duration := ⟨ms * nanosPerMilli⟩

def ofSecs (secs : Nat) : Duration := ⟨secs * nanosPerSec⟩

def toMillis (d : Duration) : Nat := d.nanos / nanosPerMilli

/-- The decimal digits of `frac`, written with exactly `width` digits, trailing zeros dropped. -/
def fractionDigits (frac width : Nat) : List Char :=
  let digits := (Nat.toDigits 10 frac)
  let padded := List.replicate (width - digits.length) '0' ++ digits
  (padded.reverse.dropWhile (· == '0')).reverse

/-- `whole` units and a fraction `frac` of `width` decimal places, then the unit's name. -/
def decimalText (whole frac width : Nat) (unit : String) : String :=
  let fraction := fractionDigits frac width
  let wholeText := toString whole
  if fraction.isEmpty then wholeText ++ unit
  else wholeText ++ "." ++ String.ofList fraction ++ unit

/-- The short text of a duration: seconds when at least one second, else milliseconds, else
microseconds, else nanoseconds. -/
def text (d : Duration) : String :=
  if nanosPerSec ≤ d.nanos then
    decimalText (d.nanos / nanosPerSec) (d.nanos % nanosPerSec) 9 "s"
  else if nanosPerMilli ≤ d.nanos then
    decimalText (d.nanos / nanosPerMilli) (d.nanos % nanosPerMilli) 6 "ms"
  else if 1000 ≤ d.nanos then
    decimalText (d.nanos / 1000) (d.nanos % 1000) 3 "µs"
  else
    decimalText d.nanos 0 0 "ns"

theorem toMillis_ofMillis (ms : Nat) : (ofMillis ms).toMillis = ms := by
  simp [toMillis, ofMillis, nanosPerMilli]

end Duration

end LinkTap
