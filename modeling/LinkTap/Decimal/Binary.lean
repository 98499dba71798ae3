/-!
# Binary floating-point words

An IEEE 754 binary32 or binary64 word read into the value it encodes: NaN, an infinity, a signed
zero, or `significand · 2^exponent`.
-/

set_option autoImplicit false

namespace LinkTap.Decimal

/-- The shape of a binary interchange format: bits of the stored fraction and of the exponent. -/
structure BinaryFormat where
  fractionBits : Nat
  exponentBits : Nat
deriving DecidableEq, Repr

namespace BinaryFormat

/-- Single precision: 23 fraction bits, 8 exponent bits. -/
def binary32 : BinaryFormat := ⟨23, 8⟩

/-- Double precision: 52 fraction bits, 11 exponent bits. -/
def binary64 : BinaryFormat := ⟨52, 11⟩

def precision (f : BinaryFormat) : Nat := f.fractionBits + 1

def bias (f : BinaryFormat) : Nat := Nat.pow 2 (f.exponentBits - 1) - 1

/-- The exponent of a subnormal number's significand, which is also the least normal one. -/
def minExponent (f : BinaryFormat) : Int := 1 - (f.bias : Int) - f.fractionBits

def maxBiased (f : BinaryFormat) : Nat := Nat.pow 2 f.exponentBits - 1

end BinaryFormat

inductive Binary where
  | nan
  | infinity (negative : Bool)
  | zero (negative : Bool)
  | finite (negative : Bool) (significand : Nat) (exponent : Int)
deriving DecidableEq, Repr

namespace Binary

/-- Reads a word of the format: the sign is the top bit, then the biased exponent, then the
fraction. A zero exponent marks zero and the subnormals, an all-ones exponent infinity (zero
fraction) or NaN. -/
def decode (f : BinaryFormat) (bits : Nat) : Binary :=
  let fraction := bits % Nat.pow 2 f.fractionBits
  let biased := bits / Nat.pow 2 f.fractionBits % Nat.pow 2 f.exponentBits
  let negative := bits / Nat.pow 2 (f.fractionBits + f.exponentBits) % 2 == 1
  if biased == f.maxBiased then
    if fraction == 0 then infinity negative else nan
  else if biased == 0 then
    if fraction == 0 then zero negative else finite negative fraction f.minExponent
  else finite negative (fraction + Nat.pow 2 f.fractionBits) (f.minExponent + biased - 1)

/-- Writes a nonzero value that the format holds exactly in the format's own terms: the
significand is shifted up to the format's precision, or as far as the least exponent allows. -/
def normalize (f : BinaryFormat) (negative : Bool) (significand : Nat) (exponent : Int) : Binary :=
  let width := Nat.log2 significand + 1
  let room := (exponent - f.minExponent).toNat
  let shift := min (f.precision - width) room
  finite negative (significand * Nat.pow 2 shift) (exponent - shift)

/-- The binary64 value of a binary64 word. -/
def ofBinary64Bits (bits : UInt64) : Binary := decode .binary64 bits.toNat

/-- The binary64 value of a binary32 word: the same number, with significand and exponent
those of binary64. -/
def ofBinary32Bits (bits : UInt32) : Binary :=
  match decode .binary32 bits.toNat with
  | finite negative significand exponent => normalize .binary64 negative significand exponent
  | other => other

end Binary

end LinkTap.Decimal
