import LinkTap.Decimal.Binary

/-!
# Rounding to nearest, ties to even

Of a ratio of naturals to an integer (`roundHalfEven`) and to a binary format
(`BinaryFormat.roundRatio`).
-/

set_option autoImplicit false

namespace LinkTap.Decimal

/-- The integer nearest to `n / d`; of two equally near, the even one. -/
def roundHalfEven (n d : Nat) : Nat :=
  let q := n / d
  let r := n % d
  if d < 2 * r || (2 * r == d && q % 2 == 1) then q + 1 else q

/-- Whether `n / d < 2^k`. -/
def ratioBelowPow (n d : Nat) (k : Int) : Bool :=
  if 0 ≤ k then n < d * Nat.pow 2 k.toNat else n * Nat.pow 2 (-k).toNat < d

/-- The greatest `k` with `2^k ≤ n / d`, for positive `n` and `d`. -/
def floorLog2Ratio (n d : Nat) : Int :=
  let guess : Int := (Nat.log2 n : Int) - Nat.log2 d
  if ratioBelowPow n d guess then guess - 1 else guess

namespace BinaryFormat

/-- The number of the format nearest to `n / d` (ties to the even significand), as
significand and exponent; zero for `n = 0`. -/
def roundRatio (f : BinaryFormat) (n d : Nat) : Nat × Int :=
  if n = 0 then (0, 0)
  else
    let exponent := floorLog2Ratio n d - f.fractionBits
    let significand :=
      if 0 ≤ exponent then roundHalfEven n (d * Nat.pow 2 exponent.toNat)
      else roundHalfEven (n * Nat.pow 2 (-exponent).toNat) d
    if significand = Nat.pow 2 f.precision then (Nat.pow 2 f.fractionBits, exponent + 1)
    else (significand, exponent)

end BinaryFormat

/-- The ratio `n / d` of a value `significand · 2^exponent`. -/
def ratioOf (significand : Nat) (exponent : Int) : Nat × Nat :=
  if 0 ≤ exponent then (significand * Nat.pow 2 exponent.toNat, 1) else (significand, Nat.pow 2 (-exponent).toNat)

/-- The text of `significand · 2^exponent` with `places` decimals, rounded to nearest with ties
to even, right-aligned in `width` characters. -/
def fixedText (places width : Nat) (significand : Nat) (exponent : Int) : String :=
  let (n, d) := ratioOf significand exponent
  let scaled := roundHalfEven (n * Nat.pow 10 places) d
  let whole := toString (scaled / Nat.pow 10 places)
  let fraction := toString (scaled % Nat.pow 10 places)
  let text := whole ++ (if places = 0 then "" else
    "." ++ String.ofList (List.replicate (places - fraction.length) '0') ++ fraction)
  String.ofList (List.replicate (width - text.length) ' ') ++ text

end LinkTap.Decimal
