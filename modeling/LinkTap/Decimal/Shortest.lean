import LinkTap.Decimal.Binary

/-!
# Shortest decimal digits

The decimal with the fewest significant digits that rounds back to a binary number, the nearest
of those, then the one with an even last digit; all arithmetic is exact.
-/

set_option autoImplicit false

namespace LinkTap.Decimal

def digitCount (n : Nat) : Nat :=
  if n < 10 then 1 else digitCount (n / 10) + 1
termination_by n
decreasing_by omega

/-- Removes trailing zeros from `digits · 10^exponent`, keeping its value. -/
def stripZeros (digits : Nat) (exponent : Int) : Nat × Int :=
  if digits ≠ 0 ∧ digits % 10 = 0 then stripZeros (digits / 10) (exponent + 1)
  else (digits, exponent)
termination_by digits
decreasing_by omega

/-- The interval of reals that round to a positive finite number, in exact integer terms:
the number is `value · 2^scale`, and the interval reaches `below · 2^scale` down and
`above · 2^scale` up. -/
structure RoundingInterval where
  value : Nat
  scale : Int
  below : Nat
  above : Nat
  closed : Bool
deriving DecidableEq, Repr

/-- The rounding interval of `significand · 2^exponent` in the format. Halfway to the
neighbours is half a unit in the last place; below the least significand of a binade the
neighbour is twice as close, so the lower reach halves there. Scaling by four keeps every
reach a whole number. -/
def roundingInterval (f : BinaryFormat) (significand : Nat) (exponent : Int) : RoundingInterval :=
  let binadeStart := significand == Nat.pow 2 f.fractionBits && exponent > f.minExponent
  { value := 4 * significand
    scale := exponent - 2
    below := if binadeStart then 1 else 2
    above := 2
    closed := significand % 2 == 0 }

/-- The greatest `E` with `10^E` not above `value · 2^scale`, for a positive value. -/
def decimalExponent (value : Nat) (scale : Int) : Int :=
  if 0 ≤ scale then (digitCount (value * Nat.pow 2 scale.toNat) : Int) - 1
  else
    let k := (-scale).toNat
    (digitCount (value * Nat.pow 10 k / Nat.pow 2 k) : Int) - 1 - k

/-- The number and its interval measured on the grid of spacing `10^power`: the number is
`numerator / denominator` grid steps, and one unit `2^scale` is `unit / denominator` steps. -/
structure GridPosition where
  numerator : Nat
  denominator : Nat
  unit : Nat

/-- Measures `value · 2^scale` on the grid of spacing `10^power`. -/
def gridPosition (value : Nat) (scale power : Int) : GridPosition :=
  let unit := Nat.pow 2 scale.toNat * Nat.pow 10 (-power).toNat
  { numerator := value * unit
    denominator := Nat.pow 2 (-scale).toNat * Nat.pow 10 power.toNat
    unit }

/-- Picks between the grid points below and above the number: `remainder` is the number's
distance above the lower point, in steps of `1 / denominator`. The nearer one wins; a tie
goes to the even one. -/
def nearer (lower remainder denominator : Nat) : Nat :=
  if 2 * remainder < denominator then lower
  else if denominator < 2 * remainder then lower + 1
  else if lower % 2 == 0 then lower else lower + 1

/-- The decimal of `digits` significant digits that rounds to the number, if there is one:
`some (d, p)` for the decimal `d · 10^p`. -/
def decimalWith (r : RoundingInterval) (digits : Nat) : Option (Nat × Int) :=
  let power := decimalExponent r.value r.scale - digits + 1
  let g := gridPosition r.value r.scale power
  let lower := g.numerator / g.denominator
  let remainder := g.numerator % g.denominator
  let reachBelow := r.below * g.unit
  let reachAbove := r.above * g.unit
  let lowerFits := remainder < reachBelow || (r.closed && remainder == reachBelow)
  let gap := g.denominator - remainder
  let upperFits := gap < reachAbove || (r.closed && gap == reachAbove)
  if lowerFits && upperFits then some (nearer lower remainder g.denominator, power)
  else if lowerFits then some (lower, power)
  else if upperFits then some (lower + 1, power)
  else none

/-- Most significant digits the search tries; enough for every binary64 number. -/
def maxDigits : Nat := 17

/-- The shortest decimal that rounds to `significand · 2^exponent` in the format, as digits
without trailing zeros and a power of ten. -/
def shortest (f : BinaryFormat) (significand : Nat) (exponent : Int) : Nat × Int :=
  let r := roundingInterval f significand exponent
  let found := (List.range maxDigits).findSome? fun k => decimalWith r (k + 1)
  let (digits, power) := found.getD
    (let power := decimalExponent r.value r.scale - maxDigits + 1
     let g := gridPosition r.value r.scale power
     (nearer (g.numerator / g.denominator) (g.numerator % g.denominator) g.denominator, power))
  stripZeros digits power

end LinkTap.Decimal
