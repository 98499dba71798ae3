import LinkTap.Decimal.Shortest

/-!
# Writing decimals

A decimal `digits · 10^power` written positionally or with an exponent, as a text format chooses.
-/

set_option autoImplicit false

namespace LinkTap.Decimal

structure Notation where
  leastPositional : Int
  greatestPositional : Int
  wholeSuffix : String
  exponentMark : String
  positiveExponentSign : String
deriving Repr

/-- `count` zeros. -/
def zeros (count : Nat) : String := String.ofList (List.replicate count '0')

namespace Notation

/-- Writes `digits · 10^power` without a sign. Positional form places the point by the
power; exponent form puts one digit before the point, and no point after a single digit. -/
def magnitude (n : Notation) (digits : Nat) (power : Int) : String :=
  let text := toString digits
  let lead : Int := power + text.length - 1
  if n.leastPositional ≤ lead ∧ lead ≤ n.greatestPositional then
    if 0 ≤ power then text ++ zeros power.toNat ++ n.wholeSuffix
    else if 0 ≤ lead then
      let split := (lead + 1).toNat
      String.ofList (text.toList.take split) ++ "." ++ String.ofList (text.toList.drop split)
    else "0." ++ zeros (-lead - 1).toNat ++ text
  else
    let rest := String.ofList (text.toList.drop 1)
    let sign := if 0 ≤ lead then n.positiveExponentSign else "-"
    String.ofList (text.toList.take 1) ++ (if rest.isEmpty then "" else "." ++ rest) ++
      n.exponentMark ++ sign ++ toString lead.natAbs

def write (n : Notation) (negative : Bool) (digits : Nat) (power : Int) : String :=
  (if negative then "-" else "") ++ n.magnitude digits power

/-- Writes a binary64 value by its shortest decimal; NaN and the infinities have no decimal. -/
def writeBinary (n : Notation) : Binary → Option String
  | .nan => none
  | .infinity _ => none
  | .zero negative => some (n.write negative 0 0)
  | .finite negative significand exponent =>
    let (digits, power) := shortest .binary64 significand exponent
    some (n.write negative digits power)

end Notation

end LinkTap.Decimal
