/-!
# Reading UTF-8 with replacement

Each maximal well-formed prefix that is cut short becomes one `U+FFFD`.
-/

set_option autoImplicit false

namespace LinkTap.Utf8

def replacement : Char := '�'

/-- For a byte that starts a sequence of two to four bytes: how many continuation bytes
follow, the range the first of them must lie in, and the bits the lead byte contributes. -/
def lead (b : UInt8) : Option (Nat × UInt8 × UInt8 × Nat) :=
  let n := b.toNat
  if 0xC2 ≤ n ∧ n ≤ 0xDF then some (1, 0x80, 0xBF, n % 32)
  else if n = 0xE0 then some (2, 0xA0, 0xBF, n % 16)
  else if n = 0xED then some (2, 0x80, 0x9F, n % 16)
  else if 0xE1 ≤ n ∧ n ≤ 0xEF then some (2, 0x80, 0xBF, n % 16)
  else if n = 0xF0 then some (3, 0x90, 0xBF, n % 8)
  else if n = 0xF4 then some (3, 0x80, 0x8F, n % 8)
  else if 0xF1 ≤ n ∧ n ≤ 0xF3 then some (3, 0x80, 0xBF, n % 8)
  else none

/-- Reads up to `need` continuation bytes, the first within `low … high` and the others within
`0x80 … 0xBF`: how many were read, and the code point if all were. -/
def continuation : Nat → UInt8 → UInt8 → List UInt8 → Nat → Nat × Option Nat
  | 0, _, _, _, bits => (0, some bits)
  | _ + 1, _, _, [], _ => (0, none)
  | need + 1, low, high, b :: rest, bits =>
    if low ≤ b ∧ b ≤ high then
      let (count, point) := continuation need 0x80 0xBF rest (bits * 64 + b.toNat % 64)
      (count + 1, point)
    else (0, none)

/-- Decodes bytes, replacing what is not UTF-8. -/
def decodeLossy (bytes : List UInt8) : List Char :=
  match bytes with
  | [] => []
  | b :: rest =>
    if b.toNat < 0x80 then Char.ofNat b.toNat :: decodeLossy rest
    else
      match lead b with
      | none => replacement :: decodeLossy rest
      | some (need, low, high, bits) =>
        let (count, point) := continuation need low high rest bits
        match point with
        | some p => Char.ofNat p :: decodeLossy (rest.drop count)
        | none => replacement :: decodeLossy (rest.drop count)
termination_by bytes.length
decreasing_by
  all_goals simp only [List.length_cons, List.length_drop]
  all_goals omega

/-- The text of bytes read as UTF-8 with replacement. -/
def toStringLossy (bytes : List UInt8) : String := String.ofList (decodeLossy bytes)

end LinkTap.Utf8
