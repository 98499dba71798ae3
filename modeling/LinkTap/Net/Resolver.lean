import LinkTap.Net.Address

/-!
# Name resolution

A host text read as classic dotted notation, as an IPv6 address with an optional zone, or as a
name of the host's table; any other well-formed name would need a name server.
-/

set_option autoImplicit false

namespace LinkTap.Net

inductive LookupError where
  | notKnown
  | temporaryFailure
deriving DecidableEq, Repr

def LookupError.message : LookupError → String
  | .notKnown => "Name or service not known"
  | .temporaryFailure => "Temporary failure in name resolution"

namespace Resolver

open Reader

def digitsValue (radix : Nat) (ds : List Nat) : Nat :=
  ds.foldl (fun acc d => acc * radix + d) 0

/-- A number written as in C at the start of a text that starts with a decimal digit, with the
rest: `0x` or `0X` and hexadecimal digits, a `0` and octal digits, or decimal digits. A `0x`
without hexadecimal digits after it is the number 0 followed by the `x`. -/
def cNumber (chars : List Char) : Nat × List Char :=
  match chars with
  | '0' :: x :: rest =>
    let (hex, afterHex) := digits 16 rest
    if (x = 'x' || x = 'X') && !hex.isEmpty then (digitsValue 16 hex, afterHex)
    else
      let (octal, afterOctal) := digits 8 (x :: rest)
      (digitsValue 8 octal, afterOctal)
  | _ =>
    let (decimal, afterDecimal) := digits 10 chars
    (digitsValue 10 decimal, afterDecimal)

/-- The numbers of classic dotted notation: the one-byte numbers before the last, the last, and
the rest of the text. Each number starts with a decimal digit and is at most `0xFFFFFFFF`; at
most three dots are read. -/
def dottedParts (fuel : Nat) (bytes : List Nat) (chars : List Char) :
    Option (List Nat × Nat × List Char) :=
  match fuel, chars with
  | 0, _ => none
  | _ + 1, [] => none
  | fuel + 1, c :: rest =>
    if !c.isDigit then none
    else
      let (n, after) := cNumber (c :: rest)
      if 0xFFFFFFFF < n then none
      else match after with
        | '.' :: next =>
          if 3 ≤ bytes.length || 0xFF < n then none
          else dottedParts fuel (bytes ++ [n]) next
        | _ => some (bytes, n, after)

def lastLimit (bytesBefore : Nat) : Nat :=
  Nat.pow 256 (4 - bytesBefore) - 1

def classicIpv4? (text : String) : Option Ipv4Address := do
  let (bytes, last, rest) ← dottedParts 4 [] text.toList
  if !rest.isEmpty || lastLimit bytes.length < last then none
  else
    let value := digitsValue 256 bytes * Nat.pow 256 (4 - bytes.length) + last
    some ⟨#v[(value / 0x1000000 % 256).toUInt8, (value / 0x10000 % 256).toUInt8,
      (value / 0x100 % 256).toUInt8, (value % 256).toUInt8]⟩

/-- The zone after `%` of an IPv6 address, as an interface number: the number of an interface
named so (interfaces count from 1), for an address that only has a meaning on one interface,
or a decimal number up to `0xFFFFFFFF`. -/
def zone? (interfaces : List String) (address : Ipv6Address) (text : String) : Option Nat :=
  let byName := if address.isInterfaceScoped then
      (interfaces.findIdx? (· = text)).map (· + 1)
    else none
  byName.orElse fun _ =>
    match text.toList with
    | c :: _ => if c.isDigit then readAll (number 10 none true 0xFFFFFFFF) text else none
    | [] => none

/-- Splits a text at its first occurrence of `sep`. -/
def splitFirst (sep : Char) (text : String) : String × Option String :=
  let chars := text.toList
  match chars.findIdx? (· = sep) with
  | some cut => (String.ofList (chars.take cut), some (String.ofList (chars.drop (cut + 1))))
  | none => (text, none)

def isLabelChar (c : Char) : Bool :=
  c.isAlphanum || c = '-' || c = '_'

/-- Whether a text is a well-formed host name (see the module documentation). -/
def isHostName (text : String) : Bool :=
  let chars := text.toList
  let labels := chars.splitOn '.'
  let named := if chars = ['.'] then [] else
    if labels.getLast? = some [] then labels.dropLast else labels
  !chars.isEmpty &&
    chars.all (fun c => 0x20 < c.toNat && c.toNat < 0x7F) &&
    named.all (fun label => !label.isEmpty && label.length ≤ 63 && label.all isLabelChar) &&
    (named.map (·.length + 1)).foldr (· + ·) 1 ≤ 255 &&
    named.head?.all (·.head? != some '-')

end Resolver

end LinkTap.Net
