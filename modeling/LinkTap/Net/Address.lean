/-!
# IP addresses and socket addresses

Strict reading of IPv4, IPv6 and socket addresses, and the recommended text form of IPv6.
-/

set_option autoImplicit false

namespace LinkTap.Net

/-- An IPv4 address. -/
structure Ipv4Address where
  octets : Vector UInt8 4
deriving DecidableEq, Repr

/-- An IPv6 address as eight 16-bit groups. -/
structure Ipv6Address where
  groups : Vector UInt16 8
deriving DecidableEq, Repr

inductive IpAddress where
  | v4 (address : Ipv4Address)
  | v6 (address : Ipv6Address)
deriving DecidableEq, Repr

/-- An IP address and a port. An IPv6 socket address also has a zone: the number of the
interface its address belongs to, 0 for none. -/
structure SocketAddress where
  ip : IpAddress
  port : UInt16
  scope : UInt32 := 0
deriving DecidableEq, Repr

namespace Ipv6Address

/-- Whether the address is a multicast address: in `ff00::/8`. -/
def isMulticast (a : Ipv6Address) : Bool :=
  a.groups[0] >>> 8 == 0xFF

/-- Whether the address is link-local: in `fe80::/10`. -/
def isLinkLocal (a : Ipv6Address) : Bool :=
  a.groups[0] &&& 0xFFC0 == 0xFE80

/-- Whether the address is an IPv4 address mapped into IPv6: `::ffff:a.b.c.d`. -/
def isIpv4Mapped (a : Ipv6Address) : Bool :=
  a.groups.toList.take 6 == [0, 0, 0, 0, 0, 0xFFFF]

/-- Whether the address is the unspecified address `::`. -/
def isUnspecified (a : Ipv6Address) : Bool :=
  a.groups.toList.all (· == 0)

/-- Whether the address only has a meaning on one interface: a link-local address, or a
multicast address whose scope is the node or the link. -/
def isInterfaceScoped (a : Ipv6Address) : Bool :=
  a.isLinkLocal || (a.isMulticast && (a.groups[0] &&& 0xF == 1 || a.groups[0] &&& 0xF == 2))

end Ipv6Address

abbrev Reader (α : Type) := List Char → Option (α × List Char)

namespace Reader

def char (c : Char) : Reader Unit
  | d :: rest => if c = d then some ((), rest) else none
  | [] => none

/-- The value of a digit in a radix up to 16. -/
def digitValue (radix : Nat) (c : Char) : Option Nat :=
  let v := if c.isDigit then some (c.toNat - '0'.toNat)
    else if 'a' ≤ c ∧ c ≤ 'f' then some (c.toNat - 'a'.toNat + 10)
    else if 'A' ≤ c ∧ c ≤ 'F' then some (c.toNat - 'A'.toNat + 10)
    else none
  v.filter (· < radix)

def digits (radix : Nat) : List Char → List Nat × List Char
  | [] => ([], [])
  | c :: rest =>
    match digitValue radix c with
    | some d => let (ds, tail) := digits radix rest; (d :: ds, tail)
    | none => ([], c :: rest)

/-- Reads all the digits at the start as one number: there must be some, no more than
`maxDigits`, a value up to `limit`, and no leading zero unless allowed. -/
def number (radix : Nat) (maxDigits : Option Nat) (zeroPrefix : Bool) (limit : Nat) : Reader Nat :=
  fun input =>
    let (ds, rest) := digits radix input
    let value := ds.foldl (fun acc d => acc * radix + d) 0
    if ds.isEmpty then none
    else if maxDigits.any (· < ds.length) then none
    else if limit < value then none
    else if !zeroPrefix && ds.head? = some 0 && 1 < ds.length then none
    else some (value, rest)

/-- Reads `p` after a colon unless it is the first group. -/
def afterColon {α : Type} (first : Bool) (p : Reader α) : Reader α :=
  fun input => if first then p input else (char ':' input).bind fun (_, rest) => p rest

end Reader

open Reader in
/-- Reads an IPv4 address. -/
def readIpv4 : Reader Ipv4Address := fun input => do
  let octet := number 10 (some 3) false 255
  let (a, r) ← octet input
  let (_, r) ← char '.' r
  let (b, r) ← octet r
  let (_, r) ← char '.' r
  let (c, r) ← octet r
  let (_, r) ← char '.' r
  let (d, r) ← octet r
  pure (⟨#v[a.toUInt8, b.toUInt8, c.toUInt8, d.toUInt8]⟩, r)

open Reader in
/-- Reads up to `limit` groups; the last two may be an IPv4 address. Returns the groups, and
whether an IPv4 address ended them. -/
def readGroups (limit : Nat) (index : Nat) (input : List Char) : List UInt16 × Bool × List Char :=
  match limit with
  | 0 => ([], false, input)
  | remaining + 1 =>
    let embedded := if 1 < remaining + 1 then afterColon (index == 0) readIpv4 input else none
    match embedded with
    | some (v4, rest) =>
      let o := v4.octets
      ([o[0].toUInt16 * (256 : UInt16) + o[1].toUInt16, o[2].toUInt16 * (256 : UInt16) + o[3].toUInt16],
        true, rest)
    | none =>
      match afterColon (index == 0) (number 16 (some 4) true 0xFFFF) input with
      | some (g, rest) =>
        let (gs, v4, tail) := readGroups remaining (index + 1) rest
        (g.toUInt16 :: gs, v4, tail)
      | none => ([], false, input)

open Reader in
/-- Reads an IPv6 address: eight groups, or groups around one `::`. -/
def readIpv6 : Reader Ipv6Address := fun input =>
  let (head, headV4, rest) := readGroups 8 0 input
  if head.length = 8 then some (⟨Vector.ofFn fun i => head.getD i 0⟩, rest)
  else if headV4 then none
  else do
    let (_, rest) ← char ':' rest
    let (_, rest) ← char ':' rest
    let (tail, _, rest) := readGroups (8 - (head.length + 1)) 0 rest
    let zeros := List.replicate (8 - head.length - tail.length) (0 : UInt16)
    let all := head ++ zeros ++ tail
    pure (⟨Vector.ofFn fun i => all.getD i 0⟩, rest)

def readAll {α : Type} (p : Reader α) (s : String) : Option α :=
  match p s.toList with
  | some (v, []) => some v
  | _ => none

def IpAddress.parse? (s : String) : Option IpAddress :=
  (readAll readIpv4 s).map .v4 <|> (readAll readIpv6 s).map .v6

open Reader in
def SocketAddress.parse? (s : String) : Option SocketAddress :=
  let port := number 10 none true 0xFFFF
  let v4 : Reader SocketAddress := fun input => do
    let (ip, r) ← readIpv4 input
    let (_, r) ← char ':' r
    let (p, r) ← port r
    pure ({ ip := .v4 ip, port := p.toUInt16 }, r)
  let zone : Reader Nat := fun input =>
    match (char '%' input).bind fun (_, r) => number 10 none true 0xFFFFFFFF r with
    | some (n, r) => some (n, r)
    | none => some (0, input)
  let v6 : Reader SocketAddress := fun input => do
    let (_, r) ← char '[' input
    let (ip, r) ← readIpv6 r
    let (scope, r) ← zone r
    let (_, r) ← char ']' r
    let (_, r) ← char ':' r
    let (p, r) ← port r
    pure ({ ip := .v6 ip, port := p.toUInt16, scope := scope.toUInt32 }, r)
  readAll v4 s <|> readAll v6 s

def Ipv4Address.text (a : Ipv4Address) : String :=
  ".".intercalate (a.octets.toList.map fun o => toString o.toNat)

/-- The longest run of zeros in a list, the first of equally long ones: start and length. -/
def longestZeroRun (groups : List UInt16) : Nat × Nat :=
  let step := fun (acc : (Nat × Nat) × (Nat × Nat) × Nat) (g : UInt16) =>
    let (best, (start, len), index) := acc
    if g = 0 then
      let current := if len = 0 then (index, 1) else (start, len + 1)
      ((if best.2 < current.2 then current else best), current, index + 1)
    else (best, (index + 1, 0), index + 1)
  (groups.foldl step ((0, 0), (0, 0), 0)).1

/-- The recommended text of an IPv6 address. -/
def Ipv6Address.text (a : Ipv6Address) : String :=
  let gs := a.groups.toList
  let hex := fun (g : UInt16) => String.ofList (Nat.toDigits 16 g.toNat)
  let part := fun (xs : List UInt16) => ":".intercalate (xs.map hex)
  if a.isIpv4Mapped then
    let low := gs.drop 6
    let (g6, g7) := (low.getD 0 0, low.getD 1 0)
    "::ffff:" ++ Ipv4Address.text ⟨#v[(g6 >>> 8).toUInt8, g6.toUInt8, (g7 >>> 8).toUInt8, g7.toUInt8]⟩
  else
    let (start, len) := longestZeroRun gs
    if 1 < len then part (gs.take start) ++ "::" ++ part (gs.drop (start + len))
    else part gs

def IpAddress.text : IpAddress → String
  | .v4 a => a.text
  | .v6 a => a.text

/-- The text of a socket address: IPv6 addresses in brackets, with their zone if they have
one. -/
def SocketAddress.text (s : SocketAddress) : String :=
  match s.ip with
  | .v4 a => a.text ++ ":" ++ toString s.port.toNat
  | .v6 a =>
    let zone := if s.scope == 0 then "" else "%" ++ toString s.scope.toNat
    "[" ++ a.text ++ zone ++ "]:" ++ toString s.port.toNat

end LinkTap.Net
