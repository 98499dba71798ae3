/-!
# Message definitions and the checksum

A MAVLink dialect defines messages as lists of typed fields; frames end with a CRC-16/MCRF4XX
checksum that takes in one extra byte computed from the message's definition.
-/

set_option autoImplicit false

namespace LinkTap.Mavlink.Checksum

def seed : UInt16 := 0xFFFF

def step (crc : UInt16) (byte : UInt8) : UInt16 :=
  let tmp : UInt8 := byte ^^^ crc.toUInt8
  let tmp : UInt8 := tmp ^^^ (tmp <<< 4)
  (crc >>> 8) ^^^ (tmp.toUInt16 <<< 8) ^^^ (tmp.toUInt16 <<< 3) ^^^ (tmp.toUInt16 >>> 4)

/-- The checksum of `bytes` continued from `crc`. -/
def accumulate (crc : UInt16) (bytes : List UInt8) : UInt16 :=
  bytes.foldl step crc

def ofBytes (bytes : List UInt8) : UInt16 :=
  accumulate seed bytes

theorem accumulate_append (crc : UInt16) (first second : List UInt8) :
    accumulate crc (first ++ second) = accumulate (accumulate crc first) second := by
  simp [accumulate, List.foldl_append]

example : ofBytes [0x31, 0x32, 0x33, 0x34, 0x35, 0x36, 0x37, 0x38, 0x39] = 0x6F91 := by
  decide

end LinkTap.Mavlink.Checksum

namespace LinkTap.Mavlink

inductive Scalar where
  | u8 | i8 | u16 | i16 | u32 | i32 | u64 | i64 | f32 | f64 | char
deriving DecidableEq, Repr, Inhabited

namespace Scalar

def width : Scalar → Nat
  | u8 | i8 | char => 1
  | u16 | i16 => 2
  | u32 | i32 | f32 => 4
  | u64 | i64 | f64 => 8

/-- The type's name in dialect definitions, which enters the extra checksum byte. -/
def typeName : Scalar → String
  | u8 => "uint8_t"
  | i8 => "int8_t"
  | u16 => "uint16_t"
  | i16 => "int16_t"
  | u32 => "uint32_t"
  | i32 => "int32_t"
  | u64 => "uint64_t"
  | i64 => "int64_t"
  | f32 => "float"
  | f64 => "double"
  | char => "char"

def isSigned : Scalar → Bool
  | i8 | i16 | i32 | i64 => true
  | _ => false

def isFloat : Scalar → Bool
  | f32 | f64 => true
  | _ => false

end Scalar

/-- A dialect enumeration: the numbers that name variants, with the variants' names. -/
structure EnumSpec where
  name : String
  entries : List (Nat × String)
deriving Repr, Inhabited

def EnumSpec.variant? (e : EnumSpec) (value : Nat) : Option String :=
  (e.entries.find? (·.1 == value)).map (·.2)

structure FlagSpec where
  name : String
  bits : List Nat
deriving Repr, Inhabited

def FlagSpec.mask (f : FlagSpec) : Nat :=
  f.bits.foldl (· ||| ·) 0

inductive Meaning where
  | plain
  | enumerated (spec : EnumSpec)
  | flags (spec : FlagSpec)
deriving Repr, Inhabited

structure FieldSpec where
  name : String
  scalar : Scalar
  count : Option Nat := none
  meaning : Meaning := .plain
deriving Repr, Inhabited

namespace FieldSpec

def single (scalar : Scalar) (name : String) : FieldSpec := { name, scalar }

/-- An array of `count` values of the given type. -/
def array (scalar : Scalar) (count : Nat) (name : String) : FieldSpec :=
  { name, scalar, count := some count }

def enumerated (scalar : Scalar) (spec : EnumSpec) (name : String) : FieldSpec :=
  { name, scalar, meaning := .enumerated spec }

def flags (scalar : Scalar) (spec : FlagSpec) (name : String) : FieldSpec :=
  { name, scalar, meaning := .flags spec }

def size (f : FieldSpec) : Nat := f.scalar.width * f.count.getD 1

/-- What the field contributes to the extra checksum byte: type name and field name, each
followed by a space, and the array length as one byte for arrays. -/
def signature (f : FieldSpec) : List UInt8 :=
  (f.scalar.typeName ++ " " ++ f.name ++ " ").toUTF8.toList ++
    (match f.count with | some n => [UInt8.ofNat n] | none => [])

end FieldSpec

/-- A message definition: its number, its name and its fields in definition order. -/
structure MessageSpec where
  id : Nat
  name : String
  fields : List FieldSpec
deriving Repr, Inhabited

namespace MessageSpec

/-- The fields in wire order: widest type first, definition order among equal widths. -/
def wireOrder (m : MessageSpec) : List FieldSpec :=
  m.fields.mergeSort (fun a b => b.scalar.width ≤ a.scalar.width)

def payloadLength (m : MessageSpec) : Nat :=
  (m.fields.map FieldSpec.size).foldr (· + ·) 0

/-- The extra checksum byte: the checksum of the name and the wire-order field signatures,
its two bytes combined by exclusive or. -/
def crcExtra (m : MessageSpec) : UInt8 :=
  let crc := Checksum.ofBytes ((m.name ++ " ").toUTF8.toList ++ m.wireOrder.flatMap FieldSpec.signature)
  crc.toUInt8 ^^^ (crc >>> 8).toUInt8

theorem perm_wireOrder (m : MessageSpec) : m.wireOrder.Perm m.fields :=
  List.mergeSort_perm _ _

theorem length_wireOrder (m : MessageSpec) : m.wireOrder.length = m.fields.length :=
  (perm_wireOrder m).length_eq

end MessageSpec

end LinkTap.Mavlink
