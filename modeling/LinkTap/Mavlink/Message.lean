import LinkTap.Mavlink.Frame
import LinkTap.Json.Value

/-!
# Decoded MAVLink messages

A frame's payload read into fields against its message's definition, and reported as JSON.
-/

set_option autoImplicit false

namespace LinkTap.Mavlink

inductive FieldValue where
  | int (value : Int)
  | real (value : Decimal.Binary)
  | variant (name : String)
  | array
deriving DecidableEq, Repr

def littleEndian (bytes : List UInt8) : Nat :=
  bytes.foldr (fun byte acc => byte.toNat + 256 * acc) 0

/-- The value of a field's bytes as an integer of its type: two's complement for signed types. -/
def Scalar.integer (scalar : Scalar) (raw : Nat) : Int :=
  if scalar.isSigned && raw ≥ Nat.pow 2 (8 * scalar.width - 1) then (raw : Int) - (Nat.pow 2 (8 * scalar.width) : Nat)
  else raw

namespace FieldSpec

/-- Reads the field from its bytes; `none` for a number that names no variant. -/
def read (f : FieldSpec) (bytes : List UInt8) : Option FieldValue :=
  if f.count.isSome then some .array
  else
    let raw := littleEndian bytes
    match f.scalar with
    | .f32 => some (.real (Decimal.Binary.ofBinary32Bits (UInt32.ofNat raw)))
    | .f64 => some (.real (Decimal.Binary.ofBinary64Bits (UInt64.ofNat raw)))
    | scalar =>
      let value := scalar.integer raw
      match f.meaning with
      | .plain => some (.int value)
      | .flags spec => some (.int (raw &&& spec.mask))
      | .enumerated spec => (spec.variant? value.toNat).filter (fun _ => 0 ≤ value) |>.map .variant

/-- The name a field is reported under: `type` becomes `mavtype`. -/
def reportName (f : FieldSpec) : String :=
  if f.name = "type" then "mavtype" else f.name

end FieldSpec

def readFields : List FieldSpec → List UInt8 → Option (List (String × FieldValue))
  | [], _ => some []
  | f :: rest, bytes => do
    let value ← f.read (bytes.take f.size)
    let others ← readFields rest (bytes.drop f.size)
    pure ((f.reportName, value) :: others)

/-- The payload extended with zeros, or cut, to `length` bytes. -/
def fitPayload (payload : List UInt8) (length : Nat) : List UInt8 :=
  payload.take length ++ List.replicate (length - payload.length) 0

namespace MessageSpec

/-- The fields of a payload, sorted by reported name; `none` if a number names no variant. -/
def decode (spec : MessageSpec) (payload : List UInt8) : Option (List (String × FieldValue)) :=
  (readFields spec.wireOrder (fitPayload payload spec.payloadLength)).map
    (·.mergeSort fun a b => compare a.1 b.1 != .gt)

end MessageSpec

structure Message where
  name : String
  msgid : UInt32
  version : Version
  sysid : UInt8
  compid : UInt8
  seq : UInt8
  len : UInt8
  checksum : UInt16
  fields : List (String × FieldValue)
deriving Repr

namespace Message

def ofFrame (frame : Frame) : Message :=
  let (name, fields) :=
    match Dialect.find? frame.msgid.toNat with
    | some spec =>
      match spec.decode frame.payload with
      | some fields => (spec.name, fields)
      | none => (spec.name, [])
    | none => (Dialect.messageName frame.msgid.toNat, [])
  { name, fields
    msgid := frame.msgid
    version := frame.version
    sysid := frame.sysid
    compid := frame.compid
    seq := frame.seq
    len := UInt8.ofNat frame.payload.length
    checksum := frame.checksum }

def fieldJson : FieldValue → Json.Value
  | .int value => .int value
  | .real value => .double value
  | .variant name => .str name
  | .array => .null

def toJson (m : Message) : Json.Value :=
  .obj [("message", .str m.name), ("msgid", .int m.msgid.toNat), ("sysid", .int m.sysid.toNat),
    ("compid", .int m.compid.toNat), ("seq", .int m.seq.toNat), ("len", .int m.len.toNat),
    ("checksum", .int m.checksum.toNat),
    ("fields", .obj (m.fields.map fun (name, value) => (name, fieldJson value)))]

def jsonText (m : Message) : String := m.toJson.render

end Message

end LinkTap.Mavlink
