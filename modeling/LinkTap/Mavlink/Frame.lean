import LinkTap.Mavlink.Dialect

/-!
# MAVLink frames

A start byte naming the version, a header, up to 255 payload bytes, a little-endian checksum and,
for a signed version 2 frame, 13 signature bytes.
-/

set_option autoImplicit false

namespace LinkTap.Mavlink

inductive Version where
  | v1
  | v2
deriving DecidableEq, Repr, Inhabited

namespace Version

def startByte : Version → UInt8
  | v1 => 0xFE
  | v2 => 0xFD

def ofStartByte? (byte : UInt8) : Option Version :=
  if byte = 0xFE then some v1 else if byte = 0xFD then some v2 else none

def headerLength : Version → Nat
  | v1 => 6
  | v2 => 10

def name : Version → String
  | v1 => "v1"
  | v2 => "v2"

theorem ofStartByte?_startByte (version : Version) : ofStartByte? version.startByte = some version := by
  cases version <;> decide

end Version

/-- The checksum byte that seeds a message with the given number: the extra byte of its
definition, or zero for a number outside the dialect. -/
def extraByte (msgid : UInt32) : UInt8 :=
  match Dialect.find? msgid.toNat with
  | some spec => spec.crcExtra
  | none => 0

/-- The checksum of a frame whose bytes up to the end of the payload are given: everything
after the start byte, then the message's extra byte. -/
def frameChecksum (bytes : List UInt8) (msgid : UInt32) : UInt16 :=
  Checksum.accumulate (Checksum.ofBytes (bytes.drop 1)) [extraByte msgid]

/-- A complete frame as received: the payload as it came, not extended to the message's
length, and the checksum as it stood on the wire. -/
structure Frame where
  version : Version
  seq : UInt8
  sysid : UInt8
  compid : UInt8
  msgid : UInt32
  payload : List UInt8
  checksum : UInt16
deriving DecidableEq, Repr, Inhabited

end LinkTap.Mavlink
