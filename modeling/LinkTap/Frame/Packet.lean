import LinkTap.Frame.Command
import LinkTap.Frame.Error

/-!
# Monitor frames

A four-byte header (command, sequence number, big-endian payload length), then the payload.
-/

set_option autoImplicit false

namespace LinkTap.Frame

def headerLen : Nat := 4

def maxPayloadLen : Nat := 65535

structure Header where
  cmd : UInt8
  seq : UInt8
  payloadLen : UInt16
deriving DecidableEq, Repr, Inhabited

namespace Header

def toBytes (h : Header) : List UInt8 :=
  [h.cmd, h.seq, (h.payloadLen >>> 8).toUInt8, h.payloadLen.toUInt8]

def ofBytes (cmd seq high low : UInt8) : Header :=
  ⟨cmd, seq, UInt16.ofNat (high.toNat * 256 + low.toNat)⟩

def command (h : Header) : Command := Command.ofByte h.cmd

theorem length_toBytes (h : Header) : h.toBytes.length = headerLen := rfl

end Header

structure Packet where
  cmd : UInt8
  seq : UInt8
  payload : List UInt8
deriving DecidableEq, Repr, Inhabited

namespace Packet

/-- The header of a frame; a payload longer than a header can announce has its length
truncated to 16 bits. -/
def header (p : Packet) : Header := ⟨p.cmd, p.seq, UInt16.ofNat p.payload.length⟩

def command (p : Packet) : Command := Command.ofByte p.cmd

def wireLen (p : Packet) : Nat := headerLen + p.payload.length

/-- The bytes of a frame on the link; a payload that no header can announce is refused. -/
def toBytes (p : Packet) : Except LinkError (List UInt8) :=
  if p.payload.length ≤ maxPayloadLen then .ok (p.header.toBytes ++ p.payload)
  else .error (.badLength p.payload.length maxPayloadLen)

/-- The frame held by exactly the given bytes: a header and as many payload bytes as it
announces. -/
def ofBytes : List UInt8 → Except LinkError Packet
  | cmd :: seq :: high :: low :: payload =>
    let announced := high.toNat * 256 + low.toNat
    if payload.length = announced then .ok ⟨cmd, seq, payload⟩
    else .error (.badLength payload.length announced)
  | bytes => .error (.incomplete headerLen bytes.length)

theorem toBytes_eq_ok_iff (p : Packet) (bytes : List UInt8) :
    p.toBytes = .ok bytes ↔ p.payload.length ≤ maxPayloadLen ∧ bytes = p.header.toBytes ++ p.payload := by
  unfold toBytes
  split
  · rename_i fits
    constructor
    · intro h
      cases h
      exact ⟨fits, rfl⟩
    · rintro ⟨-, rfl⟩
      rfl
  · rename_i tooLong
    constructor
    · intro h
      cases h
    · rintro ⟨fits, -⟩
      exact absurd fits tooLong

theorem length_bytes_roundTrip (n : Nat) (fits : n ≤ maxPayloadLen) :
    ((UInt16.ofNat n >>> 8).toUInt8.toNat * 256 + (UInt16.ofNat n).toUInt8.toNat) = n := by
  unfold maxPayloadLen at fits
  have sameLen : (UInt16.ofNat n).toNat = n := by
    rw [UInt16.toNat_ofNat']; omega
  have shift : (8 : UInt16).toNat % 16 = 8 := rfl
  simp only [UInt16.toNat_toUInt8, UInt16.toNat_shiftRight, sameLen, shift,
    Nat.shiftRight_eq_div_pow]
  omega

theorem ofBytes_toBytes (p : Packet) (bytes : List UInt8) (written : p.toBytes = .ok bytes) :
    ofBytes bytes = .ok p := by
  obtain ⟨fits, rfl⟩ := (toBytes_eq_ok_iff p bytes).mp written
  simp only [header, Header.toBytes, List.cons_append, List.nil_append, ofBytes]
  rw [length_bytes_roundTrip _ fits, if_pos rfl]

end Packet

end LinkTap.Frame
