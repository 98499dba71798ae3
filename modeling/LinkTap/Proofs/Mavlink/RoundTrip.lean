import Mathlib
import LinkTap.Proofs.Mavlink.Stream

/-!
# Frames read back

A scanner between frames reads a frame a sender built back as exactly that frame; main
statement: `Outgoing.feed_encode`.
-/

set_option autoImplicit false

namespace LinkTap.Mavlink

open LinkTap.Mavlink.Stream

/-- What the header of each version holds beyond the common fields: version 1 a one-byte
message number; version 2 a 24-bit message number, the compatible flags, and a signature when
the frame is signed (the incompatible flags are then `0x01`, else `0x00`). -/
inductive Layout where
  | v1 (msgid : UInt8)
  | v2 (compat : UInt8) (msgid : UInt32) (fits : msgid.toNat < 16777216)
      (signature : Option (Vector UInt8 13))

/-- A frame as its sender describes it; the payload fits the one-byte length field. -/
structure Outgoing where
  layout : Layout
  seq : UInt8
  sysid : UInt8
  compid : UInt8
  payload : List UInt8
  short : payload.length < 256

namespace Outgoing

variable (f : Outgoing)

def version : Version :=
  match f.layout with
  | .v1 _ => .v1
  | .v2 .. => .v2

def msgid : UInt32 :=
  match f.layout with
  | .v1 msgid => msgid.toUInt32
  | .v2 _ msgid _ _ => msgid

/-- The header: start byte, payload length, then the fields of the version. -/
def header : List UInt8 :=
  match f.layout with
  | .v1 msgid => [0xFE, UInt8.ofNat f.payload.length, f.seq, f.sysid, f.compid, msgid]
  | .v2 compat msgid _ signature =>
    [0xFD, UInt8.ofNat f.payload.length, if signature.isSome then 0x01 else 0x00, compat, f.seq,
      f.sysid, f.compid, msgid.toUInt8, (msgid >>> 8).toUInt8, (msgid >>> 16).toUInt8]

/-- The signature bytes after the checksum; none unless the frame is signed. -/
def signature : List UInt8 :=
  match f.layout with
  | .v2 _ _ _ (some signature) => signature.toList
  | _ => []

def checksum : UInt16 := frameChecksum (f.header ++ f.payload) f.msgid

def encode : List UInt8 :=
  f.header ++ f.payload ++ [f.checksum.toUInt8, (f.checksum >>> 8).toUInt8] ++ f.signature

def frame : Frame :=
  { version := f.version, seq := f.seq, sysid := f.sysid, compid := f.compid, msgid := f.msgid,
    payload := f.payload, checksum := f.checksum }

/-! ### What the verdict reads off the encoded bytes -/

theorem length_header_pos : 0 < f.header.length := by
  unfold header; split <;> simp

theorem getD_encode_of_lt {i : Nat} (inside : i < f.header.length) :
    f.encode.getD i 0 = f.header.getD i 0 := by
  simp only [encode, List.append_assoc]
  exact getD_append_of_lt _ inside

theorem getD_header_zero : f.header.getD 0 0 = f.version.startByte := by
  unfold header version; split <;> rfl

theorem getD_header_one : f.header.getD 1 0 = UInt8.ofNat f.payload.length := by
  unfold header; split <;> rfl

theorem headerLength_encode : headerLength f.encode = f.header.length := by
  rw [headerLength, getD_encode_of_lt f f.length_header_pos, getD_header_zero]
  unfold header version; split <;> simp [Version.startByte]

theorem toNat_lengthByte : (UInt8.ofNat f.payload.length).toNat = f.payload.length := by
  rw [UInt8.toNat_ofNat', Nat.mod_eq_of_lt (by simpa using f.short)]

theorem payloadEnd_encode : payloadEnd f.encode = f.header.length + f.payload.length := by
  have announced : 1 < f.header.length := by unfold header; split <;> simp
  rw [payloadEnd, headerLength_encode, getD_encode_of_lt f announced, getD_header_one,
    toNat_lengthByte]

theorem length_encode :
    f.encode.length = payloadEnd f.encode + 2 + f.signature.length := by
  rw [payloadEnd_encode]
  simp only [encode, List.length_append, List.length_cons, List.length_nil]

theorem take_payloadEnd_encode : f.encode.take (payloadEnd f.encode) = f.header ++ f.payload := by
  rw [payloadEnd_encode, encode, List.append_assoc, ← List.length_append]
  exact List.take_left' rfl

theorem getD_checksum_low (front back : List UInt8) (low high : UInt8) :
    (front ++ [low, high] ++ back).getD front.length 0 = low := by
  simp [List.getD_eq_getElem?_getD]

theorem getD_checksum_high (front back : List UInt8) (low high : UInt8) :
    (front ++ [low, high] ++ back).getD (front.length + 1) 0 = high := by
  simp [List.getD_eq_getElem?_getD]

theorem ofNat_littleEndian_bytes (c : UInt16) :
    UInt16.ofNat (littleEndian [c.toUInt8, (c >>> 8).toUInt8]) = c := by
  apply UInt16.toNat_inj.mp
  have small := c.toNat_lt
  simp only [littleEndian, List.foldr_cons, List.foldr_nil, UInt16.toNat_ofNat',
    UInt16.toNat_toUInt8, UInt16.toNat_shiftRight]
  simp
  omega

theorem checksumAt_encode : checksumAt f.encode = f.checksum := by
  have front : (f.header ++ f.payload).length = payloadEnd f.encode := by
    rw [payloadEnd_encode, List.length_append]
  rw [checksumAt, ← front, encode, getD_checksum_low, getD_checksum_high, ofNat_littleEndian_bytes]

theorem ofNat_littleEndian_three_bytes (m : UInt32) (fits : m.toNat < 16777216) :
    UInt32.ofNat (littleEndian [m.toUInt8, (m >>> 8).toUInt8, (m >>> 16).toUInt8]) = m := by
  apply UInt32.toNat_inj.mp
  simp only [littleEndian, List.foldr_cons, List.foldr_nil, UInt32.toNat_ofNat',
    UInt32.toNat_toUInt8, UInt32.toNat_shiftRight]
  simp
  omega

theorem msgidAt_encode : msgidAt f.encode = f.msgid := by
  have reads := fun i (inside : i < f.header.length) => getD_encode_of_lt f inside
  obtain ⟨layout, seq, sysid, compid, payload, short⟩ := f
  cases layout with
  | v1 msgid =>
      rw [msgidAt, reads 0 (by simp [header]), reads 5 (by simp [header])]
      simp [header, Outgoing.msgid]
  | v2 compat msgid fits signature =>
      rw [msgidAt, reads 0 (by simp [header]), reads 7 (by simp [header]),
        reads 8 (by simp [header]), reads 9 (by simp [header])]
      simpa [header, Outgoing.msgid] using ofNat_littleEndian_three_bytes msgid fits

theorem flags_encode (version2 : f.encode.getD 0 0 = 0xFD) : (f.encode.getD 2 0 &&& 0xFE) = 0 := by
  have third : 2 < f.header.length := by unfold header; split <;> simp
  rw [getD_encode_of_lt f f.length_header_pos, getD_header_zero] at version2
  rw [getD_encode_of_lt f third]
  obtain ⟨layout, seq, sysid, compid, payload, short⟩ := f
  cases layout with
  | v1 msgid => simp [version, Version.startByte] at version2
  | v2 compat msgid fits signature =>
      cases signature with
      | none => simp [header]
      | some bytes => simp [header]; decide

theorem length_signature : f.signature.length = if isSigned f.encode then 13 else 0 := by
  have third : 2 < f.header.length := by unfold header; split <;> simp
  rw [isSigned, getD_encode_of_lt f f.length_header_pos, getD_encode_of_lt f third]
  obtain ⟨layout, seq, sysid, compid, payload, short⟩ := f
  cases layout with
  | v1 msgid => simp [header, signature]
  | v2 compat msgid fits signature =>
      cases signature with
      | none => simp [header, Outgoing.signature]
      | some bytes => simp [header, Outgoing.signature]

theorem getD_encode_zero : f.encode.getD 0 0 = f.version.startByte := by
  rw [getD_encode_of_lt f f.length_header_pos, getD_header_zero]

theorem frameAt_encode : frameAt f.encode = f.frame := by
  have payload : (f.encode.take (payloadEnd f.encode)).drop (headerLength f.encode) = f.payload := by
    rw [take_payloadEnd_encode, headerLength_encode]
    exact List.drop_left' rfl
  simp only [frameAt, msgidAt_encode, checksumAt_encode, payload, getD_encode_zero]
  obtain ⟨layout, seq, sysid, compid, payload, short⟩ := f
  cases layout with
  | v1 msgid => simp [encode, header, frame, version, Version.startByte]
  | v2 compat msgid fits signature => simp [encode, header, frame, version, Version.startByte]

theorem verdict_encode : verdict f.encode = .frame f.frame f.encode.length := by
  have started : ¬(f.encode.getD 0 0 ≠ 0xFE ∧ f.encode.getD 0 0 ≠ 0xFD) := by
    rw [getD_encode_zero]
    unfold version; split <;> simp [Version.startByte]
  have flagsGood : ¬(f.encode.getD 0 0 = 0xFD ∧ 2 < f.encode.length ∧
      (f.encode.getD 2 0 &&& 0xFE) ≠ 0) :=
    fun ⟨version2, _, bad⟩ => bad (f.flags_encode version2)
  have whole := f.length_encode
  have signed := f.length_signature
  unfold verdict
  simp only [started, flagsGood, checksumAt_encode, take_payloadEnd_encode, msgidAt_encode, checksum,
    frameAt_encode, ↓reduceIte, ne_eq, not_true_eq_false]
  cases sig : isSigned f.encode <;>
    simp only [sig, Bool.false_eq_true, false_and, true_and, ↓reduceIte] at signed ⊢
  · rw [if_neg (by omega), whole, signed]
  · rw [if_neg (by omega), if_neg (by omega), whole, signed]

theorem scan_encode : scan f.encode = { frames := [f.frame], stats := { messagesReceived := 1 } } := by
  have positive : 0 < f.encode.length := by
    rw [length_encode]
    omega
  rw [scan_of_frame f.verdict_encode positive, List.drop_length]
  simp [scan]

end Outgoing

theorem Message.ofFrame_header (frame : Frame) :
    (Message.ofFrame frame).version = frame.version ∧ (Message.ofFrame frame).seq = frame.seq ∧
      (Message.ofFrame frame).sysid = frame.sysid ∧ (Message.ofFrame frame).compid = frame.compid ∧
      (Message.ofFrame frame).msgid = frame.msgid ∧
      (Message.ofFrame frame).checksum = frame.checksum ∧
      (Message.ofFrame frame).len = UInt8.ofNat frame.payload.length := by
  simp only [Message.ofFrame, and_self]

namespace Outgoing

/-- A MAVLink frame read back. A scanner between frames, whatever it has counted, fed the wire
bytes of a frame returns exactly that frame: its version, header fields, message number,
payload and checksum. It is between frames again afterwards and has counted one more message.
The message decoded from the frame keeps its version, sequence number, system and component,
message number and checksum, and its length is the payload's. -/
theorem feed_encode (s : Scanner) (between : s.buffer = #[]) (f : Outgoing) :
    s.feed f.encode =
        ({ buffer := #[], stats := { s.stats with messagesReceived := s.stats.messagesReceived + 1 } },
          #[f.frame]) ∧
      ((Message.ofFrame f.frame).version = f.version ∧ (Message.ofFrame f.frame).seq = f.seq ∧
        (Message.ofFrame f.frame).sysid = f.sysid ∧ (Message.ofFrame f.frame).compid = f.compid ∧
        (Message.ofFrame f.frame).msgid = f.msgid ∧
        (Message.ofFrame f.frame).checksum = f.checksum ∧
        (Message.ofFrame f.frame).len.toNat = f.payload.length) := by
  have idle : Stream.Undecided s.buffer.toList := .inl (by rw [between])
  have fed : s.feed f.encode = ((expected s f.encode).1, (expected s f.encode).2.toArray) := by
    rw [Scanner.feed_eq_drain, drain_eq_expected s f.encode #[] idle, Array.empty_append]
  obtain ⟨version, seq, sysid, compid, msgid, checksum, len⟩ := Message.ofFrame_header f.frame
  refine ⟨?_, ⟨version, seq, sysid, compid, msgid, checksum, ?_⟩⟩
  · rw [fed, expected, between, Array.toList_empty, List.nil_append, scan_encode]
    simp only [Prod.mk.injEq, Scanner.mk.injEq, true_and, and_true]
    exact stats_ext (by simp) (by simp) (by simp)
  · rw [len]
    exact f.toNat_lengthByte

/-- The heartbeat of the scanner's tests: version 1, sequence number 0, system 1, component 1,
message 0 with a nine-byte payload. -/
def heartbeat : Outgoing :=
  ⟨.v1 0, 0, 1, 1, [0, 0, 0, 0, 2, 3, 0x51, 4, 3], by decide⟩

example : heartbeat.encode.take 15 = [0xFE, 9, 0, 1, 1, 0, 0, 0, 0, 0, 2, 3, 0x51, 4, 3] := by
  decide

theorem heartbeat_reads_back :
    ({} : Scanner).buffer = #[] ∧
      (({} : Scanner).feed heartbeat.encode =
          ({ buffer := #[], stats := { ({} : Scanner).stats with
              messagesReceived := ({} : Scanner).stats.messagesReceived + 1 } }, #[heartbeat.frame]) ∧
        ((Message.ofFrame heartbeat.frame).version = heartbeat.version ∧
          (Message.ofFrame heartbeat.frame).seq = heartbeat.seq ∧
          (Message.ofFrame heartbeat.frame).sysid = heartbeat.sysid ∧
          (Message.ofFrame heartbeat.frame).compid = heartbeat.compid ∧
          (Message.ofFrame heartbeat.frame).msgid = heartbeat.msgid ∧
          (Message.ofFrame heartbeat.frame).checksum = heartbeat.checksum ∧
          (Message.ofFrame heartbeat.frame).len.toNat = heartbeat.payload.length)) :=
  ⟨rfl, feed_encode {} rfl heartbeat⟩

end Outgoing

end LinkTap.Mavlink
