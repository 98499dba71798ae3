import Mathlib
import LinkTap.Frame.Codec
import LinkTap.Telemetry.Event
import LinkTap.Proofs.Frame.Split

/-!
# Writing and reading single frames

`Packet.toBytes`, the encoder and a frame's telemetry event write the same bytes, and
`Packet.ofBytes` reads them back; main statement: `frame_encodings_invert`.
-/

set_option autoImplicit false

namespace LinkTap.Frame

theorem lengthBytes_eq (length : Nat) (fits : length ≤ maxPayloadLen) :
    lengthBytes length = [(UInt16.ofNat length >>> 8).toUInt8, (UInt16.ofNat length).toUInt8] := by
  unfold maxPayloadLen at fits
  have sameLen : (UInt16.ofNat length).toNat = length := by
    rw [UInt16.toNat_ofNat']
    omega
  have shift : (8 : UInt16).toNat % 16 = 8 := rfl
  have high : UInt8.ofNat (length / 256) = (UInt16.ofNat length >>> 8).toUInt8 := by
    apply UInt8.toNat_inj.mp
    simp only [UInt8.toNat_ofNat', UInt16.toNat_toUInt8, UInt16.toNat_shiftRight, sameLen, shift,
      Nat.shiftRight_eq_div_pow, Nat.reducePow]
  have low : UInt8.ofNat length = (UInt16.ofNat length).toUInt8 := by
    apply UInt8.toNat_inj.mp
    simp only [UInt8.toNat_ofNat', UInt16.toNat_toUInt8, sameLen]
  rw [lengthBytes, high, low]

theorem announced_le (bytes : List UInt8) : announced bytes ≤ maxPayloadLen := by
  have := (bytes.getD 2 0).toNat_lt
  have := (bytes.getD 3 0).toNat_lt
  unfold announced maxPayloadLen
  omega

theorem header_append_drop {bytes : List UInt8} (long : headerLen ≤ bytes.length) :
    [bytes.getD 0 0, bytes.getD 1 0, bytes.getD 2 0, bytes.getD 3 0] ++ bytes.drop headerLen = bytes := by
  unfold headerLen at long ⊢
  rcases bytes with _ | ⟨_, _ | ⟨_, _ | ⟨_, _ | ⟨_, more⟩⟩⟩⟩
  all_goals simp_all

namespace Packet

theorem toBytes_of_tooLong (p : Packet) (tooLong : maxPayloadLen < p.payload.length) :
    p.toBytes = .error (.badLength p.payload.length maxPayloadLen) := by
  unfold toBytes
  rw [if_neg (Nat.not_le.mpr tooLong)]

theorem encode_eq (p : Packet) (out : List UInt8) :
    p.encode out = (p.toBytes.map fun _ => (), out ++ p.toBytes.toOption.getD []) := by
  unfold encode toBytes
  split
  · rename_i fits
    rw [lengthBytes_eq _ fits]
    rfl
  · simp [Except.map, Except.toOption]

theorem encodeAll_eq (packets : List Packet) (out : List UInt8) :
    encodeAll packets out =
      (packets.map fun p => p.toBytes.map fun _ => (),
        out ++ (packets.filterMap fun p => p.toBytes.toOption).flatten) := by
  induction packets generalizing out with
  | nil => simp [encodeAll]
  | cons p rest ih =>
      simp only [encodeAll, encode_eq, ih, List.map_cons, List.filterMap_cons, Prod.mk.injEq, true_and]
      cases p.toBytes with
      | ok bytes => simp [Except.toOption]
      | error e => simp [Except.toOption]

theorem ofBytes_eq (bytes : List UInt8) :
    ofBytes bytes =
      if bytes.length < headerLen then .error (.incomplete headerLen bytes.length)
      else if bytes.length - headerLen = announced bytes then
        .ok ⟨bytes.getD 0 0, bytes.getD 1 0, bytes.drop headerLen⟩
      else .error (.badLength (bytes.length - headerLen) (announced bytes)) := by
  unfold headerLen
  rcases bytes with _ | ⟨cmd, _ | ⟨seq, _ | ⟨high, _ | ⟨low, payload⟩⟩⟩⟩
  all_goals simp [ofBytes, announced, headerLen]

theorem toBytes_of_ofBytes {bytes : List UInt8} {p : Packet} (read : ofBytes bytes = .ok p) :
    p.toBytes = .ok bytes := by
  rw [ofBytes_eq] at read
  split_ifs at read with short matching
  cases read
  have header : header ⟨bytes.getD 0 0, bytes.getD 1 0, bytes.drop headerLen⟩ =
      Header.ofBytes (bytes.getD 0 0) (bytes.getD 1 0) (bytes.getD 2 0) (bytes.getD 3 0) := by
    simp only [header, Header.ofBytes, List.length_drop, matching, announced]
  apply (toBytes_eq_ok_iff _ _).mpr
  refine ⟨?_, ?_⟩
  · rw [List.length_drop, matching]
    exact announced_le bytes
  · rw [header, Header.toBytes_ofBytes]
    exact (header_append_drop (Nat.not_lt.mp short)).symm

theorem ofBytes_eq_incomplete_iff (bytes : List UInt8) :
    ofBytes bytes = .error (.incomplete headerLen bytes.length) ↔ bytes.length < headerLen := by
  rw [ofBytes_eq]
  split_ifs with short matching <;> simp [short]

theorem ofBytes_eq_badLength_iff (bytes : List UInt8) :
    ofBytes bytes = .error (.badLength (bytes.length - headerLen) (announced bytes)) ↔
      headerLen ≤ bytes.length ∧ bytes.length - headerLen ≠ announced bytes := by
  rw [ofBytes_eq]
  split_ifs with short matching
  · simp only [Except.error.injEq, reduceCtorEq, false_iff, not_and, not_not]
    omega
  · simp [matching]
  · simp only [true_iff]
    exact ⟨Nat.not_lt.mp short, matching⟩

end Packet

namespace Command

theorem kind_eq_state_iff (c : Command) : c.kind = .state ↔ c = .state := by
  cases c with
  | traffic direction encrypted packetMode => cases encrypted <;> simp [kind]
  | ping => simp [kind]
  | state => simp [kind]
  | reserved code isReserved => simp [kind]

theorem kind_ofByte_eq_state_iff (b : UInt8) : (ofByte b).kind = .state ↔ b = 16 := by
  rw [kind_eq_state_iff]
  constructor
  · intro isState
    rw [← toByte_ofByte b, isState]
    rfl
  · rintro rfl
    rfl

end Command

theorem frameData_of_not_state (p : Packet) (notState : p.cmd ≠ 16) :
    Telemetry.Event.frameData p = .arr ((p.header.toBytes ++ p.payload).map fun b => .str (Hex.ofByte b)) := by
  unfold Telemetry.Event.frameData
  rw [if_neg (mt (Command.kind_ofByte_eq_state_iff p.cmd).mp notState)]
  simp [Hex.ofBytes, Hex.ofByte]

/-- The ways the library writes a frame agree, and reading undoes them. For a payload a header
can announce, `toBytes`, the bytes the encoder appends to any buffer, and the header's bytes then
the payload, which a frame's event lists in hex unless the frame is a state report, are one byte
string, and reading it gives the frame back. Bytes a frame is read from are the bytes it writes.
Reading fails with an incomplete frame exactly on fewer than four bytes, and with a bad length
exactly when the bytes after the header are not as many as it announces. A longer payload is
refused by `toBytes` and by the encoder alike, and the encoder then leaves its buffer as it was,
so a run of encodes writes exactly the frames that can be written, in order. -/
theorem frame_encodings_invert :
    (∀ p : Packet, p.payload.length ≤ maxPayloadLen →
      p.toBytes = .ok (p.header.toBytes ++ p.payload) ∧
      (∀ out : List UInt8, p.encode out = (.ok (), out ++ (p.header.toBytes ++ p.payload))) ∧
      (p.cmd ≠ 16 → Telemetry.Event.frameData p =
        .arr ((p.header.toBytes ++ p.payload).map fun b => .str (Hex.ofByte b))) ∧
      Packet.ofBytes (p.header.toBytes ++ p.payload) = .ok p) ∧
    (∀ (bytes : List UInt8) (p : Packet), Packet.ofBytes bytes = .ok p → p.toBytes = .ok bytes) ∧
    (∀ bytes : List UInt8,
      (Packet.ofBytes bytes = .error (.incomplete headerLen bytes.length) ↔ bytes.length < headerLen) ∧
      (Packet.ofBytes bytes = .error (.badLength (bytes.length - headerLen) (announced bytes)) ↔
        headerLen ≤ bytes.length ∧ bytes.length - headerLen ≠ announced bytes)) ∧
    (∀ p : Packet, maxPayloadLen < p.payload.length →
      p.toBytes = .error (.badLength p.payload.length maxPayloadLen) ∧
      ∀ out : List UInt8, p.encode out = (.error (.badLength p.payload.length maxPayloadLen), out)) ∧
    (∀ (packets : List Packet) (out : List UInt8),
      Packet.encodeAll packets out =
        (packets.map fun p => p.toBytes.map fun _ => (),
          out ++ (packets.filterMap fun p => p.toBytes.toOption).flatten)) := by
  refine ⟨fun p fits => ?_, fun bytes p read => Packet.toBytes_of_ofBytes read,
    fun bytes => ⟨Packet.ofBytes_eq_incomplete_iff bytes, Packet.ofBytes_eq_badLength_iff bytes⟩,
    fun p tooLong => ?_, Packet.encodeAll_eq⟩
  · have written : p.toBytes = .ok (p.header.toBytes ++ p.payload) := Packet.toBytes_eq_wireBytes p fits
    refine ⟨written, fun out => ?_, frameData_of_not_state p, Packet.ofBytes_toBytes p _ written⟩
    rw [Packet.encode_eq, written]
    rfl
  · have refused := Packet.toBytes_of_tooLong p tooLong
    refine ⟨refused, fun out => ?_⟩
    rw [Packet.encode_eq, refused]
    simp [Except.map, Except.toOption]

end LinkTap.Frame
