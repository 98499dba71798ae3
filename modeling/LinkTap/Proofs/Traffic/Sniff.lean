import Mathlib
import LinkTap.Traffic.Sniff
import LinkTap.Proofs.Mavlink.RoundTrip

/-!
# The MAVLink sniffer against the scanner

Content that starts with a frame the scanner accepts is named MAVLink with that frame's message
number; main statement: `sniffContent_of_frame_at_start`.
-/

set_option autoImplicit false

namespace LinkTap.Mavlink.Stream

theorem facts_of_frame {candidate : List UInt8} {frame : Frame} {length : Nat}
    (accepted : verdict candidate = .frame frame length) :
    (candidate.getD 0 0 = 0xFE ∨ candidate.getD 0 0 = 0xFD) ∧
      payloadEnd candidate + 2 ≤ candidate.length ∧ frame = frameAt candidate ∧ 0 < length := by
  unfold verdict at accepted
  dsimp only at accepted
  split_ifs at accepted with notStart flagsBad short crcBad signedShort signed
  all_goals
    obtain ⟨rfl, rfl⟩ := Verdict.frame.inj accepted
    exact ⟨by tauto, by omega, rfl, by omega⟩

theorem first_frame_of_verdict {bytes : List UInt8} {frame : Frame} {length : Nat}
    (accepted : verdict bytes = .frame frame length) :
    (({} : Scanner).feed bytes).2[0]? = some frame := by
  have positive := (facts_of_frame accepted).2.2.2
  rw [Scanner.feed_eq_drain, drain_eq_expected {} bytes #[] (.inl rfl)]
  simp [expected, scan_of_frame accepted positive]

end LinkTap.Mavlink.Stream

namespace LinkTap.Traffic

open LinkTap.Frame LinkTap.Mavlink LinkTap.Mavlink.Stream

section Start

variable {data : List UInt8}

theorem sniffTls_of_start (start : data.getD 0 0 = 0xFE ∨ data.getD 0 0 = 0xFD) :
    sniffTls data = none := by
  rcases data with _ | ⟨first, _ | ⟨high, _ | ⟨low, rest⟩⟩⟩
  · rfl
  · rfl
  · rfl
  · simp only [List.getD_cons_zero] at start
    rcases start with rfl | rfl <;> rfl

theorem sniffOpenVpn_of_start (start : data.getD 0 0 = 0xFE ∨ data.getD 0 0 = 0xFD) :
    sniffOpenVpn data = none := by
  rcases data with _ | ⟨first, rest⟩
  · rfl
  · simp only [List.getD_cons_zero] at start
    rcases start with rfl | rfl <;> rfl

private theorem exists_six_cons (long : 6 ≤ data.length) :
    ∃ b0 b1 b2 b3 b4 b5 rest, data = b0 :: b1 :: b2 :: b3 :: b4 :: b5 :: rest := by
  rcases data with _ | ⟨b0, _ | ⟨b1, _ | ⟨b2, _ | ⟨b3, _ | ⟨b4, _ | ⟨b5, rest⟩⟩⟩⟩⟩⟩ <;>
    simp at long ⊢

private theorem exists_ten_cons (long : 10 ≤ data.length) :
    ∃ b0 b1 b2 b3 b4 b5 b6 b7 b8 b9 rest,
      data = b0 :: b1 :: b2 :: b3 :: b4 :: b5 :: b6 :: b7 :: b8 :: b9 :: rest := by
  obtain ⟨b0, b1, b2, b3, b4, b5, rest, rfl⟩ := exists_six_cons (by omega : 6 ≤ data.length)
  rcases rest with _ | ⟨b6, _ | ⟨b7, _ | ⟨b8, _ | ⟨b9, rest⟩⟩⟩⟩ <;>
    simp at long ⊢

theorem sniffMavlink_of_header (start : data.getD 0 0 = 0xFE ∨ data.getD 0 0 = 0xFD)
    (announced : data.getD 1 0 ≠ 0) (whole : headerLength data ≤ data.length) :
    sniffMavlink data = some (.mavlink (msgidAt data)) := by
  rcases start with v1 | v2
  · have long : 6 ≤ data.length := by
      have six : headerLength data = 6 := by rw [headerLength, v1]; decide
      omega
    obtain ⟨b0, b1, b2, b3, b4, b5, rest, rfl⟩ := exists_six_cons long
    simp only [List.getD_cons_zero, List.getD_cons_succ] at v1 announced
    subst v1
    simp [sniffMavlink, msgidAt, announced]
  · have long : 10 ≤ data.length := by
      have ten : headerLength data = 10 := by rw [headerLength, v2]; decide
      omega
    obtain ⟨b0, b1, b2, b3, b4, b5, b6, b7, b8, b9, rest, rfl⟩ := exists_ten_cons long
    simp only [List.getD_cons_zero, List.getD_cons_succ] at v2 announced
    subst v2
    simp [sniffMavlink, msgidAt, announced, littleEndian_three]

end Start

theorem sniffContent_of_start (p : Packet)
    (start : (content p).getD 0 0 = 0xFE ∨ (content p).getD 0 0 = 0xFD) :
    sniffContent p = sniffMavlink (content p) := by
  unfold sniffContent
  split <;> simp [sniffOpenVpn_of_start start, sniffTls_of_start start]

/-- The MAVLink sniffer agrees with the scanner. When the content of a frame starts with a
MAVLink frame the reading accepts at its first byte, with a length byte other than zero, a
fresh scanner fed the content emits that frame first, and the content is named as MAVLink with
that frame's message number, whatever the command, and shown as `MAV` and the message's name. -/
theorem sniffContent_of_frame_at_start (p : Packet) (frame : Frame) (length : Nat)
    (accepted : verdict (content p) = .frame frame length) (announced : (content p).getD 1 0 ≠ 0) :
    (({} : Scanner).feed (content p)).2[0]? = some frame ∧
      sniffContent p = some (.mavlink frame.msgid) ∧
      (sniffContent p).map Sniff.text = some ("MAV " ++ Dialect.messageName frame.msgid.toNat) := by
  obtain ⟨start, complete, rfl, -⟩ := facts_of_frame accepted
  have whole : headerLength (content p) ≤ (content p).length := by
    have := Nat.le_add_right (headerLength (content p)) ((content p).getD 1 0).toNat
    simp only [payloadEnd] at complete
    omega
  have named : sniffContent p = some (.mavlink (frameAt (content p)).msgid) := by
    rw [sniffContent_of_start p start, sniffMavlink_of_header start announced whole]
    rfl
  refine ⟨first_frame_of_verdict accepted, named, ?_⟩
  rw [named]
  rfl

/-- A heartbeat in packet mode behind 28 bytes of IP and UDP header. -/
def heartbeatInPacket : Packet :=
  ⟨5, 0, List.replicate 28 0x45 ++ Outgoing.heartbeat.encode⟩

theorem content_heartbeatInPacket : content heartbeatInPacket = Outgoing.heartbeat.encode :=
  List.drop_left' (by decide)

theorem heartbeat_in_packet_sniffed :
    verdict (content heartbeatInPacket) =
        .frame Outgoing.heartbeat.frame Outgoing.heartbeat.encode.length ∧
      (content heartbeatInPacket).getD 1 0 ≠ 0 ∧
      ((({} : Scanner).feed (content heartbeatInPacket)).2[0]? = some Outgoing.heartbeat.frame ∧
        sniffContent heartbeatInPacket = some (.mavlink Outgoing.heartbeat.frame.msgid) ∧
        (sniffContent heartbeatInPacket).map Sniff.text =
          some ("MAV " ++ Dialect.messageName Outgoing.heartbeat.frame.msgid.toNat)) := by
  have accepted : verdict (content heartbeatInPacket) =
      .frame Outgoing.heartbeat.frame Outgoing.heartbeat.encode.length := by
    rw [content_heartbeatInPacket]
    exact Outgoing.heartbeat.verdict_encode
  have announced : (content heartbeatInPacket).getD 1 0 ≠ 0 := by
    rw [content_heartbeatInPacket, Outgoing.getD_encode_of_lt _ (by decide), Outgoing.getD_header_one]
    decide
  exact ⟨accepted, announced,
    sniffContent_of_frame_at_start heartbeatInPacket _ _ accepted announced⟩

end LinkTap.Traffic
