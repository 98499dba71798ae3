import Mathlib
import LinkTap.Proofs.Mavlink.RoundTrip
import LinkTap.Proofs.Mavlink.Rescan

/-!
# The scanner's buffer stays consistent

Every reachable scanner holds a buffer that fits the phase of its frame in progress, so the bytes
it reads lie inside it; main statement: `buffer_stays_consistent`.
-/

set_option autoImplicit false

namespace LinkTap.Mavlink.Scanner

open LinkTap.Mavlink.Stream

/-! ### Positions in the buffer -/

theorem getElem?_eq_getD {buffer : Array UInt8} {i : Nat} (inside : i < buffer.size) :
    buffer[i]? = some (buffer.getD i 0) := by
  simp [Array.getD, inside]

theorem six_le_headerLength (buffer : Array UInt8) : 6 ≤ headerLength buffer := by
  simp only [headerLength]
  split <;> omega

theorem headerLength_le_payloadEnd (buffer : Array UInt8) :
    headerLength buffer ≤ payloadEnd buffer := by
  simp only [payloadEnd]
  omega

theorem payloadEnd_le (buffer : Array UInt8) : payloadEnd buffer ≤ 265 := by
  have byte := (buffer.getD 1 0).toNat_lt
  simp only [payloadEnd, headerLength]
  split <;> omega

theorem getD_push_of_lt {buffer : Array UInt8} {i : Nat} (byte : UInt8) (inside : i < buffer.size) :
    (buffer.push byte).getD i 0 = buffer.getD i 0 := by
  simp [Array.getD_eq_getD_getElem?, Array.getElem?_push, Nat.ne_of_lt inside]

theorem isVersion2_push {buffer : Array UInt8} (byte : UInt8) (started : 0 < buffer.size) :
    isVersion2 (buffer.push byte) = isVersion2 buffer := by
  simp only [isVersion2, getD_push_of_lt byte started]

theorem headerLength_push {buffer : Array UInt8} (byte : UInt8) (started : 0 < buffer.size) :
    headerLength (buffer.push byte) = headerLength buffer := by
  simp only [headerLength, isVersion2_push byte started]

theorem payloadEnd_push {buffer : Array UInt8} (byte : UInt8) (announced : 1 < buffer.size) :
    payloadEnd (buffer.push byte) = payloadEnd buffer := by
  simp only [payloadEnd, headerLength_push byte (by omega : 0 < buffer.size), getD_push_of_lt byte announced]

theorem headerLength_eq_ten_iff (buffer : Array UInt8) :
    headerLength buffer = 10 ↔ isVersion2 buffer = true := by
  unfold headerLength
  split <;> simp_all

inductive Phase where
  | idle
  | header (length : Nat)
  | payload
  | checksum
  | signature
deriving DecidableEq, Repr

/-- The phase a buffer is in, by its length: the header until the header length, then the
payload the length byte announces, then two checksum bytes, and the signature after them. -/
def phase (buffer : Array UInt8) : Phase :=
  if buffer.size = 0 then .idle
  else if buffer.size < headerLength buffer then .header (headerLength buffer)
  else if buffer.size < payloadEnd buffer then .payload
  else if buffer.size < payloadEnd buffer + 2 then .checksum
  else .signature

section Phase

variable {buffer : Array UInt8}

theorem phase_eq_idle_iff : phase buffer = .idle ↔ buffer.size = 0 := by
  unfold phase
  split_ifs <;> simp_all

theorem phase_eq_header_iff {length : Nat} :
    phase buffer = .header length ↔
      0 < buffer.size ∧ buffer.size < headerLength buffer ∧ length = headerLength buffer := by
  unfold phase
  split_ifs <;> simp only [false_iff, Phase.header.injEq] <;> omega

theorem phase_eq_payload_iff :
    phase buffer = .payload ↔ headerLength buffer ≤ buffer.size ∧ buffer.size < payloadEnd buffer := by
  have := headerLength_le_payloadEnd buffer
  have := six_le_headerLength buffer
  unfold phase
  split_ifs <;> simp only [false_iff, true_iff] <;> omega

theorem phase_eq_checksum_iff :
    phase buffer = .checksum ↔ payloadEnd buffer ≤ buffer.size ∧ buffer.size < payloadEnd buffer + 2 := by
  have := headerLength_le_payloadEnd buffer
  have := six_le_headerLength buffer
  unfold phase
  split_ifs <;> simp only [false_iff, true_iff] <;> omega

theorem phase_eq_signature_iff : phase buffer = .signature ↔ payloadEnd buffer + 2 ≤ buffer.size := by
  have := headerLength_le_payloadEnd buffer
  have := six_le_headerLength buffer
  unfold phase
  split_ifs <;> simp only [false_iff, true_iff] <;> omega

end Phase

/-- The phase after a byte, as the parser's state moves, from the phase before it, the buffer
with the byte added and the byte itself. A start byte opens a header of its version's length;
a version 2 header flagged with anything but "signed" at its third byte, a wrong checksum and
an emitted frame go back to idle; a complete header goes on to the payload, or to the checksum
when the length byte is zero; a complete payload goes on to the checksum; a right checksum goes
on to the signature of a signed frame, and the signature's last byte back to idle. -/
def Phase.next (grown : Array UInt8) (byte : UInt8) : Phase → Phase
  | .idle => if byte = 0xFE then .header 6 else if byte = 0xFD then .header 10 else .idle
  | .header length =>
    if length = 10 ∧ grown.size = 3 ∧ (byte &&& ~~~signedFlag) ≠ 0 then .idle
    else if grown.size = length then (if grown.getD 1 0 = 0 then .checksum else .payload)
    else .header length
  | .payload => if grown.size = payloadEnd grown then .checksum else .payload
  | .checksum =>
    if grown.size < payloadEnd grown + 2 then .checksum
    else if receivedChecksum grown ≠ frameChecksum (grown.toList.take (payloadEnd grown)) (msgid grown) then
      .idle
    else if isSigned grown then .signature
    else .idle
  | .signature => if grown.size < payloadEnd grown + 2 + signatureLength then .signature else .idle

/-! ### The phase moves as the parser's state -/

theorem buffer_step_of_started (s : Scanner) (byte : UInt8) (started : 0 < s.buffer.size) :
    (s.step byte).1.buffer =
      if (isVersion2 (s.buffer.push byte) && (s.buffer.push byte).size == 3 &&
          byte &&& ~~~signedFlag != 0) = true then #[]
      else if (s.buffer.push byte).size < payloadEnd (s.buffer.push byte) + 2 then s.buffer.push byte
      else if ((s.buffer.push byte).size == payloadEnd (s.buffer.push byte) + 2) = true then
        if (receivedChecksum (s.buffer.push byte) != frameChecksum
            ((s.buffer.push byte).toList.take (payloadEnd (s.buffer.push byte)))
            (msgid (s.buffer.push byte))) = true then #[]
        else if isSigned (s.buffer.push byte) = true then s.buffer.push byte
        else #[]
      else if (s.buffer.push byte).size < payloadEnd (s.buffer.push byte) + 2 + signatureLength then
        s.buffer.push byte
      else #[] := by
  have notEmpty : s.buffer.isEmpty = false := by
    cases empty : s.buffer.isEmpty
    · rfl
    · simp only [Array.isEmpty_iff] at empty
      simp [empty] at started
  unfold step
  simp only [notEmpty, Bool.false_eq_true, ↓reduceIte, refuse, emit]
  split_ifs <;> rfl

theorem phase_empty : phase #[] = .idle := phase_eq_idle_iff.mpr rfl

theorem flags_not_refused {grown : Array UInt8} {byte : UInt8} (other : grown.size ≠ 3) :
    ¬(isVersion2 grown && grown.size == 3 && byte &&& ~~~signedFlag != 0) = true := by
  simp only [Bool.and_eq_true, beq_iff_eq]
  omega

section Step

variable {s : Scanner} {byte : UInt8}

theorem phase_step_of_idle (empty : s.buffer.size = 0) :
    phase (s.step byte).1.buffer = Phase.next (s.buffer.push byte) byte .idle := by
  rw [step_of_idle s byte (by simpa using empty)]
  by_cases v1 : byte = 0xFE
  · subst v1
    simp [Phase.next, phase, headerLength, isVersion2]
  · by_cases v2 : byte = 0xFD
    · subst v2
      simp [Phase.next, phase, headerLength, isVersion2]
    · simp [Phase.next, v1, v2, phase_eq_idle_iff.mpr empty]

theorem phase_step_of_header {length : Nat} (inHeader : phase s.buffer = .header length) :
    phase (s.step byte).1.buffer = Phase.next (s.buffer.push byte) byte (.header length) := by
  obtain ⟨started, short, rfl⟩ := phase_eq_header_iff.mp inHeader
  have grown : (s.buffer.push byte).size = s.buffer.size + 1 := Array.size_push ..
  have sameHeader := headerLength_push byte started
  have lower := headerLength_le_payloadEnd (s.buffer.push byte)
  rw [buffer_step_of_started s byte started]
  simp only [Phase.next]
  by_cases bad : (isVersion2 (s.buffer.push byte) && (s.buffer.push byte).size == 3 &&
      byte &&& ~~~signedFlag != 0) = true
  · -- the flags byte of a version 2 header refuses the candidate on both sides
    simp only [Bool.and_eq_true, beq_iff_eq, bne_iff_ne] at bad
    have version2 : headerLength s.buffer = 10 := by
      rw [← sameHeader, headerLength_eq_ten_iff]
      exact bad.1.1
    rw [if_pos (by simpa using bad), phase_empty, if_pos ⟨version2, bad.1.2, bad.2⟩]
  · have notBad : ¬(headerLength s.buffer = 10 ∧ (s.buffer.push byte).size = 3 ∧
        (byte &&& ~~~signedFlag) ≠ 0) := by
      rintro ⟨version2, three, flagged⟩
      rw [← sameHeader, headerLength_eq_ten_iff] at version2
      simp [version2, three, flagged] at bad
    rw [if_neg bad, if_pos (by omega), if_neg notBad]
    by_cases full : (s.buffer.push byte).size = headerLength s.buffer
    · -- the header is complete: the length byte decides between payload and checksum
      rw [if_pos full]
      by_cases noPayload : (s.buffer.push byte).getD 1 0 = 0
      · rw [if_pos noPayload, phase_eq_checksum_iff]
        simp only [payloadEnd, noPayload, sameHeader, UInt8.toNat_zero]
        omega
      · have positive : 0 < ((s.buffer.push byte).getD 1 0).toNat := by
          rcases Nat.eq_zero_or_pos ((s.buffer.push byte).getD 1 0).toNat with zero | pos
          · exact absurd (UInt8.toNat_inj.mp zero) noPayload
          · exact pos
        rw [if_neg noPayload, phase_eq_payload_iff]
        simp only [payloadEnd, sameHeader]
        omega
    · rw [if_neg full, phase_eq_header_iff]
      omega

theorem phase_step_of_payload (inPayload : phase s.buffer = .payload) :
    phase (s.step byte).1.buffer = Phase.next (s.buffer.push byte) byte .payload := by
  obtain ⟨atLeast, short⟩ := phase_eq_payload_iff.mp inPayload
  have six := six_le_headerLength s.buffer
  have grown : (s.buffer.push byte).size = s.buffer.size + 1 := Array.size_push ..
  have sameEnd := payloadEnd_push byte (by omega : 1 < s.buffer.size)
  rw [buffer_step_of_started s byte (by omega), if_neg (flags_not_refused (by omega)),
    if_pos (by omega)]
  simp only [Phase.next]
  by_cases full : (s.buffer.push byte).size = payloadEnd (s.buffer.push byte)
  · rw [if_pos full, phase_eq_checksum_iff]
    omega
  · have sameHeader := headerLength_push byte (by omega : 0 < s.buffer.size)
    rw [if_neg full, phase_eq_payload_iff]
    omega

theorem phase_step_of_checksum (inChecksum : phase s.buffer = .checksum) :
    phase (s.step byte).1.buffer = Phase.next (s.buffer.push byte) byte .checksum := by
  obtain ⟨atLeast, short⟩ := phase_eq_checksum_iff.mp inChecksum
  have six := six_le_headerLength s.buffer
  have lower := headerLength_le_payloadEnd s.buffer
  have grown : (s.buffer.push byte).size = s.buffer.size + 1 := Array.size_push ..
  have sameEnd := payloadEnd_push byte (by omega : 1 < s.buffer.size)
  rw [buffer_step_of_started s byte (by omega), if_neg (flags_not_refused (by omega))]
  simp only [Phase.next]
  by_cases waiting : (s.buffer.push byte).size < payloadEnd (s.buffer.push byte) + 2
  · rw [if_pos waiting, if_pos waiting, phase_eq_checksum_iff]
    omega
  · -- the last checksum byte: the checksum and the signed flag decide
    have last : ((s.buffer.push byte).size == payloadEnd (s.buffer.push byte) + 2) = true := by
      simp only [beq_iff_eq]
      omega
    rw [if_neg waiting, if_neg waiting, if_pos last]
    by_cases crcBad : receivedChecksum (s.buffer.push byte) ≠ frameChecksum
        ((s.buffer.push byte).toList.take (payloadEnd (s.buffer.push byte)))
        (msgid (s.buffer.push byte))
    · rw [if_pos (by simpa using crcBad), if_pos crcBad, phase_empty]
    · rw [if_neg (by simpa using crcBad), if_neg crcBad]
      by_cases signed : isSigned (s.buffer.push byte) = true
      · rw [if_pos signed, if_pos signed, phase_eq_signature_iff]
        omega
      · rw [if_neg signed, if_neg signed, phase_empty]

theorem phase_step_of_signature (inSignature : phase s.buffer = .signature) :
    phase (s.step byte).1.buffer = Phase.next (s.buffer.push byte) byte .signature := by
  have past := phase_eq_signature_iff.mp inSignature
  have six := six_le_headerLength s.buffer
  have lower := headerLength_le_payloadEnd s.buffer
  have grown : (s.buffer.push byte).size = s.buffer.size + 1 := Array.size_push ..
  have sameEnd := payloadEnd_push byte (by omega : 1 < s.buffer.size)
  have notLast : ¬((s.buffer.push byte).size == payloadEnd (s.buffer.push byte) + 2) = true := by
    simp only [beq_iff_eq]
    omega
  rw [buffer_step_of_started s byte (by omega), if_neg (flags_not_refused (by omega)),
    if_neg (by omega), if_neg notLast]
  simp only [Phase.next]
  by_cases waiting : (s.buffer.push byte).size < payloadEnd (s.buffer.push byte) + 2 + signatureLength
  · rw [if_pos waiting, if_pos waiting, phase_eq_signature_iff]
    omega
  · rw [if_neg waiting, if_neg waiting, phase_empty]

end Step

theorem phase_step (s : Scanner) (byte : UInt8) :
    phase (s.step byte).1.buffer = (phase s.buffer).next (s.buffer.push byte) byte := by
  cases inPhase : phase s.buffer with
  | idle => exact phase_step_of_idle (phase_eq_idle_iff.mp inPhase)
  | header length => exact phase_step_of_header inPhase
  | payload => exact phase_step_of_payload inPhase
  | checksum => exact phase_step_of_checksum inPhase
  | signature => exact phase_step_of_signature inPhase

structure Consistent (buffer : Array UInt8) : Prop where
  idle_iff : phase buffer = .idle ↔ buffer = #[]
  header : ∀ length, phase buffer = .header length →
    (buffer[0]? = some 0xFE ∧ length = 6 ∨ buffer[0]? = some 0xFD ∧ length = 10) ∧
      1 ≤ buffer.size ∧ buffer.size < length
  payload : phase buffer = .payload →
    headerLength buffer ≤ buffer.size ∧ buffer.size < payloadEnd buffer
  checksum : phase buffer = .checksum →
    payloadEnd buffer ≤ buffer.size ∧ buffer.size < payloadEnd buffer + 2
  signature : phase buffer = .signature →
    isVersion2 buffer = true ∧ buffer[2]? = some 0x01 ∧
      payloadEnd buffer + 2 ≤ buffer.size ∧ buffer.size < payloadEnd buffer + 2 + signatureLength
  flags : isVersion2 buffer = true → 3 ≤ buffer.size →
    buffer[2]? = some 0x00 ∨ buffer[2]? = some 0x01

/-- The scanners a fresh one passes through: after every byte it scans, whether the byte came
from the input or back from a refused candidate. -/
inductive Reachable : Scanner → Prop
  | fresh : Reachable {}
  | step {s : Scanner} (byte : UInt8) : Reachable s → Reachable (s.step byte).1

/-! ### Reachable scanners -/

theorem Reachable.of_step {s next : Scanner} {byte : UInt8} {outcome : Outcome}
    (reachable : Reachable s) (stepped : s.step byte = (next, outcome)) : Reachable next := by
  simpa [stepped] using reachable.step byte

theorem Reachable.drain {s : Scanner} (reachable : Reachable s) (queue : List UInt8)
    (out : Array Frame) : Reachable (s.drain queue out).1 := by
  induction s, queue, out using Scanner.drain.induct with
  | case1 s out => rwa [drain_nil]
  | case2 s out byte rest next stepped ih =>
      rw [drain_cons_pending stepped]
      exact ih (reachable.of_step stepped)
  | case3 s out byte rest next frame stepped ih =>
      rw [drain_cons_frame stepped]
      exact ih (reachable.of_step stepped)
  | case4 s out byte rest next rescan stepped ih =>
      rw [drain_cons_rejected stepped]
      exact ih (reachable.of_step stepped)

theorem Reachable.feed {s : Scanner} (reachable : Reachable s) (bytes : List UInt8) :
    Reachable (s.feed bytes).1 := by
  rw [feed_eq_drain]
  exact reachable.drain bytes #[]

theorem undecided_step {s : Scanner} (undecided : Undecided s.buffer.toList) (byte : UInt8) :
    Undecided (s.step byte).1.buffer.toList := by
  rcases stepped : s.step byte with ⟨next, _ | frame | rescan⟩
  · exact (expected_of_pending undecided stepped []).1
  · exact .inl (expected_of_frame undecided stepped []).1
  · exact .inl (expected_of_rejected undecided stepped []).1

theorem Reachable.undecided {s : Scanner} (reachable : Reachable s) : Undecided s.buffer.toList := by
  induction reachable with
  | fresh => exact .inl rfl
  | step byte _ ih => exact undecided_step ih byte

/-! ### Consistency of a held candidate -/

theorem eq_zero_or_one_of_and (b : UInt8) (cleared : (b &&& 0xFE) = 0) : b = 0 ∨ b = 1 := by
  have small := b.toNat_lt
  have bits : b.toNat &&& 254 = 0 := by
    simpa [UInt8.toNat_and] using congrArg UInt8.toNat cleared
  have whole : b.toNat &&& 255 = b.toNat := by
    rw [show (255 : Nat) = 2 ^ 8 - 1 by rfl, Nat.and_two_pow_sub_one_eq_mod]
    omega
  have parts : b.toNat &&& 255 = (b.toNat &&& 1) ||| (b.toNat &&& 254) := by
    rw [show (255 : Nat) = 1 ||| 254 by decide, Nat.and_or_distrib_left]
  rw [bits, Nat.or_zero, whole] at parts
  have atMostOne : b.toNat ≤ 1 := parts ▸ Nat.and_le_right
  rcases Nat.le_one_iff_eq_zero_or_eq_one.mp atMostOne with zero | one
  · exact .inl (UInt8.toNat_inj.mp zero)
  · exact .inr (UInt8.toNat_inj.mp one)

theorem flags_of_hold {buffer : Array UInt8} (live : verdict buffer.toList = .hold)
    (version2 : isVersion2 buffer = true) (long : 3 ≤ buffer.size) :
    buffer[2]? = some 0x00 ∨ buffer[2]? = some 0x01 := by
  have flags := (facts_of_hold live).2.1
  rw [isVersion2_eq, beq_iff_eq] at version2
  have cleared := flags version2 (by simp only [Array.length_toList]; omega)
  rw [getD_toList] at cleared
  rw [getElem?_eq_getD (by omega)]
  rcases eq_zero_or_one_of_and _ cleared with zero | one
  · exact .inl (by rw [zero])
  · exact .inr (by rw [one])

theorem signature_of_hold {buffer : Array UInt8} (live : verdict buffer.toList = .hold)
    (past : payloadEnd buffer + 2 ≤ buffer.size) :
    isVersion2 buffer = true ∧ buffer[2]? = some 0x01 ∧
      buffer.size < payloadEnd buffer + 2 + signatureLength := by
  obtain ⟨-, -, waiting⟩ := facts_of_hold live
  have atLeast := payloadEnd_ge buffer.toList
  rw [← payloadEnd_eq] at atLeast waiting
  obtain ⟨-, signed, short⟩ := waiting.resolve_left (by simpa using Nat.not_lt.mpr past)
  rw [← isSigned_eq, isSigned] at signed
  obtain ⟨version2, flagged⟩ := Bool.and_eq_true_iff.mp signed
  have flags := flags_of_hold live version2 (by omega)
  have low : (buffer.getD 2 0 &&& signedFlag) ≠ 0 := by simpa using flagged
  rw [getElem?_eq_getD (by omega)] at flags ⊢
  refine ⟨version2, ?_, by simpa [signatureLength] using short⟩
  rcases flags with zero | one
  · -- an unflagged byte has no signed bit
    rw [Option.some.inj zero] at low
    exact absurd rfl low
  · exact one

theorem consistent_of_hold {buffer : Array UInt8} (live : verdict buffer.toList = .hold) :
    Consistent buffer := by
  obtain ⟨start, -, -⟩ := facts_of_hold live
  rw [getD_toList] at start
  have started : 0 < buffer.size := by
    rcases Nat.eq_zero_or_pos buffer.size with empty | positive
    · simp [Array.getD, empty] at start
    · exact positive
  have first := getElem?_eq_getD started
  constructor
  · rw [phase_eq_idle_iff, Array.size_eq_zero_iff]
  · intro length inHeader
    obtain ⟨-, short, rfl⟩ := phase_eq_header_iff.mp inHeader
    refine ⟨?_, started, short⟩
    rcases start with v1 | v2
    · exact .inl ⟨by rw [first, v1], by simp [headerLength, isVersion2, v1]⟩
    · exact .inr ⟨by rw [first, v2], by simp [headerLength, isVersion2, v2]⟩
  · exact phase_eq_payload_iff.mp
  · exact phase_eq_checksum_iff.mp
  · intro inSignature
    have past := phase_eq_signature_iff.mp inSignature
    obtain ⟨version2, flagged, signatureShort⟩ := signature_of_hold live past
    exact ⟨version2, flagged, past, signatureShort⟩
  · exact flags_of_hold live

theorem consistent_empty : Consistent #[] where
  idle_iff := by simp [phase]
  header := by simp [phase]
  payload := by simp [phase]
  checksum := by simp [phase]
  signature := by simp [phase]
  flags := by simp [isVersion2]

theorem Reachable.consistent {s : Scanner} (reachable : Reachable s) : Consistent s.buffer := by
  rcases reachable.undecided with idle | live
  · rw [Array.toList_eq_nil_iff.mp idle]
    exact consistent_empty
  · exact consistent_of_hold live

theorem size_lt_of_consistent {buffer : Array UInt8} (consistent : Consistent buffer) :
    buffer.size < payloadEnd buffer + 2 + signatureLength := by
  by_cases past : payloadEnd buffer + 2 ≤ buffer.size
  · exact (consistent.signature (phase_eq_signature_iff.mpr past)).2.2.2
  · simp only [signatureLength]
    omega

/-! ### Reads and emitted frames -/

theorem reads_inside {buffer : Array UInt8} (complete : payloadEnd buffer + 2 ≤ buffer.size) :
    2 < buffer.size ∧ (if isVersion2 buffer then 9 else 5) < buffer.size ∧
      payloadEnd buffer + 1 < buffer.size := by
  have := headerLength_le_payloadEnd buffer
  simp only [headerLength] at this
  split <;> split at this <;> omega

theorem frame_of_step {s next : Scanner} {byte : UInt8} {frame : Frame}
    (stepped : s.step byte = (next, .frame frame)) :
    frame = frameOf (s.buffer.push byte) ∧
      payloadEnd (s.buffer.push byte) + 2 ≤ (s.buffer.push byte).size := by
  unfold step at stepped
  split at stepped
  · split at stepped <;> cases stepped
  · simp only [refuse, emit] at stepped
    split_ifs at stepped with flagsBad short exact crcBad signed longer
    all_goals
      obtain ⟨-, emitted⟩ := Prod.mk.inj stepped
      cases emitted
    · exact ⟨rfl, by simp at exact; omega⟩
    · exact ⟨rfl, by omega⟩

theorem length_payload_frameOf {buffer : Array UInt8} (complete : payloadEnd buffer ≤ buffer.size) :
    (frameOf buffer).payload.length = (buffer.getD 1 0).toNat := by
  simp only [frameOf, Array.length_toList, Array.size_extract]
  simp only [payloadEnd] at complete ⊢
  omega

/-- The scanner's buffer stays consistent. The phase read off the buffer moves after every
byte as the parser's state does. In every scanner reachable from a fresh one, through any
feeds and every step inside them, the buffer fits its phase: between frames exactly when it is
empty; in a header started by the start byte that sets its length (6 for `0xFE`, 10 for
`0xFD`) and not complete; in the payload or the checksum within their bounds; in a signature
only for a signed version 2 frame flagged `0x01`, with at most 12 signature bytes in; and a
version 2 header of three bytes or more has flags `0x00` or `0x01`. Hence the buffer with the
next byte holds at most 280 bytes; when the scanner reads the checksum, the flags, the message
number and both checksum bytes are inside it; every frame emitted has as many payload bytes as
its length byte says, so the message decoded from it reports that length exactly; and a feed
runs its rescan loop to an empty queue and leaves a scanner that is reachable again. -/
theorem buffer_stays_consistent (s : Scanner) (reachable : Reachable s) :
    (∀ byte : UInt8, phase (s.step byte).1.buffer = (phase s.buffer).next (s.buffer.push byte) byte) ∧
      Consistent s.buffer ∧
      (∀ byte : UInt8, (s.buffer.push byte).size ≤ 280) ∧
      (∀ byte : UInt8, payloadEnd (s.buffer.push byte) + 2 ≤ (s.buffer.push byte).size →
        2 < (s.buffer.push byte).size ∧
          (if isVersion2 (s.buffer.push byte) then 9 else 5) < (s.buffer.push byte).size ∧
          payloadEnd (s.buffer.push byte) + 1 < (s.buffer.push byte).size) ∧
      (∀ (byte : UInt8) (next : Scanner) (frame : Frame), s.step byte = (next, .frame frame) →
        frame.payload.length = ((s.buffer.push byte).getD 1 0).toNat ∧
          (Message.ofFrame frame).len.toNat = frame.payload.length) ∧
      (∀ bytes : List UInt8, Reachable (s.feed bytes).1 ∧
        Relation.ReflTransGen Turn (s, bytes, #[]) ((s.feed bytes).1, [], (s.feed bytes).2)) := by
  have consistent := reachable.consistent
  refine ⟨phase_step s, consistent, ?_, fun _ complete => reads_inside complete, ?_, ?_⟩
  · intro byte
    have short := size_lt_of_consistent consistent
    have bounded := payloadEnd_le s.buffer
    rw [Array.size_push]
    simp only [signatureLength] at short
    omega
  · intro byte next frame stepped
    obtain ⟨rfl, complete⟩ := frame_of_step stepped
    have announced := length_payload_frameOf (by omega : payloadEnd (s.buffer.push byte) ≤ _)
    have short := ((s.buffer.push byte).getD 1 0).toNat_lt
    refine ⟨announced, ?_⟩
    rw [(Message.ofFrame_header _).2.2.2.2.2.2, UInt8.toNat_ofNat', Nat.mod_eq_of_lt (by omega)]
  · intro bytes
    refine ⟨reachable.feed bytes, ?_⟩
    rw [feed_eq_drain]
    exact drain_reaches_empty_queue s bytes #[]

/-- The scanner after the start byte of a version 2 frame. -/
theorem v2_start_consistent :
    Reachable (({} : Scanner).step 0xFD).1 ∧
      ((∀ byte : UInt8, phase ((({} : Scanner).step 0xFD).1.step byte).1.buffer =
          (phase (({} : Scanner).step 0xFD).1.buffer).next
            ((({} : Scanner).step 0xFD).1.buffer.push byte) byte) ∧
        Consistent (({} : Scanner).step 0xFD).1.buffer ∧
        (∀ byte : UInt8, ((({} : Scanner).step 0xFD).1.buffer.push byte).size ≤ 280) ∧
        (∀ byte : UInt8, payloadEnd ((({} : Scanner).step 0xFD).1.buffer.push byte) + 2 ≤
            ((({} : Scanner).step 0xFD).1.buffer.push byte).size →
          2 < ((({} : Scanner).step 0xFD).1.buffer.push byte).size ∧
            (if isVersion2 ((({} : Scanner).step 0xFD).1.buffer.push byte) then 9 else 5) <
              ((({} : Scanner).step 0xFD).1.buffer.push byte).size ∧
            payloadEnd ((({} : Scanner).step 0xFD).1.buffer.push byte) + 1 <
              ((({} : Scanner).step 0xFD).1.buffer.push byte).size) ∧
        (∀ (byte : UInt8) (next : Scanner) (frame : Frame),
          (({} : Scanner).step 0xFD).1.step byte = (next, .frame frame) →
            frame.payload.length = (((({} : Scanner).step 0xFD).1.buffer.push byte).getD 1 0).toNat ∧
              (Message.ofFrame frame).len.toNat = frame.payload.length) ∧
        (∀ bytes : List UInt8, Reachable ((({} : Scanner).step 0xFD).1.feed bytes).1 ∧
          Relation.ReflTransGen Turn ((({} : Scanner).step 0xFD).1, bytes, #[])
            (((({} : Scanner).step 0xFD).1.feed bytes).1, [],
              ((({} : Scanner).step 0xFD).1.feed bytes).2))) :=
  ⟨.step 0xFD .fresh, buffer_stays_consistent _ (.step 0xFD .fresh)⟩

end LinkTap.Mavlink.Scanner
