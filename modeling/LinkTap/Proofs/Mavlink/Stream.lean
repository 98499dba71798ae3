import Mathlib
import LinkTap.Mavlink.Message
import LinkTap.Proofs.Mavlink.Drain

/-!
# The scanner against a whole-stream reading

In whatever chunks a stream is fed, a fresh scanner finds what a reading of the whole stream by
position finds; main statement: `feedChunks_eq_scan`.
-/

set_option autoImplicit false

namespace LinkTap.Mavlink.Stream

inductive Verdict where
  | skip
  | badFlags
  | crcError
  | hold
  | frame (frame : Frame) (length : Nat)

/-- Header length by the start byte: ten for version 2, six otherwise. -/
def headerLength (candidate : List UInt8) : Nat :=
  if candidate.getD 0 0 = 0xFD then 10 else 6

/-- Where the payload ends: the header, then as many bytes as the second byte announces. -/
def payloadEnd (candidate : List UInt8) : Nat :=
  headerLength candidate + (candidate.getD 1 0).toNat

/-- The message number: byte 5 of version 1, bytes 7 to 9 little-endian of version 2. -/
def msgidAt (candidate : List UInt8) : UInt32 :=
  if candidate.getD 0 0 = 0xFD then
    UInt32.ofNat (littleEndian [candidate.getD 7 0, candidate.getD 8 0, candidate.getD 9 0])
  else (candidate.getD 5 0).toUInt32

def checksumAt (candidate : List UInt8) : UInt16 :=
  UInt16.ofNat (littleEndian [candidate.getD (payloadEnd candidate) 0,
    candidate.getD (payloadEnd candidate + 1) 0])

/-- A version 2 candidate with the "signed" incompatible flag. -/
def isSigned (candidate : List UInt8) : Bool :=
  candidate.getD 0 0 == 0xFD && (candidate.getD 2 0 &&& 0x01) != 0

def frameAt (candidate : List UInt8) : Frame :=
  let version2 := candidate.getD 0 0 = 0xFD
  let header := if version2 then 4 else 2
  { version := if version2 then .v2 else .v1
    seq := candidate.getD header 0
    sysid := candidate.getD (header + 1) 0
    compid := candidate.getD (header + 2) 0
    msgid := msgidAt candidate
    payload := (candidate.take (payloadEnd candidate)).drop (headerLength candidate)
    checksum := checksumAt candidate }

/-- The verdict on the bytes from a position on, in the order the rules are tried: a start
byte; the flags of version 2; enough bytes for payload and checksum; the checksum; the
signature of a signed frame. -/
def verdict (candidate : List UInt8) : Verdict :=
  let start := candidate.getD 0 0
  let length := payloadEnd candidate + 2
  if start ≠ 0xFE ∧ start ≠ 0xFD then .skip
  else if start = 0xFD ∧ 2 < candidate.length ∧ (candidate.getD 2 0 &&& 0xFE) ≠ 0 then .badFlags
  else if candidate.length < 2 ∨ candidate.length < length then .hold
  else if checksumAt candidate ≠
      frameChecksum (candidate.take (payloadEnd candidate)) (msgidAt candidate) then .crcError
  else if isSigned candidate ∧ candidate.length < length + 13 then .hold
  else .frame (frameAt candidate) (if isSigned candidate then length + 13 else length)

/-- What the reading of a stream finds: its frames, its counts, and the candidate it stops
at. -/
structure Scan where
  frames : List Frame := []
  stats : ScanStats := {}
  held : List UInt8 := []

def scan : List UInt8 → Scan
  | [] => {}
  | start :: rest =>
    match verdict (start :: rest) with
    | .skip => scan rest
    | .badFlags =>
      let after := scan rest
      { after with stats := { after.stats with badFlags := after.stats.badFlags + 1 } }
    | .crcError =>
      let after := scan rest
      { after with stats := { after.stats with crcErrors := after.stats.crcErrors + 1 } }
    | .hold => { held := start :: rest }
    | .frame frame length =>
      let after := scan (rest.drop (length - 1))
      { after with
        frames := frame :: after.frames
        stats := { after.stats with messagesReceived := after.stats.messagesReceived + 1 } }
termination_by bytes => bytes.length
decreasing_by
  all_goals simp only [List.length_cons, List.length_drop]
  all_goals omega

section Scan

variable {candidate : List UInt8}

theorem scan_of_badFlags (h : verdict candidate = .badFlags) :
    scan candidate = { scan (candidate.drop 1) with
      stats := { (scan (candidate.drop 1)).stats with
        badFlags := (scan (candidate.drop 1)).stats.badFlags + 1 } } := by
  cases candidate with
  | nil => simp [verdict] at h
  | cons start rest => rw [scan, h]; rfl

theorem scan_of_crcError (h : verdict candidate = .crcError) :
    scan candidate = { scan (candidate.drop 1) with
      stats := { (scan (candidate.drop 1)).stats with
        crcErrors := (scan (candidate.drop 1)).stats.crcErrors + 1 } } := by
  cases candidate with
  | nil => simp [verdict] at h
  | cons start rest => rw [scan, h]; rfl

theorem scan_of_hold (h : verdict candidate = .hold) : scan candidate = { held := candidate } := by
  cases candidate with
  | nil => simp [verdict] at h
  | cons start rest => rw [scan, h]

theorem scan_of_frame {frame : Frame} {length : Nat} (h : verdict candidate = .frame frame length)
    (positive : 0 < length) :
    scan candidate = { scan (candidate.drop length) with
      frames := frame :: (scan (candidate.drop length)).frames
      stats := { (scan (candidate.drop length)).stats with
        messagesReceived := (scan (candidate.drop length)).stats.messagesReceived + 1 } } := by
  cases candidate with
  | nil => simp [verdict] at h
  | cons start rest =>
      rw [scan, h]
      obtain ⟨shorter, rfl⟩ : ∃ shorter, length = shorter + 1 := ⟨length - 1, by omega⟩
      rfl

end Scan

/-! ### The scanner's reads of its buffer, taken on the list of its bytes -/

section Reads

theorem getD_toList (a : Array UInt8) (i : Nat) : a.toList.getD i 0 = a.getD i 0 := by
  simp [List.getD_eq_getElem?_getD]

theorem littleEndian_two (low high : UInt8) :
    (low.toUInt16 ||| (high.toUInt16 <<< 8)) = UInt16.ofNat (littleEndian [low, high]) := by
  apply UInt16.toNat_inj.mp
  have lowSmall := low.toNat_lt
  have highSmall := high.toNat_lt
  simp only [littleEndian, List.foldr_cons, List.foldr_nil, UInt16.toNat_or,
    UInt16.toNat_shiftLeft, UInt8.toNat_toUInt16, UInt16.toNat_ofNat']
  have shift : (8 : UInt16).toNat % 16 = 8 := rfl
  rw [shift, Nat.lor_comm,
    Nat.mod_eq_of_lt (a := high.toNat <<< 8) (by rw [Nat.shiftLeft_eq]; omega),
    ← Nat.shiftLeft_add_eq_or_of_lt (by omega), Nat.shiftLeft_eq]
  omega

theorem littleEndian_three (b0 b1 b2 : UInt8) :
    (b0.toUInt32 ||| (b1.toUInt32 <<< 8) ||| (b2.toUInt32 <<< 16)) =
      UInt32.ofNat (littleEndian [b0, b1, b2]) := by
  apply UInt32.toNat_inj.mp
  have small0 := b0.toNat_lt
  have small1 := b1.toNat_lt
  have small2 := b2.toNat_lt
  simp only [littleEndian, List.foldr_cons, List.foldr_nil, UInt32.toNat_or,
    UInt32.toNat_shiftLeft, UInt8.toNat_toUInt32, UInt32.toNat_ofNat']
  have shift8 : (8 : UInt32).toNat % 32 = 8 := rfl
  have shift16 : (16 : UInt32).toNat % 32 = 16 := rfl
  rw [shift8, shift16,
    Nat.mod_eq_of_lt (a := b1.toNat <<< 8) (by rw [Nat.shiftLeft_eq]; omega),
    Nat.mod_eq_of_lt (a := b2.toNat <<< 16) (by rw [Nat.shiftLeft_eq]; omega),
    Nat.lor_comm b0.toNat, ← Nat.shiftLeft_add_eq_or_of_lt (by omega), Nat.lor_comm,
    ← Nat.shiftLeft_add_eq_or_of_lt (by rw [Nat.shiftLeft_eq]; omega), Nat.shiftLeft_eq,
    Nat.shiftLeft_eq]
  omega

variable (a : Array UInt8)

theorem isVersion2_eq : Scanner.isVersion2 a = (a.toList.getD 0 0 == 0xFD) := by
  simp only [Scanner.isVersion2, getD_toList]

theorem headerLength_eq : Scanner.headerLength a = headerLength a.toList := by
  simp [Scanner.headerLength, headerLength, isVersion2_eq]

theorem payloadEnd_eq : Scanner.payloadEnd a = payloadEnd a.toList := by
  simp only [Scanner.payloadEnd, payloadEnd, headerLength_eq, getD_toList]

theorem isSigned_eq : Scanner.isSigned a = isSigned a.toList := by
  simp only [Scanner.isSigned, isSigned, isVersion2_eq, getD_toList, Scanner.signedFlag]

theorem msgid_eq : Scanner.msgid a = msgidAt a.toList := by
  simp only [Scanner.msgid, msgidAt, isVersion2_eq, getD_toList, littleEndian_three]
  split <;> simp_all

theorem receivedChecksum_eq : Scanner.receivedChecksum a = checksumAt a.toList := by
  simp only [Scanner.receivedChecksum, checksumAt, payloadEnd_eq, getD_toList, littleEndian_two]

theorem frameOf_eq : Scanner.frameOf a = frameAt a.toList := by
  simp only [Scanner.frameOf, frameAt, isVersion2_eq, getD_toList, msgid_eq, receivedChecksum_eq,
    headerLength_eq, payloadEnd_eq]
  by_cases version2 : a.getD 0 0 = 0xFD <;>
    simp only [beq_iff_eq, version2, ↓reduceIte, Array.toList_extract, List.extract_eq_take_drop,
      List.drop_take]

end Reads

/-! ### Verdicts do not change once taken

More bytes after a candidate change nothing the verdict has read, so a verdict other than
`hold` stays as it is (`verdict_append`). -/

section Extension

variable {candidate : List UInt8} (more : List UInt8)

theorem getD_append_of_lt {i : Nat} (inside : i < candidate.length) :
    (candidate ++ more).getD i 0 = candidate.getD i 0 := by
  simp [List.getD_eq_getElem?_getD, List.getElem?_append_left inside]

theorem headerLength_append (started : 0 < candidate.length) :
    headerLength (candidate ++ more) = headerLength candidate := by
  simp only [headerLength, getD_append_of_lt more started]

theorem payloadEnd_append (announced : 1 < candidate.length) :
    payloadEnd (candidate ++ more) = payloadEnd candidate := by
  simp only [payloadEnd, headerLength_append more (by omega : 0 < candidate.length),
    getD_append_of_lt more announced]

theorem payloadEnd_ge (candidate : List UInt8) : 6 ≤ payloadEnd candidate := by
  unfold payloadEnd headerLength
  split <;> omega

theorem msgidAt_append (complete : payloadEnd candidate + 2 ≤ candidate.length) :
    msgidAt (candidate ++ more) = msgidAt candidate := by
  have atLeast := payloadEnd_ge candidate
  unfold msgidAt
  by_cases version2 : candidate.getD 0 0 = 0xFD
  · have long : 10 ≤ payloadEnd candidate := by
      simp only [payloadEnd, headerLength, version2, ↓reduceIte]; omega
    simp only [getD_append_of_lt more (by omega : 0 < candidate.length), version2, ↓reduceIte,
      getD_append_of_lt more (by omega : 7 < candidate.length),
      getD_append_of_lt more (by omega : 8 < candidate.length),
      getD_append_of_lt more (by omega : 9 < candidate.length)]
  · simp only [getD_append_of_lt more (by omega : 0 < candidate.length), version2, ↓reduceIte,
      getD_append_of_lt more (by omega : 5 < candidate.length)]

theorem checksumAt_append (complete : payloadEnd candidate + 2 ≤ candidate.length) :
    checksumAt (candidate ++ more) = checksumAt candidate := by
  have atLeast := payloadEnd_ge candidate
  simp only [checksumAt, payloadEnd_append more (by omega : 1 < candidate.length),
    getD_append_of_lt more (by omega : payloadEnd candidate < candidate.length),
    getD_append_of_lt more (by omega : payloadEnd candidate + 1 < candidate.length)]

theorem isSigned_append (flagged : 2 < candidate.length) :
    isSigned (candidate ++ more) = isSigned candidate := by
  simp only [isSigned, getD_append_of_lt more (by omega : 0 < candidate.length),
    getD_append_of_lt more flagged]

theorem take_payloadEnd_append (complete : payloadEnd candidate + 2 ≤ candidate.length) :
    (candidate ++ more).take (payloadEnd candidate) = candidate.take (payloadEnd candidate) :=
  List.take_append_of_le_length (by omega)

theorem frameAt_append (complete : payloadEnd candidate + 2 ≤ candidate.length) :
    frameAt (candidate ++ more) = frameAt candidate := by
  have atLeast := payloadEnd_ge candidate
  have start := getD_append_of_lt more (by omega : 0 < candidate.length)
  unfold frameAt
  by_cases version2 : candidate.getD 0 0 = 0xFD
  · have long : 10 ≤ payloadEnd candidate := by
      simp only [payloadEnd, headerLength, version2, ↓reduceIte]; omega
    simp only [start, version2, ↓reduceIte, getD_append_of_lt more (by omega : 4 < candidate.length),
      getD_append_of_lt more (by omega : 4 + 1 < candidate.length),
      getD_append_of_lt more (by omega : 4 + 2 < candidate.length), msgidAt_append more complete,
      checksumAt_append more complete, payloadEnd_append more (by omega : 1 < candidate.length),
      take_payloadEnd_append more complete,
      headerLength_append more (by omega : 0 < candidate.length)]
  · simp only [start, version2, ↓reduceIte, getD_append_of_lt more (by omega : 2 < candidate.length),
      getD_append_of_lt more (by omega : 2 + 1 < candidate.length),
      getD_append_of_lt more (by omega : 2 + 2 < candidate.length), msgidAt_append more complete,
      checksumAt_append more complete, payloadEnd_append more (by omega : 1 < candidate.length),
      take_payloadEnd_append more complete,
      headerLength_append more (by omega : 0 < candidate.length)]

theorem verdict_append (started : candidate ≠ []) (decided : verdict candidate ≠ .hold) :
    verdict (candidate ++ more) = verdict candidate := by
  have nonempty := List.length_pos_of_ne_nil started
  have atLeast := payloadEnd_ge candidate
  by_cases complete : payloadEnd candidate + 2 ≤ candidate.length
  · -- every read is inside the candidate, so only the length conditions can differ
    have flagged : 2 < candidate.length := by omega
    have flagged' : 2 < candidate.length + more.length := by omega
    unfold verdict at decided ⊢
    simp only [getD_append_of_lt more nonempty, getD_append_of_lt more flagged,
      payloadEnd_append more (by omega : 1 < candidate.length), checksumAt_append more complete,
      msgidAt_append more complete, isSigned_append more flagged,
      take_payloadEnd_append more complete, frameAt_append more complete, List.length_append,
      flagged, flagged', true_and] at decided ⊢
    by_cases signed : isSigned candidate = true <;>
      simp only [signed, Bool.false_eq_true, false_and, true_and, ↓reduceIte] at decided ⊢ <;>
      split_ifs at decided ⊢ <;> first | rfl | omega | contradiction
  · -- a candidate too short for its checksum was decided by its start byte or its flags
    unfold verdict at decided ⊢
    simp only [getD_append_of_lt more nonempty] at decided ⊢
    split_ifs at decided with notStart flagsBad
    · rw [if_pos notStart, if_pos notStart]
    · have third := getD_append_of_lt more flagsBad.2.1
      rw [if_neg notStart, if_neg notStart, if_pos flagsBad, if_pos ⟨flagsBad.1,
        by simp only [List.length_append]; omega, third ▸ flagsBad.2.2⟩]
    all_goals first | contradiction | omega

end Extension

/-! ### One byte into the scanner, against the verdict -/

section Step

theorem facts_of_hold {candidate : List UInt8} (held : verdict candidate = .hold) :
    (candidate.getD 0 0 = 0xFE ∨ candidate.getD 0 0 = 0xFD) ∧
    (candidate.getD 0 0 = 0xFD → 2 < candidate.length → (candidate.getD 2 0 &&& 0xFE) = 0) ∧
    (candidate.length < payloadEnd candidate + 2 ∨
      (checksumAt candidate =
          frameChecksum (candidate.take (payloadEnd candidate)) (msgidAt candidate) ∧
        isSigned candidate = true ∧ candidate.length < payloadEnd candidate + 2 + 13)) := by
  have atLeast := payloadEnd_ge candidate
  unfold verdict at held
  dsimp only at held
  split_ifs at held with notStart flagsBad short crcBad signedShort
  · refine ⟨by tauto, fun v2 two => by simpa using (not_and.mp (not_and.mp flagsBad v2) two), ?_⟩
    left; omega
  · refine ⟨by tauto, fun v2 two => by simpa using (not_and.mp (not_and.mp flagsBad v2) two), ?_⟩
    right; exact ⟨by simpa using crcBad, signedShort⟩

theorem step_of_idle (s : Scanner) (byte : UInt8) (idle : s.buffer.toList = []) :
    s.step byte = if byte = 0xFE ∨ byte = 0xFD then ({ s with buffer := #[byte] }, .pending)
      else (s, .pending) := by
  have empty : s.buffer.isEmpty = true := by
    rw [← Array.isEmpty_toList, idle]; rfl
  unfold Scanner.step
  simp only [empty, ↓reduceIte, Bool.or_eq_true, beq_iff_eq]

theorem step_of_started (s : Scanner) (byte : UInt8) (started : s.buffer.toList ≠ []) :
    s.step byte =
      let candidate := s.buffer.toList ++ [byte]
      let stop := payloadEnd candidate
      if candidate.getD 0 0 = 0xFD ∧ candidate.length = 3 ∧ (byte &&& 0xFE) ≠ 0 then
        ({ stats := { s.stats with badFlags := s.stats.badFlags + 1 } }, .rejected (candidate.drop 1))
      else if candidate.length < stop + 2 then ({ s with buffer := s.buffer.push byte }, .pending)
      else if candidate.length = stop + 2 then
        if checksumAt candidate ≠ frameChecksum (candidate.take stop) (msgidAt candidate) then
          ({ stats := { s.stats with crcErrors := s.stats.crcErrors + 1 } },
            .rejected (candidate.drop 1))
        else if isSigned candidate then ({ s with buffer := s.buffer.push byte }, .pending)
        else ({ stats := { s.stats with messagesReceived := s.stats.messagesReceived + 1 } },
          .frame (frameAt candidate))
      else if candidate.length < stop + 2 + 13 then
        ({ s with buffer := s.buffer.push byte }, .pending)
      else ({ stats := { s.stats with messagesReceived := s.stats.messagesReceived + 1 } },
        .frame (frameAt candidate)) := by
  have notEmpty : s.buffer.isEmpty = false := by
    rw [← Array.isEmpty_toList]
    exact List.isEmpty_eq_false_iff.mpr started
  have cleared : (~~~Scanner.signedFlag) = 0xFE := by decide
  unfold Scanner.step
  simp only [notEmpty, Bool.false_eq_true, ↓reduceIte, isVersion2_eq, payloadEnd_eq,
    receivedChecksum_eq, msgid_eq, isSigned_eq, frameOf_eq, Array.toList_push,
    Scanner.refuse, Scanner.emit, Scanner.signatureLength, cleared, Array.size_eq_length_toList,
    Bool.and_eq_true, beq_iff_eq, bne_iff_ne, and_assoc]

theorem verdict_start (byte : UInt8) (start : byte = 0xFE ∨ byte = 0xFD) :
    verdict [byte] = .hold := by
  have notSkip : ¬(byte ≠ 0xFE ∧ byte ≠ 0xFD) := by tauto
  simp [verdict, notSkip]

theorem verdict_other (byte : UInt8) (rest : List UInt8) (other : ¬(byte = 0xFE ∨ byte = 0xFD)) :
    verdict (byte :: rest) = .skip := by
  have skipped : byte ≠ 0xFE ∧ byte ≠ 0xFD := by tauto
  simp [verdict, skipped]

/-- How the scanner must answer one more byte of a candidate, given the verdict on the
candidate with that byte. -/
def Follows (s : Scanner) (byte : UInt8) : Verdict → Prop
  | .skip => False
  | .badFlags => s.step byte =
      ({ stats := { s.stats with badFlags := s.stats.badFlags + 1 } },
        .rejected ((s.buffer.toList ++ [byte]).drop 1))
  | .crcError => s.step byte =
      ({ stats := { s.stats with crcErrors := s.stats.crcErrors + 1 } },
        .rejected ((s.buffer.toList ++ [byte]).drop 1))
  | .hold => s.step byte = ({ s with buffer := s.buffer.push byte }, .pending)
  | .frame frame length => length = s.buffer.size + 1 ∧ s.step byte =
      ({ stats := { s.stats with messagesReceived := s.stats.messagesReceived + 1 } }, .frame frame)

theorem step_follows (s : Scanner) (byte : UInt8) (live : verdict s.buffer.toList = .hold) :
    Follows s byte (verdict (s.buffer.toList ++ [byte])) := by
  obtain ⟨started, flags, waiting⟩ := facts_of_hold live
  have nonempty : 0 < s.buffer.toList.length := by
    rcases Nat.eq_zero_or_pos s.buffer.toList.length with empty | positive
    · simp [List.eq_nil_of_length_eq_zero empty] at started
    · exact positive
  have notNil : s.buffer.toList ≠ [] := List.ne_nil_of_length_pos nonempty
  have first := getD_append_of_lt [byte] nonempty
  have last : (s.buffer.toList ++ [byte]).getD s.buffer.toList.length 0 = byte := by
    simp [List.getD_eq_getElem?_getD]
  have atLeast := payloadEnd_ge (s.buffer.toList ++ [byte])
  have grown : (s.buffer.toList ++ [byte]).length = s.buffer.toList.length + 1 := by simp
  have size : s.buffer.size = s.buffer.toList.length := rfl
  have notSkip : ¬((s.buffer.toList ++ [byte]).getD 0 0 ≠ 0xFE ∧
      (s.buffer.toList ++ [byte]).getD 0 0 ≠ 0xFD) := by
    rw [first]; tauto
  have stepped := step_of_started s byte notNil
  dsimp only at stepped
  unfold verdict
  dsimp only
  rw [if_neg notSkip]
  by_cases short : (s.buffer.toList ++ [byte]).length < payloadEnd (s.buffer.toList ++ [byte]) + 2
  · -- before the checksum is complete: only the flags byte can end the candidate
    by_cases bad : (s.buffer.toList ++ [byte]).getD 0 0 = 0xFD ∧
        (s.buffer.toList ++ [byte]).length = 3 ∧ (byte &&& 0xFE) ≠ 0
    · have two : s.buffer.toList.length = 2 := by omega
      have third : (s.buffer.toList ++ [byte]).getD 2 0 = byte := two ▸ last
      rw [if_pos ⟨bad.1, by omega, by rw [third]; exact bad.2.2⟩]
      rw [if_pos bad] at stepped
      exact stepped
    · have goodFlags : ¬((s.buffer.toList ++ [byte]).getD 0 0 = 0xFD ∧
          2 < (s.buffer.toList ++ [byte]).length ∧
          ((s.buffer.toList ++ [byte]).getD 2 0 &&& 0xFE) ≠ 0) := by
        rintro ⟨version2, long, flagged⟩
        by_cases third : s.buffer.toList.length = 2
        · have atTwo : (s.buffer.toList ++ [byte]).getD 2 0 = byte := third ▸ last
          exact bad ⟨version2, by omega, by rw [atTwo] at flagged; exact flagged⟩
        · rw [getD_append_of_lt [byte] (by omega)] at flagged
          exact flagged (flags (first ▸ version2) (by omega))
      rw [if_neg goodFlags, if_pos (Or.inr short)]
      rw [if_neg bad, if_pos short] at stepped
      exact stepped
  · have long : 3 < s.buffer.toList.length := by omega
    have notBad : ¬((s.buffer.toList ++ [byte]).getD 0 0 = 0xFD ∧
        (s.buffer.toList ++ [byte]).length = 3 ∧ (byte &&& 0xFE) ≠ 0) := by omega
    have goodFlags : ¬((s.buffer.toList ++ [byte]).getD 0 0 = 0xFD ∧
        2 < (s.buffer.toList ++ [byte]).length ∧
        ((s.buffer.toList ++ [byte]).getD 2 0 &&& 0xFE) ≠ 0) := by
      rintro ⟨version2, -, flagged⟩
      rw [getD_append_of_lt [byte] (by omega)] at flagged
      exact flagged (flags (first ▸ version2) (by omega))
    rw [if_neg goodFlags, if_neg (by omega)]
    rw [if_neg notBad, if_neg short] at stepped
    by_cases exact : (s.buffer.toList ++ [byte]).length =
        payloadEnd (s.buffer.toList ++ [byte]) + 2
    · -- the last checksum byte: the checksum decides
      rw [if_pos exact] at stepped
      by_cases crcBad : checksumAt (s.buffer.toList ++ [byte]) ≠ frameChecksum
          ((s.buffer.toList ++ [byte]).take (payloadEnd (s.buffer.toList ++ [byte])))
          (msgidAt (s.buffer.toList ++ [byte]))
      · rw [if_pos crcBad]
        rw [if_pos crcBad] at stepped
        exact stepped
      · rw [if_neg crcBad]
        rw [if_neg crcBad] at stepped
        by_cases signed : isSigned (s.buffer.toList ++ [byte]) = true
        · rw [if_pos ⟨signed, by omega⟩]
          rw [if_pos signed] at stepped
          exact stepped
        · rw [if_neg (fun both => signed both.1), if_neg signed]
          rw [if_neg signed] at stepped
          exact ⟨by omega, stepped⟩
    · -- a signature byte: the old candidate was a signed frame with a good checksum
      have same := payloadEnd_append [byte] (by omega : 1 < s.buffer.toList.length)
      have complete : payloadEnd s.buffer.toList + 2 ≤ s.buffer.toList.length := by omega
      obtain ⟨crcGood, signed, signatureShort⟩ := waiting.resolve_left (by omega)
      rw [if_neg exact] at stepped
      rw [checksumAt_append [byte] complete, msgidAt_append [byte] complete, same,
        take_payloadEnd_append [byte] complete, if_neg (not_not.mpr crcGood),
        isSigned_append [byte] (by omega), frameAt_append [byte] complete, signed]
      rw [same] at stepped
      by_cases waitingMore : s.buffer.toList.length + 1 < payloadEnd s.buffer.toList + 2 + 13
      · rw [if_pos ⟨rfl, by omega⟩]
        rw [if_pos (by omega)] at stepped
        exact stepped
      · rw [if_neg (by omega), if_pos rfl]
        rw [if_neg (by omega), frameAt_append [byte] complete] at stepped
        exact ⟨by omega, stepped⟩

end Step

/-! ### Draining a queue against the reading -/

instance : Add ScanStats where
  add a b := ⟨a.messagesReceived + b.messagesReceived, a.crcErrors + b.crcErrors,
    a.badFlags + b.badFlags⟩

@[simp] theorem messagesReceived_add (a b : ScanStats) :
    (a + b).messagesReceived = a.messagesReceived + b.messagesReceived := rfl

@[simp] theorem crcErrors_add (a b : ScanStats) : (a + b).crcErrors = a.crcErrors + b.crcErrors :=
  rfl

@[simp] theorem badFlags_add (a b : ScanStats) : (a + b).badFlags = a.badFlags + b.badFlags := rfl

theorem stats_ext {a b : ScanStats} (messages : a.messagesReceived = b.messagesReceived)
    (crc : a.crcErrors = b.crcErrors) (flags : a.badFlags = b.badFlags) : a = b := by
  cases a; cases b; simp_all

@[simp] theorem add_empty_stats (a : ScanStats) : a + {} = a := by
  cases a; rfl

@[simp] theorem empty_add_stats (a : ScanStats) : {} + a = a :=
  stats_ext (by simp) (by simp) (by simp)

/-- A scanner buffer the reading would hold: empty, or a candidate that needs more bytes. -/
def Undecided (candidate : List UInt8) : Prop := candidate = [] ∨ verdict candidate = .hold

/-- What draining `queue` into the scanner should leave: the reading of its candidate and the
queue together, the counts added to the scanner's. -/
def expected (s : Scanner) (queue : List UInt8) : Scanner × List Frame :=
  let result := scan (s.buffer.toList ++ queue)
  ({ buffer := result.held.toArray, stats := s.stats + result.stats }, result.frames)

section Outcomes

variable {s next : Scanner} {byte : UInt8}

theorem expected_nil (undecided : Undecided s.buffer.toList) : expected s [] = (s, []) := by
  rcases undecided with idle | live
  · obtain ⟨buffer, stats⟩ := s
    obtain rfl : buffer = #[] := Array.toList_eq_nil_iff.mp idle
    simp [expected, scan]
  · simp [expected, scan_of_hold live]

theorem expected_of_pending (undecided : Undecided s.buffer.toList)
    (stepped : s.step byte = (next, .pending)) (rest : List UInt8) :
    Undecided next.buffer.toList ∧ expected s (byte :: rest) = expected next rest := by
  rcases undecided with idle | live
  · rw [step_of_idle s byte idle] at stepped
    split at stepped
    · rename_i start
      cases stepped
      exact ⟨.inr (verdict_start byte start), by simp [expected, idle]⟩
    · rename_i other
      cases stepped
      refine ⟨.inl idle, ?_⟩
      simp only [expected, idle, List.nil_append]
      rw [scan, verdict_other byte rest other]
  · have follows := step_follows s byte live
    cases decided : verdict (s.buffer.toList ++ [byte]) with
    | hold =>
        rw [decided, Follows, stepped] at follows
        cases follows
        exact ⟨.inr (by simpa using decided), by simp [expected]⟩
    | skip => rw [decided, Follows] at follows; exact follows.elim
    | badFlags => rw [decided, Follows, stepped] at follows; cases follows
    | crcError => rw [decided, Follows, stepped] at follows; cases follows
    | frame frame length => rw [decided, Follows, stepped] at follows; cases follows.2

theorem expected_of_frame {frame : Frame} (undecided : Undecided s.buffer.toList)
    (stepped : s.step byte = (next, .frame frame)) (rest : List UInt8) :
    next.buffer.toList = [] ∧
      expected s (byte :: rest) = ((expected next rest).1, frame :: (expected next rest).2) := by
  rcases undecided with idle | live
  · rw [step_of_idle s byte idle] at stepped
    split at stepped <;> cases stepped
  · have follows := step_follows s byte live
    cases decided : verdict (s.buffer.toList ++ [byte]) with
    | frame found length =>
        rw [decided, Follows, stepped] at follows
        obtain ⟨whole, same⟩ := follows
        cases same
        have started : s.buffer.toList ++ [byte] ≠ [] := by simp
        have extended := verdict_append rest started (by rw [decided]; exact nofun)
        rw [decided] at extended
        have scanned := scan_of_frame extended (by omega)
        have dropped : (s.buffer.toList ++ [byte] ++ rest).drop length = rest := by
          rw [whole]; exact List.drop_left' (by simp)
        rw [dropped] at scanned
        refine ⟨rfl, ?_⟩
        simp only [expected, List.append_assoc, List.cons_append, List.nil_append] at scanned ⊢
        rw [scanned]
        refine Prod.ext ?_ rfl
        simp only [Scanner.mk.injEq, true_and]
        exact stats_ext (by simp; omega) (by simp) (by simp)
    | hold => rw [decided, Follows, stepped] at follows; cases follows
    | skip => rw [decided, Follows] at follows; exact follows.elim
    | badFlags => rw [decided, Follows, stepped] at follows; cases follows
    | crcError => rw [decided, Follows, stepped] at follows; cases follows

theorem expected_of_rejected {rescan : List UInt8} (undecided : Undecided s.buffer.toList)
    (stepped : s.step byte = (next, .rejected rescan)) (rest : List UInt8) :
    next.buffer.toList = [] ∧ expected s (byte :: rest) = expected next (rescan ++ rest) := by
  rcases undecided with idle | live
  · rw [step_of_idle s byte idle] at stepped
    split at stepped <;> cases stepped
  · have follows := step_follows s byte live
    have started : s.buffer.toList ++ [byte] ≠ [] := by simp
    have tail : (s.buffer.toList ++ [byte] ++ rest).drop 1 =
        (s.buffer.toList ++ [byte]).drop 1 ++ rest :=
      List.drop_append_of_le_length (by simp)
    cases decided : verdict (s.buffer.toList ++ [byte]) with
    | badFlags =>
        rw [decided, Follows, stepped] at follows
        cases follows
        have extended := verdict_append rest started (by rw [decided]; exact nofun)
        rw [decided] at extended
        have scanned := scan_of_badFlags extended
        rw [tail] at scanned
        refine ⟨rfl, ?_⟩
        simp only [expected, List.append_assoc, List.cons_append, List.nil_append] at scanned ⊢
        rw [scanned]
        simp only [Prod.mk.injEq, Scanner.mk.injEq, and_true, true_and]
        exact stats_ext (by simp) (by simp) (by simp; omega)
    | crcError =>
        rw [decided, Follows, stepped] at follows
        cases follows
        have extended := verdict_append rest started (by rw [decided]; exact nofun)
        rw [decided] at extended
        have scanned := scan_of_crcError extended
        rw [tail] at scanned
        refine ⟨rfl, ?_⟩
        simp only [expected, List.append_assoc, List.cons_append, List.nil_append] at scanned ⊢
        rw [scanned]
        simp only [Prod.mk.injEq, Scanner.mk.injEq, and_true, true_and]
        exact stats_ext (by simp) (by simp; omega) (by simp)
    | hold => rw [decided, Follows, stepped] at follows; cases follows
    | skip => rw [decided, Follows] at follows; exact follows.elim
    | frame frame length => rw [decided, Follows, stepped] at follows; cases follows.2

end Outcomes

theorem drain_eq_expected (s : Scanner) (queue : List UInt8) (out : Array Frame)
    (undecided : Undecided s.buffer.toList) :
    s.drain queue out = ((expected s queue).1, out ++ (expected s queue).2.toArray) := by
  induction s, queue, out using Scanner.drain.induct with
  | case1 s out =>
      rw [Scanner.drain_nil, expected_nil undecided]
      simp
  | case2 s out byte rest next stepped ih =>
      obtain ⟨nextUndecided, same⟩ := expected_of_pending undecided stepped rest
      rw [Scanner.drain_cons_pending stepped, ih nextUndecided, same]
  | case3 s out byte rest next frame stepped ih =>
      obtain ⟨empty, same⟩ := expected_of_frame undecided stepped rest
      rw [Scanner.drain_cons_frame stepped, ih (.inl empty), same]
      simp
  | case4 s out byte rest next rescan stepped ih =>
      obtain ⟨empty, same⟩ := expected_of_rejected undecided stepped rest
      rw [Scanner.drain_cons_rejected stepped, ih (.inl empty), same]

/-- However a stream is cut into chunks, feeding them in turn to a fresh scanner returns the
frames of the whole-stream reading, in order, and leaves its counts and its held candidate. -/
theorem feedChunks_eq_scan (chunks : List (List UInt8)) :
    (({} : Scanner).feedChunks chunks).2 = (scan chunks.flatten).frames ∧
      (({} : Scanner).feedChunks chunks).1.stats = (scan chunks.flatten).stats ∧
      (({} : Scanner).feedChunks chunks).1.buffer.toList = (scan chunks.flatten).held := by
  rw [Scanner.feedChunks_eq_feed, Scanner.feed_eq_drain, drain_eq_expected _ _ _ (.inl rfl)]
  simp [expected]

end LinkTap.Mavlink.Stream
