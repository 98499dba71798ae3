import Mathlib
import LinkTap.Frame.Socket

/-!
# Cutting a byte stream into frames

`split` takes whole frames off the front until a proper beginning of one is left, and it is the
only such cut (`split_eq_iff`).
-/

set_option autoImplicit false

namespace LinkTap.Frame

namespace Header

theorem length_bytes_toNat (length : UInt16) :
    (length >>> 8).toUInt8.toNat * 256 + length.toUInt8.toNat = length.toNat := by
  have shift : (8 : UInt16).toNat % 16 = 8 := rfl
  have small := length.toNat_lt
  simp only [UInt16.toNat_toUInt8, UInt16.toNat_shiftRight, shift, Nat.shiftRight_eq_div_pow]
  omega

theorem payloadLen_ofBytes (cmd seq high low : UInt8) :
    (ofBytes cmd seq high low).payloadLen.toNat = high.toNat * 256 + low.toNat := by
  have := high.toNat_lt
  have := low.toNat_lt
  simp only [ofBytes, UInt16.toNat_ofNat', Nat.reducePow]
  omega

@[simp]
theorem ofBytes_toBytes (h : Header) :
    ofBytes h.cmd h.seq (h.payloadLen >>> 8).toUInt8 h.payloadLen.toUInt8 = h := by
  simp only [ofBytes, length_bytes_toNat, UInt16.ofNat_toNat]

@[simp]
theorem toBytes_ofBytes (cmd seq high low : UInt8) :
    (ofBytes cmd seq high low).toBytes = [cmd, seq, high, low] := by
  have highByte : ((ofBytes cmd seq high low).payloadLen >>> 8).toUInt8 = high := by
    apply UInt8.toNat_inj.mp
    have shift : (8 : UInt16).toNat % 16 = 8 := rfl
    simp only [UInt16.toNat_toUInt8, UInt16.toNat_shiftRight, shift, Nat.shiftRight_eq_div_pow,
      payloadLen_ofBytes]
    have := high.toNat_lt
    have := low.toNat_lt
    omega
  have lowByte : (ofBytes cmd seq high low).payloadLen.toUInt8 = low := by
    apply UInt8.toNat_inj.mp
    simp only [UInt16.toNat_toUInt8, payloadLen_ofBytes]
    have := low.toNat_lt
    omega
  simp only [toBytes, highByte, lowByte]
  rfl

end Header

namespace Packet

def wireBytes (p : Packet) : List UInt8 := p.header.toBytes ++ p.payload

theorem toBytes_eq_wireBytes (p : Packet) (fits : p.payload.length ≤ maxPayloadLen) :
    p.toBytes = .ok p.wireBytes :=
  (toBytes_eq_ok_iff p _).mpr ⟨fits, rfl⟩

end Packet

/-! ## The greedy split -/

def announced (bytes : List UInt8) : Nat := (bytes.getD 2 0).toNat * 256 + (bytes.getD 3 0).toNat

/-- A proper beginning of a frame: part of a header, or a header announcing more payload than
follows. -/
def IsPartialFrame (bytes : List UInt8) : Prop :=
  bytes.length < headerLen ∨ bytes.length < headerLen + announced bytes

/-- The frame at the front of a stream and the bytes after it, if the stream holds all of it. -/
def frontFrame : List UInt8 → Option (Packet × List UInt8)
  | cmd :: seq :: high :: low :: rest =>
    let length := high.toNat * 256 + low.toNat
    if length ≤ rest.length then some (⟨cmd, seq, rest.take length⟩, rest.drop length) else none
  | _ => none

theorem length_of_frontFrame {bytes rest : List UInt8} {p : Packet}
    (found : frontFrame bytes = some (p, rest)) : rest.length < bytes.length := by
  match bytes, found with
  | cmd :: seq :: high :: low :: more, found =>
      simp only [frontFrame] at found
      split at found
      · cases found
        simp only [List.length_drop, List.length_cons]
        omega
      · cases found

/-- The greedy split of a stream: its complete frames from the front, in order, and the rest. -/
def split (bytes : List UInt8) : List Packet × List UInt8 :=
  match found : frontFrame bytes with
  | some (p, rest) =>
    have : rest.length < bytes.length := length_of_frontFrame found
    ((p :: (split rest).1), (split rest).2)
  | none => ([], bytes)
termination_by bytes.length

theorem split_of_none {bytes : List UInt8} (noFrame : frontFrame bytes = none) :
    split bytes = ([], bytes) := by
  rw [split]; split <;> simp_all

theorem split_of_some {bytes rest : List UInt8} {p : Packet}
    (found : frontFrame bytes = some (p, rest)) :
    split bytes = (p :: (split rest).1, (split rest).2) := by
  rw [split]; split <;> simp_all

theorem frontFrame_append {bytes rest : List UInt8} {p : Packet} (more : List UInt8)
    (found : frontFrame bytes = some (p, rest)) : frontFrame (bytes ++ more) = some (p, rest ++ more) := by
  match bytes, found with
  | cmd :: seq :: high :: low :: tail, found =>
      simp only [frontFrame] at found
      split at found
      · rename_i fits
        cases found
        simp only [List.cons_append, frontFrame, List.length_append]
        rw [if_pos (by omega), List.take_append_of_le_length fits,
          List.drop_append_of_le_length fits]
      · cases found

theorem frontFrame_eq_none_iff (bytes : List UInt8) : frontFrame bytes = none ↔ IsPartialFrame bytes := by
  unfold IsPartialFrame headerLen
  rcases bytes with _ | ⟨cmd, _ | ⟨seq, _ | ⟨high, _ | ⟨low, rest⟩⟩⟩⟩
  all_goals simp [frontFrame, announced]
  omega

theorem frontFrame_wireBytes (p : Packet) (fits : p.payload.length ≤ maxPayloadLen)
    (rest : List UInt8) : frontFrame (p.wireBytes ++ rest) = some (p, rest) := by
  simp only [Packet.wireBytes, Packet.header, Header.toBytes, List.cons_append, List.nil_append,
    frontFrame, Packet.length_bytes_roundTrip _ fits, List.length_append]
  rw [if_pos (by omega), List.take_left' rfl, List.drop_left' rfl]

theorem eq_wireBytes_of_frontFrame {bytes rest : List UInt8} {p : Packet}
    (found : frontFrame bytes = some (p, rest)) :
    bytes = p.wireBytes ++ rest ∧ p.payload.length ≤ maxPayloadLen := by
  match bytes, found with
  | cmd :: seq :: high :: low :: tail, found =>
      simp only [frontFrame] at found
      split at found
      · rename_i fits
        cases found
        have announcedSmall : high.toNat * 256 + low.toNat ≤ maxPayloadLen := by
          have := high.toNat_lt
          have := low.toNat_lt
          unfold maxPayloadLen
          omega
        have header : (Packet.header ⟨cmd, seq, tail.take (high.toNat * 256 + low.toNat)⟩) =
            Header.ofBytes cmd seq high low := by
          simp only [Packet.header, List.length_take, Nat.min_eq_left fits, Header.ofBytes]
        refine ⟨?_, by rw [List.length_take]; omega⟩
        simp only [Packet.wireBytes, header, Header.toBytes_ofBytes, List.cons_append,
          List.nil_append, List.take_append_drop]
      · cases found

theorem split_append (first second : List UInt8) :
    split (first ++ second) =
      ((split first).1 ++ (split ((split first).2 ++ second)).1,
        (split ((split first).2 ++ second)).2) := by
  induction first using split.induct with
  | case1 bytes p rest found _ ih =>
      rw [split_of_some found, split_of_some (frontFrame_append second found), ih]
      simp
  | case2 bytes noFrame =>
      rw [split_of_none noFrame]
      simp

/-! ## The cut is unique -/

/-- A stream is `packets`, each with a payload a header can announce, then `rest`, a proper
beginning of a frame. -/
def Splits (bytes : List UInt8) (packets : List Packet) (rest : List UInt8) : Prop :=
  bytes = packets.flatMap Packet.wireBytes ++ rest ∧
    (∀ p ∈ packets, p.payload.length ≤ maxPayloadLen) ∧ IsPartialFrame rest

theorem splits_of_split (bytes : List UInt8) :
    Splits bytes (split bytes).1 (split bytes).2 := by
  induction bytes using split.induct with
  | case1 bytes p rest found _ ih =>
      obtain ⟨joined, fits⟩ := eq_wireBytes_of_frontFrame found
      obtain ⟨restJoined, restFit, unfinished⟩ := ih
      rw [split_of_some found]
      refine ⟨?_, ?_, unfinished⟩
      · rw [joined, List.flatMap_cons, List.append_assoc, ← restJoined]
      · intro q member
        rcases List.mem_cons.mp member with same | later
        · exact same ▸ fits
        · exact restFit q later
  | case2 bytes noFrame =>
      rw [split_of_none noFrame]
      exact ⟨by simp, by simp, (frontFrame_eq_none_iff bytes).mp noFrame⟩

theorem split_of_splits {bytes : List UInt8} {packets : List Packet} {rest : List UInt8}
    (splits : Splits bytes packets rest) : split bytes = (packets, rest) := by
  obtain ⟨joined, fit, unfinished⟩ := splits
  subst joined
  induction packets with
  | nil =>
      simpa using split_of_none ((frontFrame_eq_none_iff rest).mpr unfinished)
  | cons p more ih =>
      have fits := fit p (List.mem_cons_self)
      rw [List.flatMap_cons, List.append_assoc,
        split_of_some (frontFrame_wireBytes p fits _),
        ih (fun q member => fit q (List.mem_cons_of_mem p member))]

theorem split_eq_iff (bytes : List UInt8) (packets : List Packet) (rest : List UInt8) :
    split bytes = (packets, rest) ↔ Splits bytes packets rest := by
  constructor
  · intro result
    have splits := splits_of_split bytes
    rw [result] at splits
    exact splits
  · exact split_of_splits


/-! ## Frames are split off as soon as their last byte is there -/

theorem length_flatMap_take_le (packets : List Packet) (k : Nat) :
    ((packets.take k).flatMap Packet.wireBytes).length ≤ (packets.flatMap Packet.wireBytes).length := by
  have whole := congrArg (fun l => (l.flatMap Packet.wireBytes).length) (List.take_append_drop k packets)
  simp only [List.flatMap_append, List.length_append] at whole
  omega

theorem not_wireBytes_prefix {rest : List UInt8} (unfinished : IsPartialFrame rest) (p : Packet)
    (fits : p.payload.length ≤ maxPayloadLen) : ¬ p.wireBytes <+: rest := by
  rintro ⟨after, joined⟩
  have found := frontFrame_wireBytes p fits after
  rw [joined, (frontFrame_eq_none_iff rest).mpr unfinished] at found
  cases found

theorem le_length_split_iff (pre post : List UInt8) (k : Nat)
    (within : k ≤ (split (pre ++ post)).1.length) :
    k ≤ (split pre).1.length ↔
      (((split (pre ++ post)).1.take k).flatMap Packet.wireBytes).length ≤ pre.length := by
  obtain ⟨joined, fit, unfinished⟩ := splits_of_split pre
  have total : pre.length = ((split pre).1.flatMap Packet.wireBytes).length + (split pre).2.length := by
    simpa using congrArg List.length joined
  rw [split_append] at within ⊢
  constructor
  · intro early
    rw [List.take_append_of_le_length early]
    have := length_flatMap_take_le (split pre).1 k
    omega
  · intro inside
    by_contra late
    obtain ⟨laterJoined, laterFit, -⟩ := splits_of_split ((split pre).2 ++ post)
    generalize later : (split ((split pre).2 ++ post)).1 = following at within inside laterJoined laterFit
    cases following with
    | nil => simp at within; omega
    | cons q more =>
        have first : q.wireBytes <+: (split pre).2 := by
          have short : q.wireBytes.length ≤ (split pre).2.length := by
            rw [List.take_append, List.take_of_length_le (by omega), List.flatMap_append,
              List.length_append, show k - (split pre).1.length = (k - (split pre).1.length - 1) + 1 by omega,
              List.take_succ_cons, List.flatMap_cons, List.length_append] at inside
            omega
          have front : ((split pre).2 ++ post).take q.wireBytes.length = q.wireBytes := by
            rw [laterJoined, List.flatMap_cons, List.append_assoc, List.take_left' rfl]
          rw [List.take_append_of_le_length short] at front
          exact ⟨_, (front ▸ List.take_append_drop q.wireBytes.length (split pre).2)⟩
        exact not_wireBytes_prefix unfinished q (laterFit q List.mem_cons_self) first

/-! ## Proper beginnings of frames -/

theorem announced_wireBytes (p : Packet) (fits : p.payload.length ≤ maxPayloadLen) :
    announced p.wireBytes = p.payload.length := by
  simp only [announced, Packet.wireBytes, Packet.header, Header.toBytes, List.cons_append,
    List.getD_cons_succ, List.getD_cons_zero, Packet.length_bytes_roundTrip _ fits]

theorem prefix_header_drop (rest after : List UInt8) :
    rest <+: [rest.getD 0 0, rest.getD 1 0, rest.getD 2 0, rest.getD 3 0] ++
      (rest.drop headerLen ++ after) := by
  rcases rest with _ | ⟨_, _ | ⟨_, _ | ⟨_, _ | ⟨_, more⟩⟩⟩⟩ <;> simp [headerLen]

theorem isPartialFrame_iff (rest : List UInt8) :
    IsPartialFrame rest ↔
      ∃ p : Packet, p.payload.length ≤ maxPayloadLen ∧ rest <+: p.wireBytes ∧
        rest.length < p.wireBytes.length := by
  constructor
  · intro unfinished
    have small : announced rest ≤ maxPayloadLen := by
      have := (rest.getD 2 0).toNat_lt
      have := (rest.getD 3 0).toNat_lt
      unfold announced maxPayloadLen
      omega
    have room : rest.length - headerLen ≤ announced rest := by
      unfold IsPartialFrame at unfinished
      omega
    let payload := rest.drop headerLen ++ List.replicate (announced rest - (rest.length - headerLen)) 0
    have payloadLen : payload.length = announced rest := by
      simp only [payload, List.length_append, List.length_drop, List.length_replicate]
      omega
    have header : (Packet.header ⟨rest.getD 0 0, rest.getD 1 0, payload⟩) =
        Header.ofBytes (rest.getD 0 0) (rest.getD 1 0) (rest.getD 2 0) (rest.getD 3 0) := by
      simp only [Packet.header, payloadLen, announced, Header.ofBytes]
    refine ⟨⟨rest.getD 0 0, rest.getD 1 0, payload⟩, payloadLen ▸ small, ?_, ?_⟩
    · simp only [Packet.wireBytes, header, Header.toBytes_ofBytes, payload]
      exact prefix_header_drop rest _
    · simp only [Packet.wireBytes, header, Header.toBytes_ofBytes, List.length_append, payloadLen]
      unfold IsPartialFrame headerLen at unfinished
      simp only [List.length_cons, List.length_nil]
      omega
  · rintro ⟨p, fits, ⟨after, joined⟩, shorter⟩
    unfold IsPartialFrame
    by_cases headerShort : rest.length < headerLen
    · exact .inl headerShort
    · have same : announced rest = announced p.wireBytes := by
        unfold headerLen at headerShort
        rw [← joined]
        simp only [announced, List.getD_append _ _ _ _ (show 2 < rest.length by omega),
          List.getD_append _ _ _ _ (show 3 < rest.length by omega)]
      have wireLength : p.wireBytes.length = headerLen + p.payload.length := by
        simp [Packet.wireBytes, Header.length_toBytes, headerLen]
      rw [same, announced_wireBytes p fits]
      exact .inr (wireLength ▸ shorter)

end LinkTap.Frame
