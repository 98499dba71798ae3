import LinkTap.Mavlink.Frame

/-!
# Scanning a byte stream for MAVLink frames

A scanner skips to a start byte, collects a candidate frame and emits it when its checksum is
right; the bytes of a refused candidate after its start byte are scanned again.
-/

set_option autoImplicit false

namespace LinkTap.Mavlink

structure ScanStats where
  messagesReceived : Nat := 0
  crcErrors : Nat := 0
  badFlags : Nat := 0
deriving DecidableEq, Repr, Inhabited

/-- A scanner: the bytes of the frame in progress, empty between frames, and its counts. -/
structure Scanner where
  buffer : Array UInt8 := #[]
  stats : ScanStats := {}
deriving Repr, Inhabited

namespace Scanner

/-- Bytes of signature after the checksum of a signed version 2 frame. -/
def signatureLength : Nat := 13

def signedFlag : UInt8 := 0x01

/-- Whether the frame in progress is of version 2. -/
def isVersion2 (buffer : Array UInt8) : Bool := buffer.getD 0 0 == 0xFD

def headerLength (buffer : Array UInt8) : Nat := if isVersion2 buffer then 10 else 6

/-- Where the payload of the frame in progress ends: header length plus announced length. -/
def payloadEnd (buffer : Array UInt8) : Nat := headerLength buffer + (buffer.getD 1 0).toNat

def isSigned (buffer : Array UInt8) : Bool :=
  isVersion2 buffer && (buffer.getD 2 0 &&& signedFlag) != 0

def msgid (buffer : Array UInt8) : UInt32 :=
  if isVersion2 buffer then
    (buffer.getD 7 0).toUInt32 ||| ((buffer.getD 8 0).toUInt32 <<< 8) |||
      ((buffer.getD 9 0).toUInt32 <<< 16)
  else (buffer.getD 5 0).toUInt32

def receivedChecksum (buffer : Array UInt8) : UInt16 :=
  let stop := payloadEnd buffer
  (buffer.getD stop 0).toUInt16 ||| ((buffer.getD (stop + 1) 0).toUInt16 <<< 8)

def frameOf (buffer : Array UInt8) : Frame :=
  let version := if isVersion2 buffer then Version.v2 else Version.v1
  let at_ (i : Nat) : UInt8 := buffer.getD i 0
  let (seq, sysid, compid) := if isVersion2 buffer then (at_ 4, at_ 5, at_ 6) else (at_ 2, at_ 3, at_ 4)
  { version, seq, sysid, compid
    msgid := msgid buffer
    payload := (buffer.extract (headerLength buffer) (payloadEnd buffer)).toList
    checksum := receivedChecksum buffer }

inductive Outcome where
  | pending
  | frame (frame : Frame)
  | rejected (rescan : List UInt8)
deriving Repr

/-- Drops the frame in progress, which has grown to `buffer`, and gives back every byte after
its start byte. -/
def refuse (stats : ScanStats) (buffer : Array UInt8) : Scanner × Outcome :=
  ({ buffer := #[], stats }, .rejected (buffer.toList.drop 1))

/-- Emits the frame that `buffer` completes. -/
def emit (stats : ScanStats) (buffer : Array UInt8) : Scanner × Outcome :=
  ({ buffer := #[], stats := { stats with messagesReceived := stats.messagesReceived + 1 } },
    .frame (frameOf buffer))

def step (s : Scanner) (byte : UInt8) : Scanner × Outcome :=
  if s.buffer.isEmpty then
    if byte == 0xFE || byte == 0xFD then ({ s with buffer := #[byte] }, .pending)
    else (s, .pending)
  else
    let buffer := s.buffer.push byte
    let size := buffer.size
    let stop := payloadEnd buffer
    if isVersion2 buffer && size == 3 && (byte &&& ~~~signedFlag) != 0 then
      refuse { s.stats with badFlags := s.stats.badFlags + 1 } buffer
    else if size < stop + 2 then ({ s with buffer }, .pending)
    else if size == stop + 2 then
      if receivedChecksum buffer != frameChecksum (buffer.toList.take stop) (msgid buffer) then
        refuse { s.stats with crcErrors := s.stats.crcErrors + 1 } buffer
      else if isSigned buffer then ({ s with buffer }, .pending)
      else emit s.stats buffer
    else if size < stop + 2 + signatureLength then ({ s with buffer }, .pending)
    else emit s.stats buffer

theorem size_step_of_pending {s next : Scanner} {byte : UInt8}
    (h : s.step byte = (next, .pending)) : next.buffer.size ≤ s.buffer.size + 1 := by
  unfold step at h
  split at h
  · split at h <;> (obtain ⟨rfl, -⟩ := Prod.mk.inj h; simp_all)
  · simp only [refuse, emit] at h
    repeat' split at h
    all_goals
      obtain ⟨rfl, h⟩ := Prod.mk.inj h
      first | (simp at h; done) | simp

theorem size_step_of_frame {s next : Scanner} {byte : UInt8} {frame : Frame}
    (h : s.step byte = (next, .frame frame)) : next.buffer.size = 0 := by
  unfold step at h
  split at h
  · split at h <;> simp at h
  · simp only [refuse, emit] at h
    repeat' split at h
    all_goals
      obtain ⟨rfl, h⟩ := Prod.mk.inj h
      first | (simp at h; done) | simp

theorem size_step_of_rejected {s next : Scanner} {byte : UInt8} {rescan : List UInt8}
    (h : s.step byte = (next, .rejected rescan)) :
    next.buffer.size = 0 ∧ rescan.length = s.buffer.size := by
  unfold step at h
  split at h
  · split at h <;> simp at h
  · simp only [refuse, emit] at h
    repeat' split at h
    all_goals
      obtain ⟨rfl, h⟩ := Prod.mk.inj h
      first | (simp at h; done) | (simp at h; subst h; simp)

/-- Scans the queued bytes in order, pushing each completed frame onto `out`; the bytes of a
refused candidate go back to the front of the queue. -/
def drain (s : Scanner) (queue : List UInt8) (out : Array Frame) : Scanner × Array Frame :=
  match queue with
  | [] => (s, out)
  | byte :: rest =>
    match _stepped : s.step byte with
    | (next, .pending) => drain next rest out
    | (next, .frame frame) => drain next rest (out.push frame)
    | (next, .rejected rescan) => drain next (rescan ++ rest) out
termination_by (queue.length + s.buffer.size, queue.length)
decreasing_by
  all_goals simp_wf
  · have grows := size_step_of_pending _stepped
    rcases Nat.lt_or_eq_of_le grows with shorter | same
    · exact Prod.Lex.left _ _ (by omega)
    · rw [show rest.length + next.buffer.size = rest.length + 1 + s.buffer.size by omega]
      exact Prod.Lex.right _ (by omega)
  · have empty := size_step_of_frame _stepped
    exact Prod.Lex.left _ _ (by omega)
  · obtain ⟨empty, returned⟩ := size_step_of_rejected _stepped
    exact Prod.Lex.left _ _ (by omega)

/-- Feeds one byte: scans it and everything a refusal gives back, adding frames to `out`. -/
def push (acc : Scanner × Array Frame) (byte : UInt8) : Scanner × Array Frame :=
  acc.1.drain [byte] acc.2

/-- Feeds bytes in order, returning the scanner after them and the frames they completed. -/
def feed (s : Scanner) (bytes : List UInt8) : Scanner × Array Frame :=
  bytes.foldl push (s, #[])

end Scanner

end LinkTap.Mavlink
