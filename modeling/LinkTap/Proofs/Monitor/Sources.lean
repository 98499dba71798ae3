import Mathlib
import LinkTap.Monitor.Session
import LinkTap.Proofs.Mavlink.Drain

/-!
# The monitor reads each source's traffic as one stream

A source's batches carry the messages a fresh scanner finds in that source's stream alone; main
statement: `handleAll_scans_sources`.
-/

set_option autoImplicit false

namespace LinkTap

open LinkTap.Frame LinkTap.Traffic LinkTap.Telemetry LinkTap.Mavlink

namespace Telemetry.Sink

theorem publishAll_append {σ : Type} (sink : Sink σ) (state : σ) (first second : List Event) :
    (sink.publishAll state (first ++ second)).1 = (sink.publishAll (sink.publishAll state first).1 second).1 := by
  induction first generalizing state with
  | nil => rfl
  | cons event rest ih => simp only [List.cons_append, publishAll, ih]

end Telemetry.Sink

namespace Telemetry.Event

/-- The MAVLink messages an event carries from `source`: those of a batch from it. -/
def messagesFrom (source : Source) : Event → List Message
  | .mavlinkBatch _ _ from_ messages => if from_ = source then messages else []
  | _ => []

end Telemetry.Event

namespace Monitor

/-- What a frame gives the MAVLink scanner of `source`: its content when it is plaintext from that
source, nothing otherwise. -/
def scannedBy (source : Source) (p : Packet) : List UInt8 :=
  if (Command.ofByte p.cmd).kind = .plaintext ∧ (Command.ofByte p.cmd).source = source then content p
  else []

def sourceStream (source : Source) (frames : List Packet) : List UInt8 :=
  frames.flatMap (scannedBy source)

/-- A fresh scanner after reading a source's stream over `frames`. -/
def scannerAfter (source : Source) (frames : List Packet) : Scanner :=
  (({} : Scanner).feed (sourceStream source frames)).1

/-- The events published for the frame `p` after the frames `earlier`: the frame's own event,
then, for plaintext with content, a batch of the messages it completes in its source's stream
when there are any. -/
def frameEvents (earlier : List Packet) (p : Packet) : List Event :=
  let command := Command.ofByte p.cmd
  .frame p ::
    if command.kind = .plaintext ∧ content p ≠ [] then
      (batchOf p command.source
        ((((scannerAfter command.source earlier).feed (content p)).2.toList.map Message.ofFrame))).toList
    else []

/-- The events published for `frames` after the frames `earlier`, in order. -/
def publishedEvents (earlier : List Packet) : List Packet → List Event
  | [] => []
  | p :: later => frameEvents earlier p ++ publishedEvents (earlier ++ [p]) later

theorem scanner_withScanner (m : Monitor) (source : Source) (s : Scanner) (other : Source) :
    (m.withScanner source s).scanner other = if other = source then s else m.scanner other := by
  unfold withScanner scanner
  dsimp only
  by_cases same : other = source
  · subst same
    rw [List.find?_cons_of_pos (p := fun entry : Source × Scanner => entry.1 == other) (beq_self_eq_true other), if_pos rfl]
    rfl
  · have skipped : ¬(source == other) = true := by
      rw [beq_iff_eq]
      exact fun back => same back.symm
    rw [List.find?_cons_of_neg (p := fun entry : Source × Scanner => entry.1 == other) skipped, if_neg same, List.find?_filter]
    congr 3
    funext entry
    by_cases found : entry.1 = other
    · simp only [found, bne_iff_ne, ne_eq, same, not_false_eq_true, beq_self_eq_true, and_self,
        decide_true]
    · simp only [beq_iff_eq, found, and_false, decide_false]
      exact (beq_eq_false_iff_ne.mpr found).symm

variable {m : Monitor} {p : Packet}

theorem handle_of_unscanned (unscanned : ¬((Command.ofByte p.cmd).kind = .plaintext ∧ content p ≠ [])) :
    (m.handle p).2 = [.frame p] ∧ (m.handle p).1.scanners = m.scanners := by
  have skipped : ((Command.ofByte p.cmd).kind != .plaintext || (content p).isEmpty) = true := by
    by_cases plain : (Command.ofByte p.cmd).kind = .plaintext
    · simpa [plain] using unscanned
    · simp [plain]
  simp only [handle, skipped, ↓reduceIte, and_self]

theorem handle_of_scanned (scanned : (Command.ofByte p.cmd).kind = .plaintext ∧ content p ≠ []) :
    (m.handle p).2 = .frame p :: (batchOf p (Command.ofByte p.cmd).source
        (((m.scanner (Command.ofByte p.cmd).source).feed (content p)).2.toList.map Message.ofFrame)).toList ∧
      (m.handle p).1.scanners = (m.withScanner (Command.ofByte p.cmd).source
        ((m.scanner (Command.ofByte p.cmd).source).feed (content p)).1).scanners := by
  have kept : ((Command.ofByte p.cmd).kind != .plaintext || (content p).isEmpty) = false := by
    simp [scanned.1, scanned.2]
  simp only [handle, kept, Bool.false_eq_true, ↓reduceIte]
  split <;> simp_all [batchOf, withScanner, scanner]

theorem scannedBy_of_unscanned (unscanned : ¬((Command.ofByte p.cmd).kind = .plaintext ∧ content p ≠ []))
    (source : Source) : scannedBy source p = [] := by
  unfold scannedBy
  split_ifs with plain
  · simpa [plain.1] using unscanned
  · rfl

theorem scannedBy_of_elsewhere {source : Source}
    (elsewhere : (Command.ofByte p.cmd).kind ≠ .plaintext ∨ (Command.ofByte p.cmd).source ≠ source) :
    scannedBy source p = [] := by
  unfold scannedBy
  rw [if_neg]
  rintro ⟨plain, mine⟩
  rcases elsewhere with notPlain | notMine
  · exact notPlain plain
  · exact notMine mine

theorem scanner_congr {m' : Monitor} (same : m.scanners = m'.scanners) : m.scanner = m'.scanner := by
  unfold scanner
  rw [same]

theorem scanner_handle (m : Monitor) (p : Packet) (source : Source) :
    (m.handle p).1.scanner source = ((m.scanner source).feed (scannedBy source p)).1 := by
  by_cases scanned : (Command.ofByte p.cmd).kind = .plaintext ∧ content p ≠ []
  · rw [scanner_congr (handle_of_scanned scanned).2, scanner_withScanner]
    by_cases mine : source = (Command.ofByte p.cmd).source
    · rw [if_pos mine, scannedBy, if_pos ⟨scanned.1, mine.symm⟩, mine]
    · rw [if_neg mine, scannedBy_of_elsewhere (.inr (Ne.symm mine))]
      rfl
  · rw [scanner_congr (handle_of_unscanned scanned).2, scannedBy_of_unscanned scanned]
    rfl

theorem scannerAfter_snoc (source : Source) (earlier : List Packet) (p : Packet) :
    scannerAfter source (earlier ++ [p]) = ((scannerAfter source earlier).feed (scannedBy source p)).1 := by
  rw [scannerAfter, sourceStream, List.flatMap_append, List.flatMap_singleton, Scanner.feed_append]
  rfl

theorem handle_events {earlier : List Packet} (scanners : ∀ source, m.scanner source = scannerAfter source earlier) :
    (m.handle p).2 = frameEvents earlier p := by
  by_cases scanned : (Command.ofByte p.cmd).kind = .plaintext ∧ content p ≠ []
  · rw [(handle_of_scanned scanned).1, frameEvents, if_pos scanned, scanners]
  · rw [(handle_of_unscanned scanned).1, frameEvents, if_neg scanned]

theorem handlePacket_state {σ : Type} (sink : Sink σ) (state : σ) :
    (m.handlePacket sink state p).2 = (sink.publishAll state (m.handle p).2).1 := rfl

theorem scanner_handlePacket {σ : Type} (sink : Sink σ) (state : σ) (source : Source) :
    (m.handlePacket sink state p).1.scanner source = (m.handle p).1.scanner source := rfl

theorem handleAll_eq {σ : Type} (sink : Sink σ) (frames : List Packet) :
    ∀ (m : Monitor) (state : σ) (earlier : List Packet),
      (∀ source, m.scanner source = scannerAfter source earlier) →
      (m.handleAll sink state frames).2 = (sink.publishAll state (publishedEvents earlier frames)).1 ∧
        ∀ source, (m.handleAll sink state frames).1.scanner source = scannerAfter source (earlier ++ frames) := by
  induction frames with
  | nil =>
      intro m state earlier scanners
      refine ⟨rfl, fun source => ?_⟩
      rw [List.append_nil]
      exact scanners source
  | cons p later ih =>
      intro m state earlier scanners
      have next : ∀ source, (m.handlePacket sink state p).1.scanner source = scannerAfter source (earlier ++ [p]) := by
        intro source
        rw [scanner_handlePacket, scanner_handle, scanners, scannerAfter_snoc]
      obtain ⟨published, scanned⟩ := ih (m.handlePacket sink state p).1 (m.handlePacket sink state p).2
        (earlier ++ [p]) next
      refine ⟨?_, fun source => ?_⟩
      · rw [handleAll, List.foldl_cons, ← handleAll, published, handlePacket_state, handle_events scanners,
          publishedEvents, Sink.publishAll_append]
      · rw [handleAll, List.foldl_cons, ← handleAll, scanned, List.append_assoc, List.singleton_append]

theorem messagesFrom_frameEvents (source : Source) (earlier : List Packet) (p : Packet) :
    (frameEvents earlier p).flatMap (Event.messagesFrom source) =
      ((scannerAfter source earlier).feed (scannedBy source p)).2.toList.map Message.ofFrame := by
  by_cases scanned : (Command.ofByte p.cmd).kind = .plaintext ∧ content p ≠ []
  · rw [frameEvents]
    simp only [if_pos scanned, List.flatMap_cons, Event.messagesFrom, List.nil_append]
    by_cases mine : (Command.ofByte p.cmd).source = source
    · rw [scannedBy, if_pos ⟨scanned.1, mine⟩, ← mine]
      unfold batchOf
      split_ifs with none
      · simpa using none
      · simp [Event.messagesFrom]
    · rw [scannedBy_of_elsewhere (.inr mine)]
      unfold batchOf
      split_ifs <;> simp [Event.messagesFrom, mine]
  · rw [frameEvents, if_neg scanned, scannedBy_of_unscanned scanned]
    rfl

theorem messagesFrom_publishedEvents (source : Source) (frames : List Packet) :
    ∀ earlier : List Packet, (publishedEvents earlier frames).flatMap (Event.messagesFrom source) =
      ((scannerAfter source earlier).feed (sourceStream source frames)).2.toList.map Message.ofFrame := by
  induction frames with
  | nil => intro earlier; rfl
  | cons p later ih =>
      intro earlier
      have stream : sourceStream source (p :: later) = scannedBy source p ++ sourceStream source later :=
        List.flatMap_cons
      rw [publishedEvents, List.flatMap_append, ih, scannerAfter_snoc, stream, Scanner.feed_append,
        Array.toList_append, List.map_append, messagesFrom_frameEvents]

/-- A fresh monitor's MAVLink output per source does not depend on how frames are cut or
interleaved. The sink receives, frame by frame, each frame's event and then a batch of the
messages its plaintext content completes, when there are any. The messages of a source's
batches are those of the frames a fresh scanner finds in that source's stream alone, and each
scanner ends where that stream leaves it. A frame that is not plaintext from a source leaves that
source's scanner as it was. -/
theorem handleAll_scans_sources {σ : Type} (sink : Sink σ) (m : Monitor) (state : σ) (frames : List Packet) :
    (({ m with scanners := [] } : Monitor).handleAll sink state frames).2 =
        (sink.publishAll state (publishedEvents [] frames)).1 ∧
      (∀ source, (publishedEvents [] frames).flatMap (Event.messagesFrom source) =
        (({} : Scanner).feed (sourceStream source frames)).2.toList.map Message.ofFrame) ∧
      (∀ source, (({ m with scanners := [] } : Monitor).handleAll sink state frames).1.scanner source =
        (({} : Scanner).feed (sourceStream source frames)).1) ∧
      (∀ (other : Monitor) (p : Packet) (source : Source),
        ((Command.ofByte p.cmd).kind ≠ .plaintext ∨ (Command.ofByte p.cmd).source ≠ source) →
          (other.handle p).1.scanner source = other.scanner source) := by
  have fresh : ∀ source, ({ m with scanners := [] } : Monitor).scanner source = scannerAfter source [] :=
    fun _ => rfl
  obtain ⟨published, scanned⟩ := handleAll_eq sink frames _ state [] fresh
  refine ⟨published, fun source => messagesFrom_publishedEvents source frames [], scanned, ?_⟩
  intro other p source elsewhere
  rw [scanner_handle, scannedBy_of_elsewhere elsewhere, Scanner.feed_nil]

end Monitor

end LinkTap
