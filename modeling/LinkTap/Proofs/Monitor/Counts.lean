import Mathlib
import LinkTap.Proofs.Monitor.Sources
import LinkTap.Proofs.Traffic.Sequence

/-!
# What the monitor counts

Nothing the monitor does reads its counts, and the frames it counts as dropped are the gaps
between sequence numbers (`droppedFrames_handleAll`).
-/

set_option autoImplicit false

namespace LinkTap

open LinkTap.Frame LinkTap.Traffic LinkTap.Telemetry

namespace MonitorStats

def add (a b : MonitorStats) : MonitorStats :=
  ⟨a.frames + b.frames, a.bytes + b.bytes, a.mavlinkMessages + b.mavlinkMessages,
    a.droppedFrames + b.droppedFrames, a.sinkFailures + b.sinkFailures⟩

instance : Add MonitorStats := ⟨add⟩

theorem add_eq (a b : MonitorStats) : a + b =
    ⟨a.frames + b.frames, a.bytes + b.bytes, a.mavlinkMessages + b.mavlinkMessages,
      a.droppedFrames + b.droppedFrames, a.sinkFailures + b.sinkFailures⟩ := rfl

@[simp] theorem frames_add (a b : MonitorStats) : (a + b).frames = a.frames + b.frames := rfl

@[simp] theorem bytes_add (a b : MonitorStats) : (a + b).bytes = a.bytes + b.bytes := rfl

@[simp] theorem mavlinkMessages_add (a b : MonitorStats) :
    (a + b).mavlinkMessages = a.mavlinkMessages + b.mavlinkMessages := rfl

@[simp] theorem droppedFrames_add (a b : MonitorStats) :
    (a + b).droppedFrames = a.droppedFrames + b.droppedFrames := rfl

@[simp] theorem sinkFailures_add (a b : MonitorStats) :
    (a + b).sinkFailures = a.sinkFailures + b.sinkFailures := rfl

end MonitorStats

namespace Monitor

/-- The monitor with `base` added to its counts. -/
def countedFrom (base : MonitorStats) (m : Monitor) : Monitor := { m with stats := base + m.stats }

variable {σ : Type} (sink : Sink σ) (base : MonitorStats)

theorem publish_countedFrom (m : Monitor) (state : σ) (events : List Event) :
    (m.countedFrom base).publish sink state events =
      ((m.publish sink state events).1.countedFrom base, (m.publish sink state events).2) := by
  simp only [publish, countedFrom, MonitorStats.add_eq, Nat.add_assoc]

theorem handle_countedFrom (m : Monitor) (p : Packet) :
    (m.countedFrom base).handle p = ((m.handle p).1.countedFrom base, (m.handle p).2) := by
  simp only [handle, countedFrom, scanner, withScanner, MonitorStats.add_eq]
  split
  · simp only [Nat.add_assoc]
  · split <;> simp only [Nat.add_assoc]

theorem handlePacket_countedFrom (m : Monitor) (state : σ) (p : Packet) :
    (m.countedFrom base).handlePacket sink state p =
      ((m.handlePacket sink state p).1.countedFrom base, (m.handlePacket sink state p).2) := by
  simp only [handlePacket, handle_countedFrom, publish_countedFrom]

theorem handleAll_countedFrom (frames : List Packet) (m : Monitor) (state : σ) :
    (m.countedFrom base).handleAll sink state frames =
      ((m.handleAll sink state frames).1.countedFrom base, (m.handleAll sink state frames).2) := by
  induction frames generalizing m state with
  | nil => rfl
  | cons p later ih =>
      simp only [handleAll, List.foldl_cons] at ih ⊢
      rw [handlePacket_countedFrom, ih]


@[simp] theorem cursor_handle (m : Monitor) (p : Packet) : (m.handle p).1.cursor = { last := some p.seq } := by
  simp only [handle]
  split
  · simp
  · split <;> simp [withScanner]

theorem droppedFrames_handle (m : Monitor) (p : Packet) :
    (m.handle p).1.stats.droppedFrames =
      m.stats.droppedFrames + missingFrames (m.cursor.last.toList ++ [p.seq]) := by
  rw [← SequenceCursor.dropped_observe]
  simp only [handle]
  split
  · rfl
  · split <;> rfl

theorem droppedFrames_handleAll (frames : List Packet) (m : Monitor) (state : σ) :
    (m.handleAll sink state frames).1.stats.droppedFrames =
      m.stats.droppedFrames + missingFrames (m.cursor.last.toList ++ frames.map Packet.seq) := by
  induction frames generalizing m state with
  | nil =>
      cases m.cursor.last <;> simp [handleAll, missingFrames]
  | cons p later ih =>
      simp only [handleAll, List.foldl_cons] at ih ⊢
      rw [ih]
      have moved : (m.handlePacket sink state p).1.cursor = { last := some p.seq } := cursor_handle m p
      have counted : (m.handlePacket sink state p).1.stats.droppedFrames =
          m.stats.droppedFrames + missingFrames (m.cursor.last.toList ++ [p.seq]) :=
        droppedFrames_handle m p
      rw [moved, counted, Nat.add_assoc, Option.toList_some, List.map_cons, List.singleton_append,
        missingFrames_join]

end Monitor

end LinkTap
