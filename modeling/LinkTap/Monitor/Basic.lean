import LinkTap.Telemetry.Event
import LinkTap.Traffic.Sequence
import LinkTap.Mavlink.Scanner

/-!
# The monitor

Every frame of the monitor link is counted, checked against the link's sequence and published;
a plaintext frame's content goes on to the MAVLink scanner of its source.
-/

set_option autoImplicit false

namespace LinkTap

open LinkTap.Frame LinkTap.Traffic LinkTap.Telemetry LinkTap.Mavlink

structure MonitorStats where
  frames : Nat := 0
  bytes : Nat := 0
  mavlinkMessages : Nat := 0
  droppedFrames : Nat := 0
  sinkFailures : Nat := 0
deriving DecidableEq, Repr, Inhabited

/-- A monitor: the sequence cursor of the link, a MAVLink scanner per source, and counts. -/
structure Monitor where
  cursor : SequenceCursor := {}
  scanners : List (Source × Scanner) := []
  stats : MonitorStats := {}
deriving Repr, Inhabited

namespace Monitor

/-- The scanner of a source; a fresh one if the source has sent nothing yet. -/
def scanner (m : Monitor) (source : Source) : Scanner :=
  ((m.scanners.find? (·.1 == source)).map (·.2)).getD {}

def withScanner (m : Monitor) (source : Source) (s : Scanner) : Monitor :=
  { m with scanners := (source, s) :: m.scanners.filter (·.1 != source) }

/-- Handles one frame: the monitor after it, and the events to publish, in order. -/
def handle (m : Monitor) (p : Packet) : Monitor × List Event :=
  let (gap, cursor) := m.cursor.observe p.seq
  let dropped := (gap.map (·.dropped)).getD 0
  let stats := { m.stats with
    frames := m.stats.frames + 1
    bytes := m.stats.bytes + p.wireLen
    droppedFrames := m.stats.droppedFrames + dropped }
  let m := { m with cursor, stats }
  let command := Command.ofByte p.cmd
  let data := content p
  if command.kind != .plaintext || data.isEmpty then (m, [.frame p])
  else
    let (scanner, frames) := (m.scanner command.source).feed data
    let m := m.withScanner command.source scanner
    let messages := frames.toList.map Message.ofFrame
    match batchOf p command.source messages with
    | none => (m, [.frame p])
    | some batch =>
      ({ m with stats := { m.stats with
          mavlinkMessages := m.stats.mavlinkMessages + messages.length } }, [.frame p, batch])

def publish {σ : Type} (sink : Sink σ) (m : Monitor) (state : σ) (events : List Event) :
    Monitor × σ :=
  let (state, refused) := sink.publishAll state events
  ({ m with stats := { m.stats with sinkFailures := m.stats.sinkFailures + refused } }, state)

def handlePacket {σ : Type} (sink : Sink σ) (m : Monitor) (state : σ) (p : Packet) :
    Monitor × σ :=
  let (m, events) := m.handle p
  m.publish sink state events

end Monitor

end LinkTap
