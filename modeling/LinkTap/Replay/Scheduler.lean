import LinkTap.Replay.Note
import LinkTap.Replay.Dump
import LinkTap.Channel.Peer
import LinkTap.Traffic.Sniff

/-!
# Replaying a dump

A replay session plays the records of a dump to one client at the pace they were captured at,
pass after pass, on a virtual clock in milliseconds that only waits advance (`Scheduler.play`).
-/

set_option autoImplicit false

namespace LinkTap.Replay

open LinkTap.Frame LinkTap.Traffic LinkTap.Channel

/-- Timing and length of a replay session: the pause before each further pass, the pause before
the first frame, how often a long wait is reported, the limit on each write call, and how many
passes make a session (none: until the client goes away or the replay is cancelled). -/
structure Settings where
  rewindPause : Nat := 1000
  clientSettle : Nat := 100
  progressInterval : Nat := 500
  ioTimeout : Nat := 3000
  maxPasses : Option Nat := none
deriving DecidableEq, Repr, Inhabited

/-- A virtual clock with an optional time at which cancellation is requested. A wait from
`now` until `due` ends at the later of the two, unless the request comes strictly before that;
then the wait stops when the request comes (at once, if it came already). -/
structure Clock where
  now : Nat := 0
  cancelAt : Option Nat := none
deriving DecidableEq, Repr, Inhabited

namespace Clock

def cancelled (c : Clock) : Bool :=
  match c.cancelAt with
  | some at_ => at_ < c.now
  | none => false

/-- Waits until `due`: the clock after the wait, or the clock when cancellation stopped it. -/
def waitUntil (c : Clock) (due : Nat) : Except Clock Clock :=
  let wake := max c.now due
  match c.cancelAt with
  | some at_ => if at_ < wake then .error { c with now := max c.now at_ } else .ok { c with now := wake }
  | none => .ok { c with now := wake }

end Clock

inductive SessionEnd where
  | clientGone (error : LinkError)
  | passesDone
  | shutdown
deriving DecidableEq, Repr

structure Scheduler where
  settings : Settings
  reader : Dump.Reader
  clock : Clock
  sink : ByteSink
  cursor : SequenceCursor := {}
  baseline : Option UInt32 := none
  reference : Option Nat := none
  passes : Nat := 0
  notes : Array Note := #[]
deriving Repr

structure Outcome where
  finish : SessionEnd
  endMs : Nat
  sink : ByteSink
  notes : Array Note
deriving Repr

/-- A wait in progress: the clock, when progress is reported next, and the times of the reports
made so far. -/
structure Waiting where
  clock : Clock
  nextReport : Nat
  reports : List Nat := []
deriving DecidableEq, Repr

namespace Waiting

/-- A wait that starts at the clock's time and first reports one interval later. -/
def start (clock : Clock) (interval : Nat) : Waiting :=
  { clock, nextReport := clock.now + interval }

/-- One round of the wait: sleep until the next report, make it, and plan the one after an
interval later; the clock when cancellation stops the sleep. -/
def report (w : Waiting) (interval : Nat) : Except Clock Waiting :=
  (w.clock.waitUntil w.nextReport).map fun clock =>
    { clock, nextReport := w.nextReport + interval, reports := w.reports ++ [clock.now] }

/-- Waits until `due`: a round while the next report comes before `due`, then a sleep until `due`.
The wait at its end, or the clock when cancelled; `none` when `fuel` rounds do not get there. -/
def untilDue (interval due : Nat) : Nat → Waiting → Option (Except Clock Waiting)
  | 0, _ => none
  | fuel + 1, w =>
    if w.nextReport < due then
      match w.report interval with
      | .error clock => some (.error clock)
      | .ok next => untilDue interval due fuel next
    else some ((w.clock.waitUntil due).map fun clock => { w with clock })

end Waiting

namespace Scheduler

def note (s : Scheduler) (n : Note) : Scheduler := { s with notes := s.notes.push n }

def finishWith (s : Scheduler) (finish : SessionEnd) : Outcome :=
  { finish, endMs := s.clock.now, sink := s.sink, notes := s.notes }

/-- Starts a pass: back to the start of the dump, no baseline, a fresh cursor. -/
def startPass (s : Scheduler) : Scheduler :=
  { s with reader := s.reader.rewind, baseline := none, reference := none, cursor := {} }

/-- Notes what is about to be sent: a frame too short for a header is only warned about;
otherwise a header that disagrees with the frame's length is warned about, the sequence number
is checked, and the frame is described. Nothing here stops the frame from being sent. -/
def describe (s : Scheduler) (elapsed : Nat) (frame : List UInt8) : Scheduler :=
  match frame with
  | cmd :: seq :: high :: low :: payload =>
    let header := Header.ofBytes cmd seq high low
    let s := if payload.length ≠ header.payloadLen.toNat then
        s.note (.lengthMismatch cmd header.payloadLen.toNat payload.length)
      else s
    let (gap, cursor) := s.cursor.observe seq
    let s := { s with cursor }
    let s := match gap with
      | some gap => s.note (.sequenceGap gap)
      | none => s
    let packet : Packet := ⟨cmd, seq, payload⟩
    let data := content packet
    let sniff := ((sniffContent packet).map Sniff.text).getD ""
    s.note (.sent elapsed header.command.label seq data.length (data.take 16) sniff)
  | _ => s.note (.recordTooShort frame.length)

def passesDone (s : Scheduler) : Bool :=
  match s.settings.maxPasses with
  | some most => most ≤ s.passes
  | none => false

/-- When `record` is due in the current pass: at the pass's reference plus how much later than
the pass's baseline it was captured, at the reference if it was captured earlier. A pass with no
baseline yet takes the record's own capture time and now. -/
def dueAt (s : Scheduler) (record : Dump.Record) : Nat :=
  s.reference.getD s.clock.now + (record.timestampMs.toNat - (s.baseline.getD record.timestampMs).toNat)

/-- Waits until `record` is due, reporting progress every `progressInterval`. The scheduler with
the pass's baseline and reference fixed, and how the wait ended: the clock when cancelled, or the
wait at its end with the time since the reference; `none` for a wait that never ends. A wait with
a positive interval makes at most one round per millisecond it spans, and one more to end. -/
def waitUntilDue (s : Scheduler) (record : Dump.Record) :
    Scheduler × Option (Except Clock (Waiting × Nat)) :=
  let reference := s.reference.getD s.clock.now
  let due := s.dueAt record
  ({ s with baseline := some (s.baseline.getD record.timestampMs), reference := some reference },
    (Waiting.untilDue s.settings.progressInterval due (due - s.clock.now + 1)
        (.start s.clock s.settings.progressInterval)).map
      (Except.map fun w => (w, w.clock.now - reference)))

/-- Plays records until the session ends; `none` when `fuel` runs out first, or a wait never
ends. -/
def play (fuel : Nat) (s : Scheduler) : Option Outcome :=
  match fuel with
  | 0 => none
  | fuel + 1 =>
    if s.clock.cancelled then some (s.finishWith .shutdown)
    else
      match s.reader.next with
      | (.error error, reader) =>
        let s := { s with reader, passes := s.passes + 1 }
        let s := s.note (if error.isEndOfDump then .endOfDump else .badRecord error)
        if s.passesDone then some (s.finishWith .passesDone)
        else
          match s.clock.waitUntil (s.clock.now + s.settings.rewindPause) with
          | .error clock => some ({ s with clock }.finishWith .shutdown)
          | .ok clock => play fuel { s with clock }.startPass
      | (.ok record, reader) =>
        let s := { s with reader }
        if record.isMarker then play fuel s
        else
          match s.waitUntilDue record with
          | (_, none) => none
          | (s, some (.error clock)) => some ({ s with clock }.finishWith .shutdown)
          | (s, some (.ok (waited, elapsed))) =>
            let s := { s with clock := waited.clock }.describe elapsed record.frame
            let written := writeChunkedTo ByteSink.peer s.settings.ioTimeout s.sink s.clock.now record.frame
            let s := { s with sink := written.sink, clock := { s.clock with now := written.time } }
            match written.error with
            | some error => some ((s.note (.clientLost error)).finishWith (.clientGone error))
            | none => play fuel s

/-- Enough steps for any session that ends: each step reads a record or ends a pass, a pass
reads at most one record per eight bytes of the dump, and a session that ends plays at most
its number of passes, or as many as milliseconds pass before it is cancelled. -/
def fuelFor (settings : Settings) (clock : Clock) (dump : List UInt8) : Nat :=
  let passes := match settings.maxPasses, clock.cancelAt with
    | some most, _ => max most 1
    | none, some at_ => at_ + 1
    | none, none => 0
  (dump.length / 8 + 2) * (passes + 1) + 1

/-- A session on a scheduler in whatever state earlier sessions left it: it waits for the client
to settle, then plays passes from the start of the dump, counting them from zero. `none` for a
session that never ends. -/
def session (s : Scheduler) : Option Outcome :=
  match s.clock.waitUntil (s.clock.now + s.settings.clientSettle) with
  | .error clock => some ({ s with clock }.finishWith .shutdown)
  | .ok clock => play (fuelFor s.settings clock s.reader.data) { s with clock, passes := 0 }.startPass

end Scheduler

/-- Plays a dump to a client through `sink`, from time zero; `none` for a session that never
ends (no pass limit and no cancellation). -/
def runSession (settings : Settings) (cancelAt : Option Nat) (sink : ByteSink)
    (dump : List UInt8) : Option Outcome :=
  ({ settings, clock := { cancelAt }, sink, reader := Dump.Reader.ofBytes dump } : Scheduler).session

end LinkTap.Replay
