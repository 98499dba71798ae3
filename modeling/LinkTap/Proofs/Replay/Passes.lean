import Mathlib
import LinkTap.Proofs.Replay.Progress
import LinkTap.Proofs.Channel.Chunked
import LinkTap.Proofs.Dump.Records

/-!
# A replay session plays its passes on schedule

One lemma per outcome of a step, the invariant `MidPass` over a pass, and the passes chained into
the session; main statement: `session_plays_passes`.
-/

set_option autoImplicit false

namespace LinkTap.Replay

open LinkTap.Dump LinkTap.Channel

namespace Clock

variable {c : Clock}

theorem cancelled_of_uncancelled (uncancelled : c.cancelAt = none) : c.cancelled = false := by
  simp [cancelled, uncancelled]

theorem waitUntil_of_uncancelled (uncancelled : c.cancelAt = none) (due : Nat) :
    c.waitUntil due = .ok { c with now := max c.now due } := by
  simp [waitUntil, uncancelled]

end Clock

/-! ## The schedule of a session -/

/-- When a pass that started at `start` sends the last of `upTo`, the records it has sent so far:
at the start, plus the largest delay so far of a capture time past the first record's (a record
captured before the first is not held back). -/
def sendTime (start : Nat) : List Record → Nat
  | [] => start
  | first :: later =>
    start + ((first :: later).map fun r => r.timestampMs.toNat - first.timestampMs.toNat).foldl max 0

/-- The bytes a pass that started at `start` sends after `done`: each record's frame, every byte
at the time the record is sent. -/
def passSends (start : Nat) (done : List Record) : List Record → List (Nat × UInt8)
  | [] => []
  | record :: later =>
    record.frame.map (sendTime start (done ++ [record]), ·) ++ passSends start (done ++ [record]) later

/-- The bytes `more + 1` passes over `records` send, the first pass starting at `start` and each
later one `rewind` after the last send of the one before. -/
def sessionSends (start rewind : Nat) (records : List Record) : Nat → List (Nat × UInt8)
  | 0 => passSends start [] records
  | more + 1 => passSends start [] records ++ sessionSends (sendTime start records + rewind) rewind records more

/-- When the last of those `more + 1` passes ends: at its last send, or at its start if it sends
nothing. -/
def sessionEnd (start rewind : Nat) (records : List Record) : Nat → Nat
  | 0 => sendTime start records
  | more + 1 => sessionEnd (sendTime start records + rewind) rewind records more

/-- The records a session plays: those read from the start of the dump before the first error,
markers left out. -/
def played (dump : List UInt8) : List Record :=
  (Reader.ofBytes dump).records.filter fun record => !record.isMarker

theorem sendTime_snoc (start : Nat) (first : Record) (later : List Record) (record : Record) :
    sendTime start (first :: later ++ [record]) =
      max (sendTime start (first :: later)) (start + (record.timestampMs.toNat - first.timestampMs.toNat)) := by
  simp only [sendTime, List.cons_append, List.map_cons, List.map_append, List.map_nil, List.foldl_cons,
    List.foldl_append, List.foldl_nil, Nat.add_max_add_left]

/-- A record captured before the first of its pass goes out at once, and a later one no earlier
than the records before it. -/
example : passSends 0 [] [⟨10, [1]⟩, ⟨5, [2]⟩, ⟨30, [3]⟩, ⟨20, [4]⟩] =
    [(0, 1), (0, 2), (20, 3), (20, 4)] := by
  decide

theorem map_snd_passSends (start : Nat) (done records : List Record) :
    (passSends start done records).map Prod.snd = records.flatMap Record.frame := by
  induction records generalizing done with
  | nil => rfl
  | cons record later ih =>
      simp only [passSends, List.map_append, List.map_map, ih, List.flatMap_cons, Function.comp_def,
        List.map_id']

theorem map_snd_sessionSends (start rewind : Nat) (records : List Record) (more : Nat) :
    (sessionSends start rewind records more).map Prod.snd =
      (List.replicate (more + 1) (records.flatMap Record.frame)).flatten := by
  induction more generalizing start with
  | zero => simp [sessionSends, map_snd_passSends]
  | succ more ih =>
      rw [sessionSends, List.map_append, ih, map_snd_passSends]
      conv_rhs => rw [List.replicate_succ, List.flatten_cons]

namespace Scheduler

theorem describe_eq (s : Scheduler) (elapsed : Nat) (frame : List UInt8) :
    s.describe elapsed frame =
      { s with notes := (s.describe elapsed frame).notes, cursor := (s.describe elapsed frame).cursor } := by
  unfold describe
  split
  · dsimp only
    split_ifs <;> split <;> rfl
  · rfl

@[simp] theorem sink_describe (s : Scheduler) (elapsed : Nat) (frame : List UInt8) :
    (s.describe elapsed frame).sink = s.sink :=
  (congrArg Scheduler.sink (describe_eq s elapsed frame) :)

@[simp] theorem clock_describe (s : Scheduler) (elapsed : Nat) (frame : List UInt8) :
    (s.describe elapsed frame).clock = s.clock :=
  (congrArg Scheduler.clock (describe_eq s elapsed frame) :)

@[simp] theorem settings_describe (s : Scheduler) (elapsed : Nat) (frame : List UInt8) :
    (s.describe elapsed frame).settings = s.settings :=
  (congrArg Scheduler.settings (describe_eq s elapsed frame) :)

@[simp] theorem reader_describe (s : Scheduler) (elapsed : Nat) (frame : List UInt8) :
    (s.describe elapsed frame).reader = s.reader :=
  (congrArg Scheduler.reader (describe_eq s elapsed frame) :)

@[simp] theorem baseline_describe (s : Scheduler) (elapsed : Nat) (frame : List UInt8) :
    (s.describe elapsed frame).baseline = s.baseline :=
  (congrArg Scheduler.baseline (describe_eq s elapsed frame) :)

@[simp] theorem reference_describe (s : Scheduler) (elapsed : Nat) (frame : List UInt8) :
    (s.describe elapsed frame).reference = s.reference :=
  (congrArg Scheduler.reference (describe_eq s elapsed frame) :)

@[simp] theorem passes_describe (s : Scheduler) (elapsed : Nat) (frame : List UInt8) :
    (s.describe elapsed frame).passes = s.passes :=
  (congrArg Scheduler.passes (describe_eq s elapsed frame) :)

variable {s : Scheduler}

/-- When the scheduler sends `record`: when it is due, and never before now. -/
def sendAt (s : Scheduler) (record : Record) : Nat :=
  max s.clock.now (s.dueAt record)

theorem play_of_record {record : Record} {reader : Reader} (uncancelled : s.clock.cancelAt = none)
    (positive : 0 < s.settings.progressInterval) (accepting : s.sink.script.Accepting)
    (read : s.reader.next = (.ok record, reader)) (sent : record.isMarker = false) :
    ∃ next : Scheduler, (∀ fuel, play (fuel + 1) s = play fuel next) ∧
      next = { s with
        reader, baseline := some (s.baseline.getD record.timestampMs),
        reference := some (s.reference.getD s.clock.now),
        clock := { s.clock with now := sendAt s record },
        sink := (writeChunkedTo ByteSink.peer s.settings.ioTimeout s.sink (sendAt s record) record.frame).sink,
        notes := next.notes, cursor := next.cursor } := by
  let waited : Scheduler := { s with
    reader, baseline := some (s.baseline.getD record.timestampMs),
    reference := some (s.reference.getD s.clock.now), clock := { s.clock with now := sendAt s record } }
  let described := waited.describe (sendAt s record - s.reference.getD s.clock.now) record.frame
  refine ⟨{ waited with
      sink := (writeChunkedTo ByteSink.peer s.settings.ioTimeout s.sink (sendAt s record) record.frame).sink,
      notes := described.notes, cursor := described.cursor }, fun fuel => ?_, rfl⟩
  obtain ⟨nextReport, ended⟩ := waitUntilDue_of_positive { s with reader } record positive
  rw [Clock.waitUntil_of_uncancelled uncancelled] at ended
  have wait : ({ s with reader } : Scheduler).waitUntilDue record =
      (({ s with
            reader, baseline := some (s.baseline.getD record.timestampMs),
            reference := some (s.reference.getD s.clock.now) } : Scheduler),
        some (.ok (⟨{ s.clock with now := sendAt s record }, nextReport, _⟩,
          sendAt s record - s.reference.getD s.clock.now))) :=
    Prod.ext rfl ended
  have written := ByteSink.writeChunkedTo_of_accepting accepting s.settings.ioTimeout (sendAt s record)
    record.frame
  rw [play]
  simp only [Clock.cancelled_of_uncancelled uncancelled, read, sent, Bool.false_eq_true, ↓reduceIte, wait,
    sink_describe, clock_describe, settings_describe, reader_describe, baseline_describe, reference_describe,
    passes_describe, written.1, written.2.1]
  rfl

theorem play_of_marker {record : Record} {reader : Reader} (uncancelled : s.clock.cancelAt = none)
    (read : s.reader.next = (.ok record, reader)) (marker : record.isMarker = true) (fuel : Nat) :
    play (fuel + 1) s = play fuel { s with reader } := by
  rw [play]
  simp only [Clock.cancelled_of_uncancelled uncancelled, read, marker]
  rfl

theorem play_of_error {error : DumpError} {reader : Reader} {n : Nat}
    (uncancelled : s.clock.cancelAt = none) (limited : s.settings.maxPasses = some n)
    (read : s.reader.next = (.error error, reader)) :
    ∃ notes : Array Note, ∀ fuel, play (fuel + 1) s =
      if n ≤ s.passes + 1 then some { finish := .passesDone, endMs := s.clock.now, sink := s.sink, notes }
      else play fuel { s with
        reader := reader.rewind, clock := { s.clock with now := s.clock.now + s.settings.rewindPause },
        baseline := none, reference := none, cursor := {}, passes := s.passes + 1, notes } := by
  refine ⟨s.notes.push (if error.isEndOfDump then .endOfDump else .badRecord error), fun fuel => ?_⟩
  rw [play]
  simp only [Clock.cancelled_of_uncancelled uncancelled, read, Bool.false_eq_true, ↓reduceIte, note,
    passesDone, limited, Clock.waitUntil_of_uncancelled uncancelled, Nat.max_eq_right (Nat.le_add_right _ _)]
  by_cases done : n ≤ s.passes + 1
  · simp only [done, decide_true, ↓reduceIte]
    rfl
  · simp only [done, decide_false, Bool.false_eq_true, ↓reduceIte]
    rfl


/-! ## One pass -/

/-- A scheduler in a pass that started at `start` and has sent the records `done`, under a clock
that is never cancelled: the clock stands at the last send, and the pass's baseline and
reference come from its first record. -/
structure MidPass (s : Scheduler) (start : Nat) (done : List Record) : Prop where
  clock : s.clock = { now := sendTime start done, cancelAt := none }
  baseline : s.baseline = done.head?.map Record.timestampMs
  reference : s.reference = done.head?.map fun _ => start

/-- `later` goes on with the session of `s`: the same settings and pass count, the same dump,
and a sink under the same script. -/
structure Continues (s later : Scheduler) : Prop where
  settings : later.settings = s.settings
  passes : later.passes = s.passes
  data : later.reader.data = s.reader.data
  script : later.sink.script = s.sink.script

theorem Continues.refl (s : Scheduler) : Continues s s := ⟨rfl, rfl, rfl, rfl⟩

theorem Continues.trans {s middle later : Scheduler} (first : Continues s middle)
    (second : Continues middle later) : Continues s later :=
  ⟨second.settings.trans first.settings, second.passes.trans first.passes,
    second.data.trans first.data, second.script.trans first.script⟩

section MidPass

variable {start : Nat} {done : List Record}

theorem MidPass.uncancelled (mid : MidPass s start done) : s.clock.cancelAt = none := by
  rw [mid.clock]

theorem MidPass.sendAt_eq (mid : MidPass s start done) (record : Record) :
    sendAt s record = sendTime start (done ++ [record]) := by
  obtain ⟨clock, baseline, reference⟩ := mid
  cases done with
  | nil =>
      simp [sendAt, dueAt, clock, baseline, reference, sendTime]
  | cons first later =>
      simp only [List.head?_cons, Option.map_some] at baseline reference
      simp only [sendAt, dueAt, clock, baseline, reference, Option.getD_some, List.cons_append]
      rw [← List.cons_append, sendTime_snoc]

theorem MidPass.send {next : Scheduler} {record : Record} (mid : MidPass s start done)
    (clock : next.clock = { s.clock with now := sendAt s record })
    (baseline : next.baseline = some (s.baseline.getD record.timestampMs))
    (reference : next.reference = some (s.reference.getD s.clock.now)) :
    MidPass next start (done ++ [record]) := by
  refine ⟨?_, ?_, ?_⟩
  · rw [clock, mid.sendAt_eq, mid.clock]
  · cases done <;> simp [baseline, mid.baseline]
  · cases done <;> simp [reference, mid.reference, mid.clock, sendTime]

end MidPass

theorem play_pass {start : Nat} {done : List Record} (mid : MidPass s start done)
    (positive : 0 < s.settings.progressInterval) (accepting : s.sink.script.Accepting) :
    ∃ last : Scheduler, (∀ fuel, play (fuel + s.reader.records.length) s = play fuel last) ∧
      Continues s last ∧ MidPass last start (done ++ s.reader.records.filter fun r => !r.isMarker) ∧
      (∃ error reader, last.reader.next = (.error error, reader)) ∧
      last.sink.received =
        s.sink.received ++ passSends start done (s.reader.records.filter fun r => !r.isMarker) ∧
      last.sink.flushes = s.sink.flushes + (s.reader.records.filter fun r => !r.isMarker).length := by
  obtain ⟨r, readerEq⟩ : ∃ r, s.reader = r := ⟨_, rfl⟩
  induction r using Reader.records.induct generalizing s done with
  | case1 r record next read _ ih =>
      rw [readerEq, Reader.records_of_ok read]
      rw [← readerEq] at read
      cases marker : record.isMarker with
      | true =>
          have stepped := play_of_marker mid.uncancelled read marker
          obtain ⟨last, run, continues, midLast, ended, received, flushed⟩ :=
            ih (s := { s with reader := next }) ⟨mid.clock, mid.baseline, mid.reference⟩ positive accepting rfl
          refine ⟨last, fun fuel => ?_, ?_, ?_, ended, ?_, ?_⟩
          · rw [List.length_cons, ← Nat.add_assoc, stepped, run]
          · have skipped : Continues s { s with reader := next } :=
              ⟨rfl, rfl, Reader.data_of_next read, rfl⟩
            exact skipped.trans continues
          all_goals simpa [marker] using ‹_›
      | false =>
          obtain ⟨next', stepped, shape⟩ := play_of_record mid.uncancelled positive accepting read marker
          have written := ByteSink.writeChunkedTo_of_accepting accepting s.settings.ioTimeout
            (sendAt s record) record.frame
          have sink : next'.sink =
              (writeChunkedTo ByteSink.peer s.settings.ioTimeout s.sink (sendAt s record) record.frame).sink := by
            rw [shape]
          have midNext : MidPass next' start (done ++ [record]) :=
            mid.send (by rw [shape]) (by rw [shape]) (by rw [shape])
          have readerNext : next'.reader = next := by rw [shape]
          obtain ⟨last, run, continues, midLast, ended, received, flushed⟩ :=
            ih midNext (by rw [shape]; exact positive) (by rw [sink, written.2.2.1]; exact accepting) readerNext
          rw [readerNext] at run midLast received flushed
          refine ⟨last, fun fuel => ?_, ?_, ?_, ended, ?_, ?_⟩
          · rw [List.length_cons, ← Nat.add_assoc, stepped, run]
          · have sent : Continues s next' :=
              ⟨by rw [shape], by rw [shape], by rw [readerNext, Reader.data_of_next read],
                by rw [sink, written.2.2.1]⟩
            exact sent.trans continues
          · simpa [marker] using midLast
          · rw [received, sink, written.2.2.2.1, mid.sendAt_eq]
            simp [marker, passSends]
          · rw [flushed, sink, written.2.2.2.2]
            simp [marker]
            omega
  | case2 r error next read =>
      rw [← readerEq] at read
      have empty : s.reader.records = [] := Reader.records_of_error read
      refine ⟨s, fun fuel => by rw [empty]; rfl, Continues.refl s, by simpa [empty] using mid,
        ⟨error, next, read⟩, by simp [empty, passSends], by simp [empty]⟩

/-! ## A whole session -/

theorem play_passes {n : Nat} (more : Nat) {start : Nat} (mid : MidPass s start [])
    (fresh : s.reader = Reader.ofBytes s.reader.data) (limited : s.settings.maxPasses = some n)
    (remaining : s.passes + more + 1 = max n 1) (positive : 0 < s.settings.progressInterval)
    (accepting : s.sink.script.Accepting) :
    ∃ o : Outcome,
      (∀ fuel, play (fuel + (more + 1) * ((Reader.ofBytes s.reader.data).records.length + 1)) s = some o) ∧
      o.finish = .passesDone ∧
      o.sink.received = s.sink.received ++ sessionSends start s.settings.rewindPause (played s.reader.data) more ∧
      o.sink.flushes = s.sink.flushes + (more + 1) * (played s.reader.data).length ∧
      o.endMs = sessionEnd start s.settings.rewindPause (played s.reader.data) more := by
  induction more generalizing s start with
  | zero =>
      obtain ⟨last, run, continues, midLast, ⟨error, reader, read⟩, received, flushed⟩ := play_pass mid positive accepting
      rw [List.nil_append] at midLast
      obtain ⟨notes, ended⟩ := play_of_error midLast.uncancelled (continues.settings ▸ limited) read
      have done : n ≤ last.passes + 1 := by
        rw [continues.passes]
        omega
      refine ⟨{ finish := .passesDone, endMs := last.clock.now, sink := last.sink, notes },
        fun fuel => ?_, rfl, ?_, ?_, ?_⟩
      · rw [← fresh, Nat.zero_add, Nat.one_mul, Nat.add_comm s.reader.records.length 1, ← Nat.add_assoc,
          run, ended, if_pos done]
      · rw [received, sessionSends, played, ← fresh]
      · rw [flushed, played, ← fresh, Nat.zero_add, Nat.one_mul]
      · rw [midLast.clock, sessionEnd, played, ← fresh]
  | succ more ih =>
      obtain ⟨last, run, continues, midLast, ⟨error, reader, read⟩, received, flushed⟩ := play_pass mid positive accepting
      rw [List.nil_append] at midLast
      obtain ⟨notes, ended⟩ := play_of_error midLast.uncancelled (continues.settings ▸ limited) read
      have going : ¬ n ≤ last.passes + 1 := by
        rw [continues.passes]
        omega
      have data : reader.data = s.reader.data := (Reader.data_of_next read).trans continues.data
      have midNext : MidPass { last with
          reader := reader.rewind, clock := { last.clock with now := last.clock.now + last.settings.rewindPause },
          baseline := none, reference := none, cursor := {}, passes := last.passes + 1, notes }
          (sendTime start (s.reader.records.filter fun r => !r.isMarker) + s.settings.rewindPause) [] :=
        ⟨by simp [midLast.clock, continues.settings, sendTime], rfl, rfl⟩
      obtain ⟨o, run', finished, received', flushed', ended'⟩ := ih midNext rfl (continues.settings ▸ limited)
        (by simp only [continues.passes]; omega) (continues.settings ▸ positive) (continues.script ▸ accepting)
      have rewound : reader.rewind.data = s.reader.data := data
      simp only [rewound] at run' received' flushed' ended'
      refine ⟨o, fun fuel => ?_, finished, ?_, ?_, ?_⟩
      · have steps : fuel + (more + 1 + 1) * ((Reader.ofBytes s.reader.data).records.length + 1) =
            fuel + (more + 1) * ((Reader.ofBytes s.reader.data).records.length + 1) + 1 +
              (Reader.ofBytes s.reader.data).records.length := by ring
        rw [steps, ← fresh, run, ended, if_neg going, fresh, run']
      · rw [received', received, sessionSends, played, ← fresh, List.append_assoc, continues.settings]
      · rw [flushed', flushed, played, ← fresh]
        ring
      · rw [ended', sessionEnd, played, ← fresh, continues.settings]

theorem steps_le_fuelFor {settings : Settings} {n : Nat} (clock : Clock) (limited : settings.maxPasses = some n)
    (dump : List UInt8) :
    (n - 1 + 1) * ((Reader.ofBytes dump).records.length + 1) ≤ fuelFor settings clock dump := by
  have few : (Reader.ofBytes dump).records.length ≤ dump.length / 8 := Reader.length_records_le _
  have passes : n - 1 + 1 = max n 1 := by omega
  simp only [fuelFor, limited, passes]
  calc max n 1 * ((Reader.ofBytes dump).records.length + 1)
      ≤ max n 1 * (dump.length / 8 + 2) := Nat.mul_le_mul_left _ (by omega)
    _ ≤ (dump.length / 8 + 2) * (max n 1 + 1) := by rw [Nat.mul_comm]; exact Nat.mul_le_mul_left _ (by omega)
    _ ≤ (dump.length / 8 + 2) * (max n 1 + 1) + 1 := Nat.le_add_right _ _

theorem session_on_schedule (s : Scheduler) (n : Nat) (limited : s.settings.maxPasses = some n)
    (uncancelled : s.clock.cancelAt = none) (positive : 0 < s.settings.progressInterval)
    (accepting : s.sink.script.Accepting) :
    ∃ o, s.session = some o ∧ o.finish = .passesDone ∧
      o.sink.received = s.sink.received ++
        sessionSends (s.clock.now + s.settings.clientSettle) s.settings.rewindPause (played s.reader.data) (n - 1) ∧
      o.sink.flushes = s.sink.flushes + max n 1 * (played s.reader.data).length ∧
      o.endMs = sessionEnd (s.clock.now + s.settings.clientSettle) s.settings.rewindPause
        (played s.reader.data) (n - 1) := by
  have settled := Clock.waitUntil_of_uncancelled uncancelled (s.clock.now + s.settings.clientSettle)
  rw [Nat.max_eq_right (Nat.le_add_right _ _)] at settled
  have mid : MidPass ({ s with
      clock := { s.clock with now := s.clock.now + s.settings.clientSettle }, passes := 0 } : Scheduler).startPass
      (s.clock.now + s.settings.clientSettle) [] :=
    ⟨by simp [startPass, sendTime, uncancelled], rfl, rfl⟩
  obtain ⟨o, run, finished, received, flushed, ended⟩ :=
    play_passes (n - 1) mid rfl limited (by simp [startPass]; omega) positive accepting
  dsimp only [startPass, Reader.rewind] at run received flushed ended
  obtain ⟨extra, fuel⟩ := Nat.exists_eq_add_of_le'
    (steps_le_fuelFor { s.clock with now := s.clock.now + s.settings.clientSettle } limited s.reader.data)
  refine ⟨o, ?_, finished, received, ?_, ended⟩
  · rw [session, settled]
    dsimp only at fuel ⊢
    rw [fuel]
    exact run extra
  · rw [flushed, show n - 1 + 1 = max n 1 by omega]

/-- A session with a pass limit `n`, a clock never cancelled, a positive progress interval and a
sink that takes every write at once plays `max n 1` passes and reports them done, whatever state
earlier sessions left. The client receives the played records' frames once per pass, each byte at
its scheduled time: the first pass starts when the client has settled, a record goes out at the
pass's start plus the largest delay so far past the pass's first record, and the next pass starts
the rewind pause after the last send. The session ends at the last send of its last pass. -/
theorem session_plays_passes (s : Scheduler) (n : Nat) (limited : s.settings.maxPasses = some n)
    (uncancelled : s.clock.cancelAt = none) (positive : 0 < s.settings.progressInterval)
    (accepting : s.sink.script.Accepting) :
    ∃ o, s.session = some o ∧ o.finish = .passesDone ∧
      o.sink.received.map Prod.snd = s.sink.received.map Prod.snd ++
        (List.replicate (max n 1) ((played s.reader.data).flatMap Record.frame)).flatten ∧
      o.sink.received = s.sink.received ++
        sessionSends (s.clock.now + s.settings.clientSettle) s.settings.rewindPause (played s.reader.data) (n - 1) ∧
      o.sink.flushes = s.sink.flushes + max n 1 * (played s.reader.data).length ∧
      o.endMs = sessionEnd (s.clock.now + s.settings.clientSettle) s.settings.rewindPause
        (played s.reader.data) (n - 1) := by
  obtain ⟨o, run, finished, received, flushed, ended⟩ :=
    session_on_schedule s n limited uncancelled positive accepting
  refine ⟨o, run, finished, ?_, received, flushed, ended⟩
  rw [received, List.map_append, map_snd_sessionSends, show n - 1 + 1 = max n 1 by omega]

/-- Two passes over a dump of one record, captured at 1 ms and holding the byte 7, to a fresh
client. -/
theorem session_plays_two_passes :
    let s : Scheduler :=
      { settings := { maxPasses := some 2 }, reader := .ofBytes [0, 0, 0, 5, 0, 0, 0, 1, 7], clock := {},
        sink := {} }
    s.settings.maxPasses = some 2 ∧ s.clock.cancelAt = none ∧ 0 < s.settings.progressInterval ∧
      s.sink.script.Accepting ∧
      ∃ o, s.session = some o ∧ o.finish = .passesDone ∧
        o.sink.received.map Prod.snd = s.sink.received.map Prod.snd ++
          (List.replicate (max 2 1) ((played s.reader.data).flatMap Record.frame)).flatten ∧
        o.sink.received = s.sink.received ++
          sessionSends (s.clock.now + s.settings.clientSettle) s.settings.rewindPause (played s.reader.data)
            (2 - 1) ∧
        o.sink.flushes = s.sink.flushes + max 2 1 * (played s.reader.data).length ∧
        o.endMs = sessionEnd (s.clock.now + s.settings.clientSettle) s.settings.rewindPause
          (played s.reader.data) (2 - 1) := by
  intro s
  have accepting : s.sink.script.Accepting := ⟨rfl, rfl, by simp [s]⟩
  have positive : 0 < s.settings.progressInterval := by decide
  exact ⟨rfl, rfl, positive, accepting, session_plays_passes s 2 rfl rfl positive accepting⟩

end Scheduler

end LinkTap.Replay
