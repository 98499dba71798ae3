import Mathlib
import LinkTap.Proofs.Monitor.Sessions

/-!
# The monitor's counts over any history

Over any mix of runs and frames handed over, and whatever the sink answers, the counts are what
happened; main statement: `counts_account_for_history`.
-/

set_option autoImplicit false

namespace LinkTap

open LinkTap.Frame LinkTap.Traffic LinkTap.Telemetry

namespace Telemetry

def Event.messageCount : Event → Nat
  | .mavlinkBatch _ _ _ messages => messages.length
  | _ => 0

namespace Sink

variable {σ : Type}

/-- The sink that passes every event on to `sink` and writes it down with the answer. -/
def logged (sink : Sink σ) : Sink (σ × List (Event × Bool)) where
  publish := fun (state, log) event =>
    let (state, taken) := sink.publish state event
    ((state, log ++ [(event, taken)]), taken)

theorem publishAll_logged (sink : Sink σ) (state : σ) (log : List (Event × Bool)) (events : List Event) :
    ∃ entries : List (Event × Bool), entries.map Prod.fst = events ∧
      (sink.publishAll state events).2 = entries.countP (fun entry => !entry.2) ∧
      sink.logged.publishAll (state, log) events =
        (((sink.publishAll state events).1, log ++ entries), (sink.publishAll state events).2) := by
  induction events generalizing state log with
  | nil => exact ⟨[], rfl, rfl, by simp [publishAll]⟩
  | cons event later ih =>
    rcases answer : sink.publish state event with ⟨next, taken⟩
    have step : sink.logged.publish (state, log) event = ((next, log ++ [(event, taken)]), taken) := by
      simp [logged, answer]
    obtain ⟨entries, named, refused, published⟩ := ih next (log ++ [(event, taken)])
    refine ⟨(event, taken) :: entries, by simp [named], ?_, ?_⟩
    · cases taken <;> simp [publishAll, answer, refused]
    · cases taken <;> simp [publishAll, step, answer, published]

end Sink

end Telemetry

namespace Traffic

/-- The frames missing between two marks in a row: between two sequence numbers, their difference
less one, modulo 256; none across the start of a connection. -/
def gapBetween : Option UInt8 → Option UInt8 → Nat
  | some first, some second => (second.toNat + 255 - first.toNat) % 256
  | _, _ => 0

/-- The frames missing along marks that follow the mark `previous`: the gaps between every two
marks in a row. -/
def gapsAfter (previous : Option UInt8) : List (Option UInt8) → Nat
  | [] => 0
  | mark :: later => gapBetween previous mark + gapsAfter mark later

theorem gapsAfter_append (previous : Option UInt8) (marks more : List (Option UInt8)) :
    gapsAfter previous (marks ++ more) =
      gapsAfter previous marks + gapsAfter (marks.getLast?.getD previous) more := by
  induction marks generalizing previous with
  | nil => simp [gapsAfter]
  | cons mark later ih =>
    simp only [List.cons_append, gapsAfter, ih, List.getLast?_cons, Option.getD_some]
    omega

@[simp] theorem gapBetween_none (previous : Option UInt8) : gapBetween previous none = 0 := by
  cases previous <;> rfl

theorem gapBetween_some (last : Option UInt8) (seq : UInt8) :
    gapBetween last (some seq) = missingFrames (last.toList ++ [seq]) := by
  cases last <;> simp [gapBetween, missingFrames]

end Traffic

/-- The counts of a history: the frames handled and their bytes, the frames missing along the marks
of connection starts and sequence numbers, and from the log of published events with the sink's
answers, the messages of the batches and the refusals. -/
def countsOf (handled : List Packet) (marks : List (Option UInt8)) (log : List (Event × Bool)) :
    MonitorStats where
  frames := handled.length
  bytes := (handled.map fun p => 4 + p.payload.length).sum
  mavlinkMessages := (log.map fun entry => entry.1.messageCount).sum
  droppedFrames := gapsAfter none marks
  sinkFailures := log.countP fun entry => !entry.2

theorem sum_messageCount_of_events {entries : List (Event × Bool)} {events : List Event}
    (named : entries.map Prod.fst = events) :
    (entries.map fun entry => entry.1.messageCount).sum = (events.map Event.messageCount).sum := by
  rw [← named, List.map_map]
  rfl

namespace Monitor

variable {σ τ : Type}

/-- What a monitor is asked to do: serve a connection, or handle one frame directly. -/
inductive Request where
  | serve (session : Session)
  | handle (packet : Packet)

namespace Request

/-- The frames a run handles out of those it reads, having handled `count`: each one before which
it does not find the token cancelled, up to the first before which it does. -/
def handledFrom (cancel : Cancellation) (count : Nat) : List Packet → List Packet
  | [] => []
  | p :: rest => if cancel.seen count then [] else p :: handledFrom cancel (count + 1) rest

/-- The frames a request has the monitor handle: the frame handed over, or the frames a run reads
up to the first read before which it finds its token cancelled. -/
def handled : Request → List Packet
  | .serve session => handledFrom session.cancel 0 (session.inbound.readFrom session.readTimeout).1
  | .handle p => [p]

/-- The marks of a request: a run starts its connection afresh (`none`) before the sequence
numbers of its frames. -/
def marks : Request → List (Option UInt8)
  | .serve session => none :: (Request.serve session).handled.map fun p => some p.seq
  | .handle p => [some p.seq]

end Request

/-- The start of a run: the cursor and scanners start afresh and the connection is announced. -/
def connect (sink : Sink σ) (m : Monitor) (state : σ) (peer : String) : Monitor × σ :=
  ({ m with cursor := {}, scanners := [] } : Monitor).publish sink state [.status ("Connected to " ++ peer)]

def perform (sink : Sink σ) (m : Monitor) (state : σ) : Request → Option (Monitor × σ)
  | .serve session => (m.run sink state session).map fun r => (r.1, r.2.1)
  | .handle p => some (m.handlePacket sink state p)

/-- Carries out requests in order; none when a run among them waits forever. -/
def performAll (sink : Sink σ) (m : Monitor) (state : σ) : List Request → Option (Monitor × σ)
  | [] => some (m, state)
  | request :: later => (m.perform sink state request).bind fun r => r.1.performAll sink r.2 later

theorem handleAll_cons (sink : Sink σ) (m : Monitor) (state : σ) (p : Packet) (later : List Packet) :
    m.handleAll sink state (p :: later) =
      (m.handlePacket sink state p).1.handleAll sink (m.handlePacket sink state p).2 later := rfl

theorem handlePacket_eq (sink : Sink σ) (m : Monitor) (state : σ) (p : Packet) :
    m.handlePacket sink state p = (m.handle p).1.publish sink state (m.handle p).2 := rfl

theorem handle_accounted (m : Monitor) (p : Packet) :
    ∃ batch : List Event, (m.handle p).2 = .frame p :: batch ∧
      (m.handle p).1.stats = m.stats +
        { frames := 1
          bytes := 4 + p.payload.length
          mavlinkMessages := (batch.map Event.messageCount).sum
          droppedFrames := missingFrames (m.cursor.last.toList ++ [p.seq]) } := by
  rw [← SequenceCursor.dropped_observe]
  simp only [handle]
  split
  · exact ⟨[], rfl, by simp [MonitorStats.add_eq, Packet.wireLen, headerLen]⟩
  · split
    · exact ⟨[], rfl, by simp [MonitorStats.add_eq, Packet.wireLen, headerLen, withScanner]⟩
    · rename_i batch made
      simp only [batchOf, Option.ite_none_left_eq_some, Option.some.injEq] at made
      obtain ⟨-, rfl⟩ := made
      exact ⟨_, rfl, by simp [Event.messageCount, MonitorStats.add_eq, Packet.wireLen, headerLen, withScanner]⟩

theorem publish_logged (sink : Sink σ) (m : Monitor) (state : σ) (log : List (Event × Bool))
    (events : List Event) :
    ∃ entries : List (Event × Bool), entries.map Prod.fst = events ∧
      m.publish sink.logged (state, log) events =
        ((m.publish sink state events).1, (m.publish sink state events).2, log ++ entries) ∧
      (m.publish sink state events).1 =
        { m with stats := m.stats + { sinkFailures := entries.countP fun entry => !entry.2 } } := by
  obtain ⟨entries, named, refused, published⟩ := sink.publishAll_logged state log events
  refine ⟨entries, named, ?_, ?_⟩
  · simp [publish, published]
  · simp [publish, refused, MonitorStats.add_eq]

/-- A monitor whose counts are those of a history, given the frames handled, the marks of
connection starts and sequence numbers, and the log of published events with the sink's answers,
and whose cursor is at the last mark. -/
structure Accounts (handled : List Packet) (marks : List (Option UInt8)) (m : Monitor)
    (log : List (Event × Bool)) : Prop where
  stats : m.stats = countsOf handled marks log
  cursor : m.cursor.last = marks.getLast?.getD none

theorem accounts_new : Accounts [] [] {} [] := ⟨rfl, rfl⟩

theorem Accounts.handlePacket {handled : List Packet} {marks : List (Option UInt8)} {m : Monitor}
    {log : List (Event × Bool)} (accounts : Accounts handled marks m log) (sink : Sink σ) (state : σ)
    (p : Packet) :
    ∃ entries : List (Event × Bool),
      m.handlePacket sink.logged (state, log) p =
        ((m.handlePacket sink state p).1, (m.handlePacket sink state p).2, log ++ entries) ∧
      Accounts (handled ++ [p]) (marks ++ [some p.seq]) (m.handlePacket sink state p).1 (log ++ entries) := by
  obtain ⟨batch, events, counted⟩ := handle_accounted m p
  obtain ⟨entries, named, published, refusals⟩ := publish_logged sink (m.handle p).1 state log (m.handle p).2
  have messages : (entries.map fun entry => entry.1.messageCount).sum = (batch.map Event.messageCount).sum := by
    rw [sum_messageCount_of_events (named.trans events)]
    simp [Event.messageCount]
  refine ⟨entries, published, ⟨?_, ?_⟩⟩
  · rw [handlePacket_eq, refusals, counted, accounts.stats, accounts.cursor, ← gapBetween_some]
    simp [countsOf, gapsAfter_append, gapsAfter, MonitorStats.add_eq, messages]
  · rw [handlePacket_eq, refusals]
    simp

theorem Accounts.connect {handled : List Packet} {marks : List (Option UInt8)} {m : Monitor}
    {log : List (Event × Bool)} (accounts : Accounts handled marks m log) (sink : Sink σ) (state : σ)
    (peer : String) :
    ∃ entries : List (Event × Bool),
      m.connect sink.logged (state, log) peer =
        ((m.connect sink state peer).1, (m.connect sink state peer).2, log ++ entries) ∧
      Accounts handled (marks ++ [none]) (m.connect sink state peer).1 (log ++ entries) := by
  obtain ⟨entries, named, published, refusals⟩ := publish_logged sink
    ({ m with cursor := {}, scanners := [] } : Monitor) state log [.status ("Connected to " ++ peer)]
  have messages : (entries.map fun entry => entry.1.messageCount).sum = 0 := by
    rw [sum_messageCount_of_events named]
    rfl
  refine ⟨entries, published, ⟨?_, ?_⟩⟩
  · rw [Monitor.connect, refusals]
    simp [countsOf, gapsAfter_append, gapsAfter, MonitorStats.add_eq, messages, accounts.stats]
  · rw [Monitor.connect, refusals]
    simp

theorem run_eq_connect (sink : Sink σ) (m : Monitor) (state : σ) (session : Session) :
    m.run sink state session =
      let started := m.connect sink state session.peer
      let read := session.inbound.readFrom session.readTimeout
      serve sink session read.2 0 read.1 started.1 started.2 := rfl

/-- A relation between two monitors, each with its own sink and that sink's state, given the
frames handled so far and the marks of connection starts and sequence numbers, that handling a
frame and starting a connection keep. -/
structure Simulation (sink : Sink σ) (other : Sink τ)
    (R : List Packet → List (Option UInt8) → Monitor × σ → Monitor × τ → Prop) : Prop where
  handle : ∀ {handled marks x y} (p : Packet), R handled marks x y →
    R (handled ++ [p]) (marks ++ [some p.seq]) (x.1.handlePacket sink x.2 p) (y.1.handlePacket other y.2 p)
  connect : ∀ {handled marks x y} (peer : String), R handled marks x y →
    R handled (marks ++ [none]) (x.1.connect sink x.2 peer) (y.1.connect other y.2 peer)

private theorem rel_map {α β γ δ : Type} {S : α → β → Prop} {T : γ → δ → Prop} {f : α → γ} {g : β → δ}
    {a : Option α} {b : Option β} (related : Option.Rel S a b) (keeps : ∀ {u v}, S u v → T (f u) (g v)) :
    Option.Rel T (a.map f) (b.map g) := by
  cases related with
  | some holds => exact .some (keeps holds)
  | none => exact .none

private theorem rel_bind {α β γ δ : Type} {S : α → β → Prop} {T : γ → δ → Prop}
    {f : α → Option γ} {g : β → Option δ} {a : Option α} {b : Option β} (related : Option.Rel S a b)
    (keeps : ∀ {u v}, S u v → Option.Rel T (f u) (g v)) : Option.Rel T (a.bind f) (b.bind g) := by
  cases related with
  | some holds => exact keeps holds
  | none => exact .none

namespace Simulation

variable {sink : Sink σ} {other : Sink τ} {R : List Packet → List (Option UInt8) → Monitor × σ → Monitor × τ → Prop}

theorem handleAll (sim : Simulation sink other R) (frames : List Packet) :
    ∀ {handled marks x y}, R handled marks x y →
      R (handled ++ frames) (marks ++ frames.map fun p => some p.seq)
        (x.1.handleAll sink x.2 frames) (y.1.handleAll other y.2 frames) := by
  induction frames with
  | nil =>
    intro handled marks x y related
    rw [List.append_nil, List.map_nil, List.append_nil]
    exact related
  | cons p later ih =>
    intro handled marks x y related
    rw [handleAll_cons, handleAll_cons]
    simpa using ih (sim.handle p related)

theorem serve (sim : Simulation sink other R) (session : Session) (stop : ReadEnd) (frames : List Packet) :
    ∀ {count handled marks x y}, R handled marks x y →
      Option.Rel
        (fun r s => R (handled ++ Request.handledFrom session.cancel count frames)
          (marks ++ (Request.handledFrom session.cancel count frames).map fun p => some p.seq)
          (r.1, r.2.1) (s.1, s.2.1) ∧ r.2.2 = s.2.2)
        (Monitor.serve sink session stop count frames x.1 x.2)
        (Monitor.serve other session stop count frames y.1 y.2) := by
  induction frames with
  | nil =>
    intro count handled marks x y related
    cases seen : session.cancel.seen count with
    | true =>
      rw [Monitor.serve_of_cancelled sink seen, Monitor.serve_of_cancelled other seen]
      exact .some ⟨by simpa [Request.handledFrom] using related, rfl⟩
    | false =>
      rw [Monitor.serve_nil sink seen, Monitor.serve_nil other seen]
      cases session.exit? stop with
      | none => exact .none
      | some exit => exact .some ⟨by simpa [Request.handledFrom] using related, rfl⟩
  | cons p rest ih =>
    intro count handled marks x y related
    cases seen : session.cancel.seen count with
    | true =>
      rw [Monitor.serve_of_cancelled sink seen, Monitor.serve_of_cancelled other seen]
      exact .some ⟨by simpa [Request.handledFrom, seen] using related, rfl⟩
    | false =>
      rw [Monitor.serve_cons sink seen, Monitor.serve_cons other seen]
      simpa [Request.handledFrom, seen] using ih (sim.handle p related)

theorem run (sim : Simulation sink other R) (session : Session) {handled marks x y}
    (related : R handled marks x y) :
    Option.Rel
      (fun r s => R (handled ++ (Request.serve session).handled) (marks ++ (Request.serve session).marks)
        (r.1, r.2.1) (s.1, s.2.1) ∧ r.2.2 = s.2.2)
      (x.1.run sink x.2 session) (y.1.run other y.2 session) := by
  rw [run_eq_connect, run_eq_connect]
  simpa [Request.handled, Request.marks] using sim.serve session _ _ (sim.connect session.peer related)

theorem perform (sim : Simulation sink other R) (request : Request) {handled marks x y}
    (related : R handled marks x y) :
    Option.Rel (R (handled ++ request.handled) (marks ++ request.marks))
      (x.1.perform sink x.2 request) (y.1.perform other y.2 request) := by
  cases request with
  | serve session => exact rel_map (sim.run session related) fun kept => kept.1
  | handle p => exact .some (sim.handle p related)

theorem performAll (sim : Simulation sink other R) (requests : List Request) :
    ∀ handled marks x y, R handled marks x y →
      Option.Rel (R (handled ++ requests.flatMap Request.handled) (marks ++ requests.flatMap Request.marks))
        (x.1.performAll sink x.2 requests) (y.1.performAll other y.2 requests) := by
  induction requests with
  | nil =>
    intro handled marks x y related
    rw [List.flatMap_nil, List.append_nil, List.flatMap_nil, List.append_nil]
    exact .some related
  | cons request later ih =>
    intro handled marks x y related
    refine rel_bind (sim.perform request related) fun kept => ?_
    simpa using ih _ _ _ _ kept

end Simulation

theorem logged_simulation (sink : Sink σ) :
    Simulation sink.logged sink fun handled marks x y =>
      x.1 = y.1 ∧ x.2.1 = y.2 ∧ Accounts handled marks x.1 x.2.2 where
  handle := by
    rintro handled marks ⟨m, state, log⟩ ⟨m', state'⟩ p ⟨same, sameState, accounts⟩
    dsimp only at same sameState accounts ⊢
    subst same sameState
    obtain ⟨entries, published, kept⟩ := accounts.handlePacket sink state p
    rw [published]
    exact ⟨rfl, rfl, kept⟩
  connect := by
    rintro handled marks ⟨m, state, log⟩ ⟨m', state'⟩ peer ⟨same, sameState, accounts⟩
    dsimp only at same sameState accounts ⊢
    subst same sameState
    obtain ⟨entries, published, kept⟩ := accounts.connect sink state peer
    rw [published]
    exact ⟨rfl, rfl, kept⟩

/-- The monitor apart from what its sink's answers decide: with no refusals counted. -/
def apartFromSink (m : Monitor) : Monitor := { m with stats := { m.stats with sinkFailures := 0 } }

theorem apartFromSink_publish (sink : Sink σ) (m : Monitor) (state : σ) (events : List Event) :
    (m.publish sink state events).1.apartFromSink = m.apartFromSink := rfl

theorem countedFrom_apartFromSink (m : Monitor) :
    m.apartFromSink.countedFrom { sinkFailures := m.stats.sinkFailures } = m := by
  simp [countedFrom, apartFromSink, MonitorStats.add_eq]

theorem apartFromSink_countedFrom (m : Monitor) (refused : Nat) :
    (m.countedFrom { sinkFailures := refused }).apartFromSink = m.apartFromSink := by
  simp [countedFrom, apartFromSink, MonitorStats.add_eq]

theorem apartFromSink_handle (m : Monitor) (p : Packet) :
    (m.handle p).1.apartFromSink = (m.apartFromSink.handle p).1.apartFromSink := by
  conv_lhs => rw [← countedFrom_apartFromSink m]
  rw [handle_countedFrom, apartFromSink_countedFrom]

theorem apart_simulation (sink : Sink σ) (other : Sink τ) :
    Simulation sink other fun _ _ x y => x.1.apartFromSink = y.1.apartFromSink where
  handle := by
    intro _ _ x y p same
    rw [handlePacket_eq, handlePacket_eq, apartFromSink_publish, apartFromSink_publish,
      apartFromSink_handle, same, ← apartFromSink_handle]
  connect := by
    intro _ _ x y peer same
    rw [connect, connect, apartFromSink_publish, apartFromSink_publish]
    exact congrArg (fun m : Monitor => ({ m with cursor := {}, scanners := [] } : Monitor)) same

private theorem map_eq_of_rel {α β γ : Type} {S : α → β → Prop} {f : α → γ} {g : β → γ}
    {a : Option α} {b : Option β} (related : Option.Rel S a b) (same : ∀ {u v}, S u v → f u = g v) :
    a.map f = b.map g := by
  cases related with
  | some holds => exact congrArg some (same holds)
  | none => rfl

/-- Over any history of runs and frames handed over directly, from a new monitor and whatever its
sink answers, the monitor has counted the frames handled and their bytes, the frames missing
between the sequence numbers of frames handled one after the other with no connection started
between them, and, read off the log of the events published with the sink's answers, the
messages of the batches and the refusals. All it holds apart from the refusals, its other counts,
its cursor and its scanners, is the same with any other sink. -/
theorem counts_account_for_history (sink : Sink σ) (state : σ) (other : Sink τ) (otherState : τ)
    (requests : List Request) :
    (({} : Monitor).performAll sink state requests).map (fun r => r.1.stats) =
        (({} : Monitor).performAll sink.logged (state, []) requests).map (fun r =>
          countsOf (requests.flatMap Request.handled) (requests.flatMap Request.marks) r.2.2) ∧
      (({} : Monitor).performAll sink state requests).map (fun r => r.1.apartFromSink) =
        (({} : Monitor).performAll other otherState requests).map (fun r => r.1.apartFromSink) := by
  have logged := (logged_simulation sink).performAll requests [] [] (({} : Monitor), (state, [])) ({}, state)
    ⟨rfl, rfl, accounts_new⟩
  have apart := (apart_simulation sink other).performAll requests [] [] (({} : Monitor), state) ({}, otherState) rfl
  simp only [List.nil_append] at logged
  refine ⟨(map_eq_of_rel logged fun ⟨same, _, accounts⟩ => ?_).symm, map_eq_of_rel apart id⟩
  rw [← accounts.stats, same]

example : (({} : Monitor).performAll Recorder.sink { online := false }
    [.handle ⟨2, 1, [7, 7]⟩, .handle ⟨2, 5, []⟩]).map (fun r => r.1.stats) =
    some { frames := 2, bytes := 10, droppedFrames := 3, sinkFailures := 2 } := by
  decide


end Monitor

end LinkTap
