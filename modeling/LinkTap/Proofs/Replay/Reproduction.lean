import Mathlib
import LinkTap.Replay.Server
import LinkTap.Proofs.Replay.Passes
import LinkTap.Proofs.Monitor.Sessions

/-!
# Replaying a dump into the monitor

A monitor reading the connection a replay server serves to its first client handles the dump's
packets once per pass; main statement: `replay_reproduces_dump`.
-/

set_option autoImplicit false

namespace LinkTap

open LinkTap.Frame LinkTap.Dump LinkTap.Channel LinkTap.Telemetry LinkTap.Traffic LinkTap.Replay

namespace Channel.ByteSink

theorem map_snd_received (s : ByteSink) : s.received.map Prod.snd = s.writes.toList.flatMap Prod.snd := by
  simp [received, List.map_flatMap]

end Channel.ByteSink

namespace Frame

theorem flatMap_eq_wireBytes {records : List Record} {packets : List Packet}
    (wellFormed : List.Forall₂ (fun record p => p.toBytes = .ok record.frame) records packets) :
    records.flatMap Record.frame = packets.flatMap Packet.wireBytes ∧
      ∀ p ∈ packets, p.payload.length ≤ maxPayloadLen := by
  induction wellFormed with
  | nil => simp
  | cons written _ ih =>
      obtain ⟨fits, joined⟩ := (Packet.toBytes_eq_ok_iff _ _).mp written
      obtain ⟨restJoined, restFit⟩ := ih
      refine ⟨?_, ?_⟩
      · rw [List.flatMap_cons, List.flatMap_cons, joined, restJoined]
        rfl
      · intro p member
        rcases List.mem_cons.mp member with same | later
        · exact same ▸ fits
        · exact restFit p later

theorem split_flatMap_wireBytes {packets : List Packet}
    (fit : ∀ p ∈ packets, p.payload.length ≤ maxPayloadLen) :
    split (packets.flatMap Packet.wireBytes) = (packets, []) :=
  split_of_splits ⟨by simp, fit, by simp [IsPartialFrame, headerLen]⟩

end Frame

namespace Replay

theorem flatten_replicate_flatMap {α : Type} (count : Nat) (items : List α) (bytes : α → List UInt8) :
    (List.replicate count (items.flatMap bytes)).flatten = (List.replicate count items).flatten.flatMap bytes := by
  induction count with
  | zero => rfl
  | succ count ih => rw [List.replicate_succ, List.flatten_cons, List.replicate_succ, List.flatten_cons,
      List.flatMap_append, ih]

variable (settings : Settings) {n : Nat} (limited : settings.maxPasses = some n)
  (positive : 0 < settings.progressInterval) (script : SinkScript) (accepting : script.Accepting)
  (dump : List UInt8) {packets : List Packet}
  (wellFormed : List.Forall₂ (fun record p => p.toBytes = .ok record.frame) (played dump) packets)
include limited positive accepting wellFormed

theorem serveFirstClient_stream :
    ∃ o : Outcome, serveFirstClient settings none script dump = some (o, o.clientStream) ∧
      o.finish = .passesDone ∧
      o.clientStream = ⟨(List.replicate (max n 1) packets).flatten.flatMap Packet.wireBytes, true⟩ := by
  obtain ⟨o, played, finished, received, -, -⟩ := Scheduler.session_on_schedule
    ({ settings, clock := { cancelAt := none }, sink := { script }, reader := Reader.ofBytes dump } : Scheduler)
    n limited rfl positive accepting
  obtain ⟨frames, -⟩ := flatMap_eq_wireBytes wellFormed
  refine ⟨o, by simp only [serveFirstClient, runSession, played, Option.map_some], finished, ?_⟩
  have fresh : ({ script } : ByteSink).received = [] := rfl
  have sameData : (Reader.ofBytes dump).data = dump := rfl
  replace received := congrArg (List.map Prod.snd) received
  rw [fresh, List.nil_append, ByteSink.map_snd_received, map_snd_sessionSends,
    show n - 1 + 1 = max n 1 by omega] at received
  simp only [Outcome.clientStream, received, sameData, frames, flatten_replicate_flatMap]

end Replay

/-- A dump replayed into the monitor comes out as it went in. Take a server with a pass limit `n`
and no cancellation, whose first client takes every write at once, and a dump whose replayed
frames, the records read before its first error with the markers left out, are the bytes of
`packets`. The session ends with its passes done. A monitor reading that client's stream, with no
read timeout and no cancellation, handles the packets `max n 1` times over in order, then ends with
the connection closed on a frame boundary. Its count of dropped frames grows by the gaps between
consecutive sequence numbers of that whole run of packets, the jump from the end of one pass to
the start of the next included. -/
theorem replay_reproduces_dump {σ : Type} (settings : Settings) {n : Nat}
    (limited : settings.maxPasses = some n) (positive : 0 < settings.progressInterval)
    (script : SinkScript) (accepting : script.Accepting)
    (dump : List UInt8) (packets : List Packet)
    (wellFormed : List.Forall₂ (fun record p => p.toBytes = .ok record.frame) (played dump) packets)
    (sink : Sink σ) (m : Monitor) (state : σ) (peer : String) :
    ∃ o : Outcome, serveFirstClient settings none script dump = some (o, o.clientStream) ∧
      o.finish = .passesDone ∧
      let connected := ({ m with cursor := {}, scanners := [] } : Monitor).publish sink state
        [.status ("Connected to " ++ peer)]
      let handled := connected.1.handleAll sink connected.2 (List.replicate (max n 1) packets).flatten
      m.run sink state ⟨peer, o.clientStream, none, .never⟩ =
          some (handled.1, handled.2, .connectionEnded .closed) ∧
        handled.1.stats.droppedFrames =
          m.stats.droppedFrames + missingFrames ((List.replicate (max n 1) packets).flatten.map Packet.seq) := by
  obtain ⟨o, served, finished, stream⟩ :=
    serveFirstClient_stream settings limited positive script accepting dump wellFormed
  have fit : ∀ p ∈ (List.replicate (max n 1) packets).flatten, p.payload.length ≤ maxPayloadLen := by
    intro p member
    obtain ⟨copy, copied, inCopy⟩ := List.mem_flatten.mp member
    rw [(List.mem_replicate.mp copied).2] at inCopy
    exact (flatMap_eq_wireBytes wellFormed).2 p inCopy
  refine ⟨o, served, finished, ?_, ?_⟩
  · rw [stream, Monitor.run_of_closed sink state m peer _ rfl, split_flatMap_wireBytes fit]
    rfl
  · rw [Monitor.droppedFrames_handleAll]
    rfl

/-- A dump of one record, a ping with sequence number 5 captured at 1 ms, replayed twice to a
monitor that records what it publishes. -/
theorem replay_reproduces_one_ping :
    let settings : Settings := { maxPasses := some 2 }
    let dump : List UInt8 := [0, 0, 0, 8, 0, 0, 0, 1, 8, 5, 0, 0]
    let packets : List Packet := [⟨8, 5, []⟩]
    settings.maxPasses = some 2 ∧ 0 < settings.progressInterval ∧ ({} : SinkScript).Accepting ∧
      List.Forall₂ (fun record p => p.toBytes = .ok record.frame) (played dump) packets ∧
      ∃ o : Outcome, serveFirstClient settings none {} dump = some (o, o.clientStream) ∧
        o.finish = .passesDone ∧
        let connected := ({ ({} : Monitor) with cursor := {}, scanners := [] } : Monitor).publish
          Recorder.sink {} [.status ("Connected to " ++ "peer")]
        let handled := connected.1.handleAll Recorder.sink connected.2
          (List.replicate (max 2 1) packets).flatten
        ({} : Monitor).run Recorder.sink {} ⟨"peer", o.clientStream, none, .never⟩ =
            some (handled.1, handled.2, .connectionEnded .closed) ∧
          handled.1.stats.droppedFrames =
            ({} : Monitor).stats.droppedFrames +
              missingFrames ((List.replicate (max 2 1) packets).flatten.map Packet.seq) := by
  intro settings dump packets
  have first : (Reader.ofBytes dump).next = (.ok ⟨1, [8, 5, 0, 0]⟩, { data := dump, rest := [], offset := 12 }) :=
    rfl
  have ended : Reader.next { data := dump, rest := [], offset := 12 } =
      (.error (.shortRead 4 0), { data := dump, rest := [], offset := 12 }) := rfl
  have wellFormed : List.Forall₂ (fun record p => p.toBytes = .ok record.frame) (played dump) packets := by
    rw [played, Reader.records_of_ok first, Reader.records_of_error ended]
    exact .cons rfl .nil
  have accepting : ({} : SinkScript).Accepting := ⟨rfl, rfl, by simp⟩
  have positive : 0 < settings.progressInterval := by decide
  exact ⟨rfl, positive, accepting, wellFormed,
    replay_reproduces_dump settings rfl positive {} accepting dump packets wellFormed Recorder.sink {} {} "peer"⟩

end LinkTap
