import Mathlib
import LinkTap.Proofs.Monitor.Counts
import LinkTap.Proofs.Frame.Decoding

/-!
# Each run of the monitor serves its connection alone

A run on any monitor is a run of a new monitor with the earlier counts added, and it stops at the
first read before which it finds its token cancelled. Main statement: `run_serves_connection_alone`.
-/

set_option autoImplicit false

namespace LinkTap

open LinkTap.Frame LinkTap.Telemetry

namespace Monitor

section Steps

variable {σ : Type} (sink : Sink σ) {session : Session} {stop : ReadEnd} {handled : Nat} {m : Monitor}
  {state : σ}

theorem serve_of_cancelled (seen : session.cancel.seen handled = true) (frames : List Packet) :
    serve sink session stop handled frames m state = some (m, state, .shutdown) := by
  rw [serve.eq_def, if_pos seen]

theorem serve_nil (unseen : session.cancel.seen handled = false) :
    serve sink session stop handled [] m state = (session.exit? stop).map fun exit => (m, state, exit) := by
  rw [serve, if_neg (Bool.eq_false_iff.mp unseen)]

theorem serve_cons (unseen : session.cancel.seen handled = false) (p : Packet) (rest : List Packet) :
    serve sink session stop handled (p :: rest) m state =
      serve sink session stop (handled + 1) rest (m.handlePacket sink state p).1 (m.handlePacket sink state p).2 := by
  rw [serve, if_neg (Bool.eq_false_iff.mp unseen)]

end Steps

variable {σ : Type} (sink : Sink σ) {session : Session} {stop : ReadEnd}

theorem serve_of_unseen (frames : List Packet) :
    ∀ {handled : Nat} {m : Monitor} {state : σ},
      (∀ i ≤ frames.length, session.cancel.seen (handled + i) = false) →
      serve sink session stop handled frames m state =
        (session.exit? stop).map fun exit =>
          ((m.handleAll sink state frames).1, (m.handleAll sink state frames).2, exit) := by
  induction frames with
  | nil =>
    intro handled m state unseen
    have first : session.cancel.seen handled = false := unseen 0 (Nat.zero_le _)
    exact serve_nil sink first
  | cons p rest ih =>
    intro handled m state unseen
    have later : ∀ i ≤ rest.length, session.cancel.seen (handled + 1 + i) = false := fun i within => by
      rw [Nat.add_assoc, Nat.add_comm 1 i]
      exact unseen (i + 1) (by simpa using within)
    have first : session.cancel.seen handled = false := unseen 0 (Nat.zero_le _)
    rw [serve_cons sink first, ih later]
    rfl

theorem serve_of_seen (frames : List Packet) :
    ∀ {handled count : Nat} {m : Monitor} {state : σ}, count ≤ frames.length →
      (∀ i < count, session.cancel.seen (handled + i) = false) →
      session.cancel.seen (handled + count) = true →
      serve sink session stop handled frames m state =
        some ((m.handleAll sink state (frames.take count)).1,
          (m.handleAll sink state (frames.take count)).2, .shutdown) := by
  induction frames with
  | nil =>
    intro handled count m state within _ seen
    obtain rfl : count = 0 := Nat.le_zero.mp within
    exact serve_of_cancelled sink seen []
  | cons p rest ih =>
    intro handled count m state within unseen seen
    cases count with
    | zero => exact serve_of_cancelled sink seen _
    | succ count =>
      have later : ∀ i < count, session.cancel.seen (handled + 1 + i) = false := fun i before => by
        rw [Nat.add_assoc, Nat.add_comm 1 i]
        exact unseen (i + 1) (by omega)
      have seenLater : session.cancel.seen (handled + 1 + count) = true := by
        rwa [Nat.add_assoc, Nat.add_comm 1 count]
      have first : session.cancel.seen handled = false := unseen 0 (Nat.succ_pos count)
      rw [serve_cons sink first, ih (by simpa using within) later seenLater]
      rfl

theorem serve_countedFrom (base : MonitorStats) (frames : List Packet) :
    ∀ {handled : Nat} {m : Monitor} {state : σ},
      serve sink session stop handled frames (m.countedFrom base) state =
        (serve sink session stop handled frames m state).map fun r => (r.1.countedFrom base, r.2) := by
  induction frames with
  | nil =>
    intro handled m state
    cases seen : session.cancel.seen handled with
    | true => rw [serve_of_cancelled sink seen, serve_of_cancelled sink seen]; rfl
    | false => rw [serve_nil sink seen, serve_nil sink seen, Option.map_map]; rfl
  | cons p rest ih =>
    intro handled m state
    cases seen : session.cancel.seen handled with
    | true => rw [serve_of_cancelled sink seen, serve_of_cancelled sink seen]; rfl
    | false =>
      rw [serve_cons sink seen, serve_cons sink seen]
      simp only [handlePacket_countedFrom]
      exact ih

theorem run_eq_run_new (m : Monitor) (state : σ) (session : Session) :
    m.run sink state session =
      (({} : Monitor).run sink state session).map fun r => (r.1.countedFrom m.stats, r.2) := by
  have reset : ({ m with cursor := {}, scanners := [] } : Monitor) = ({} : Monitor).countedFrom m.stats :=
    rfl
  simp only [run, reset, publish_countedFrom, serve_countedFrom]

end Monitor

namespace Frame.Inbound

theorem readFrom_of_prompt (i : Inbound) {timeout : Option Duration}
    (prompt : expiresAtOnce timeout = false) : i.readFrom timeout = i.read := by
  cases timeout with
  | none => rfl
  | some after => simp only [readFrom, prompt, Bool.false_eq_true, ↓reduceIte]

end Frame.Inbound

namespace Monitor

variable {σ : Type} (sink : Sink σ) (state : σ)

theorem run_of_closed (m : Monitor) (peer : String) (bytes : List UInt8) {timeout : Option Duration}
    (prompt : Inbound.expiresAtOnce timeout = false) :
    let connected := ({ m with cursor := {}, scanners := [] } : Monitor).publish sink state
      [.status ("Connected to " ++ peer)]
    let handled := connected.1.handleAll sink connected.2 (split bytes).1
    m.run sink state ⟨peer, ⟨bytes, true⟩, timeout, .never⟩ =
      some (handled.1, handled.2, .connectionEnded ((Decoder.endError (split bytes).2).getD .closed)) := by
  simp only [run, Inbound.readFrom_of_prompt _ prompt, read_closed]
  rw [serve_of_unseen sink _ fun _ _ => rfl]
  rfl

theorem run_of_seen (m : Monitor) (session : Session) {count : Nat}
    (within : count ≤ (session.inbound.readFrom session.readTimeout).1.length)
    (unseen : ∀ i < count, session.cancel.seen i = false) (seen : session.cancel.seen count = true) :
    let connected := ({ m with cursor := {}, scanners := [] } : Monitor).publish sink state
      [.status ("Connected to " ++ session.peer)]
    let handled := connected.1.handleAll sink connected.2
      ((session.inbound.readFrom session.readTimeout).1.take count)
    m.run sink state session = some (handled.1, handled.2, .shutdown) := by
  have unseenFromStart : ∀ i < count, session.cancel.seen (0 + i) = false := fun i before => by
    rw [Nat.zero_add]
    exact unseen i before
  have seenFromStart : session.cancel.seen (0 + count) = true := by rwa [Nat.zero_add]
  simp only [run]
  exact serve_of_seen sink _ within unseenFromStart seenFromStart

theorem handleAll_new_published (first : Event) (frames : List Packet) :
    ((({} : Monitor).publish sink state [first]).1.handleAll sink
        (({} : Monitor).publish sink state [first]).2 frames).2 =
      (sink.publishAll state (first :: publishedEvents [] frames)).1 := by
  have fresh : ∀ source, (({} : Monitor).publish sink state [first]).1.scanner source =
      scannerAfter source [] := fun _ => rfl
  have joined : first :: publishedEvents [] frames = [first] ++ publishedEvents [] frames := rfl
  rw [(handleAll_eq sink frames _ _ [] fresh).1, joined, Sink.publishAll_append]
  rfl

end Monitor

/-- A run of the monitor serves its connection alone. Whatever the monitor saw before, a run is
the run of a new monitor, with the earlier counts added to the new ones. On a connection that
delivers a byte stream in any chunks and then closes, with a token never cancelled and a read
timeout that does not end the first read at once, that run publishes that it is connected, then
exactly what a new monitor publishes handling the frames of the stream's greedy split, and ends
with the connection: cleanly if the stream ends on a frame boundary, and otherwise with the
incomplete frame the decoder reports. The token is looked at before every read: once it is found
cancelled, after `count` of the frames read, the run has handled exactly those and stops, however
many whole frames are waiting. -/
theorem run_serves_connection_alone {σ : Type} (sink : Sink σ) (m : Monitor) (state : σ) :
    (∀ session : Session, m.run sink state session =
      (({} : Monitor).run sink state session).map fun r => (r.1.countedFrom m.stats, r.2)) ∧
    (∀ (peer : String) (chunks : List (List UInt8)) (timeout : Option Duration),
      Frame.Inbound.expiresAtOnce timeout = false →
      let connected := ({} : Monitor).publish sink state [.status ("Connected to " ++ peer)]
      let handled := connected.1.handleAll sink connected.2 (split chunks.flatten).1
      ({} : Monitor).run sink state ⟨peer, ⟨chunks.flatten, true⟩, timeout, .never⟩ =
        some (handled.1, handled.2,
          .connectionEnded ((Decoder.endError (split chunks.flatten).2).getD .closed)) ∧
      handled.2 = (sink.publishAll state
        (.status ("Connected to " ++ peer) :: Monitor.publishedEvents [] (split chunks.flatten).1)).1) ∧
    (∀ (session : Session) (count : Nat),
      count ≤ (session.inbound.readFrom session.readTimeout).1.length →
      (∀ i < count, session.cancel.seen i = false) → session.cancel.seen count = true →
      let frames := ((session.inbound.readFrom session.readTimeout).1.take count)
      let connected := ({} : Monitor).publish sink state [.status ("Connected to " ++ session.peer)]
      let handled := connected.1.handleAll sink connected.2 frames
      ({} : Monitor).run sink state session = some (handled.1, handled.2, .shutdown) ∧
      handled.2 = (sink.publishAll state
        (.status ("Connected to " ++ session.peer) :: Monitor.publishedEvents [] frames)).1) := by
  refine ⟨Monitor.run_eq_run_new sink m state, fun peer chunks timeout prompt => ?_,
    fun session count within unseen seen => ?_⟩
  · exact ⟨Monitor.run_of_closed sink state {} peer chunks.flatten prompt,
      Monitor.handleAll_new_published sink state _ _⟩
  · exact ⟨Monitor.run_of_seen sink state {} session within unseen seen,
      Monitor.handleAll_new_published sink state _ _⟩

end LinkTap
