import Mathlib
import LinkTap.Telemetry.Bridge

/-!
# What the bridge delivers

One invariant of every interleaving a bridge goes through (`Bridge.Invariant`), and from it
`bridge_delivers_in_order`.
-/

set_option autoImplicit false

namespace LinkTap.Telemetry

def Writer.stopped : Writer → Bool
  | .returning | .aborted | .gone => true
  | _ => false

theorem Writer.afterWrite_ne_sending (m m' : WsMessage) (delivered : Bool) :
    Writer.afterWrite m delivered ≠ .sending m' := by
  cases m <;> cases delivered <;> simp [afterWrite]

theorem Writer.text_of_afterWrite {m : WsMessage} {delivered : Bool}
    (back : Writer.afterWrite m delivered = .waiting) : m ≠ .close ∧ delivered = true := by
  cases m <;> cases delivered <;> simp_all [afterWrite]

namespace Call

theorem bind_text? (c : Call) : c.message?.bind WsMessage.text? = c.acceptedText? := by
  cases c with
  | publish json result => cases result <;> rfl
  | close result => cases result <;> rfl

theorem message?_eq_close_iff (c : Call) : c.message? = some .close ↔ c = .close (.ok ()) := by
  cases c with
  | publish json result => cases result <;> simp [message?]
  | close result => cases result <;> simp [message?]

theorem filterMap_text?_message? (calls : List Call) :
    (calls.filterMap message?).filterMap WsMessage.text? = calls.filterMap acceptedText? := by
  rw [List.filterMap_filterMap]
  exact List.filterMap_congr fun c _ => bind_text? c

theorem filterMap_message?_of_not_mem {calls : List Call} (noClose : Call.close (.ok ()) ∉ calls) :
    calls.filterMap message? = (calls.filterMap acceptedText?).map .text := by
  rw [List.map_filterMap]
  refine List.filterMap_congr fun c member => ?_
  cases c with
  | publish json result => cases result <;> rfl
  | close result =>
    cases result with
    | ok u => exact absurd member noClose
    | error e => rfl

theorem split_at_close {calls : List Call} {before rest : List WsMessage}
    (queued : calls.filterMap message? = before ++ .close :: rest) (first : WsMessage.close ∉ before) :
    ∃ callsBefore callsAfter : List Call, calls = callsBefore ++ Call.close (.ok ()) :: callsAfter ∧
      Call.close (.ok ()) ∉ callsBefore ∧ callsBefore.filterMap message? = before := by
  obtain ⟨front, back, rfl, frontQueued, backQueued⟩ := List.filterMap_eq_append_iff.mp queued
  obtain ⟨skipped, c, callsAfter, rfl, none_of_skipped, closes, -⟩ :=
    List.filterMap_eq_cons_iff.mp backQueued
  have isClose : c = .close (.ok ()) := (message?_eq_close_iff c).mp closes
  have skippedQueued : skipped.filterMap message? = [] := List.filterMap_eq_nil_iff.mpr none_of_skipped
  refine ⟨front ++ skipped, callsAfter, by rw [isClose, List.append_assoc], ?_, ?_⟩
  · intro member
    rcases List.mem_append.mp member with inFront | inSkipped
    · -- a close queued among the front calls would put a close frame before the first
      exact first (frontQueued ▸ List.mem_filterMap.mpr ⟨_, inFront, rfl⟩)
    · exact absurd (none_of_skipped _ inSkipped) (by simp [message?])
  · rw [List.filterMap_append, skippedQueued, List.append_nil, frontQueued]

end Call

namespace Bridge

variable {s s' : Bridge}

theorem offered_of_ok (m : WsMessage) (accepted : s.offerResult = .ok ()) :
    s.offered m = s.sent ++ [m] := by
  simp only [offered, accepted]

theorem offered_of_error (m : WsMessage) {e : PublishError} (refused : s.offerResult = .error e) :
    s.offered m = s.sent := by
  simp only [offered, refused]

theorem pending_lt_of_ok (accepted : s.offerResult = .ok ()) :
    s.writer ≠ .gone ∧ s.pending < queueLen := by
  by_cases gone : s.writer = .gone
  · simp [offerResult, gone] at accepted
  by_cases full : queueLen ≤ s.pending
  · simp [offerResult, gone, full] at accepted
  exact ⟨gone, Nat.lt_of_not_le full⟩

theorem offerResult_eq_full_iff : s.offerResult = .error .full ↔ s.writer ≠ .gone ∧ queueLen ≤ s.pending := by
  unfold offerResult
  split_ifs with gone full
  · simp [gone]
  · simp [gone, full]
  · simp [gone, full]

theorem exists_offered_eq_append (s : Bridge) (m : WsMessage) : ∃ more, s.offered m = s.sent ++ more := by
  cases result : s.offerResult with
  | ok u => exact ⟨[m], offered_of_ok m result⟩
  | error e => exact ⟨[], by rw [offered_of_error m result, List.append_nil]⟩

theorem step_frame {a : Action} (stepped : s.step a = some s') :
    (s'.connected = s.connected ∨ s'.connected = false) ∧
      (s'.received = s.received ∨ ∃ m, s.writer = .sending m) := by
  cases a <;> simp only [Bridge.step] at stepped <;> (repeat' split at stepped) <;> cases stepped <;>
    simp_all

structure Invariant (s : Bridge) : Prop where
  sent_eq : s.sent = s.calls.filterMap Call.message?
  taken_le : s.taken ≤ s.sent.length
  pending_le : s.pending ≤ queueLen
  received_prefix : s.received <+: s.takenMessages
  received_of_waiting : s.writer = .waiting → s.received = s.takenMessages
  received_of_sending : ∀ m, s.writer = .sending m → s.received ++ [m] = s.takenMessages
  close_last : WsMessage.close ∈ s.takenMessages →
    (∃ before : List WsMessage, s.takenMessages = before ++ [WsMessage.close] ∧
      WsMessage.close ∉ before) ∧ s.writer ≠ .waiting
  stopped_of_disconnected : s.connected = false → s.writer.stopped
  stopped_of_closing : s.closing = .clearing ∨ s.closing = .done → s.writer.stopped

theorem invariant_new : Invariant {} where
  sent_eq := rfl
  taken_le := Nat.le_refl 0
  pending_le := Nat.zero_le _
  received_prefix := List.prefix_refl []
  received_of_waiting _ := rfl
  received_of_sending _ sending := nomatch sending
  close_last member := absurd member List.not_mem_nil
  stopped_of_disconnected cleared := nomatch cleared
  stopped_of_closing closing := by simp at closing

namespace Invariant

variable (inv : s.Invariant)
include inv

theorem stopped_of_running (running : s.writer.stopped = false) (w : Writer) :
    (s.connected = false → w.stopped) ∧ (s.closing = .clearing ∨ s.closing = .done → w.stopped) := by
  refine ⟨fun cleared => ?_, fun closing => ?_⟩
  · simpa [running] using inv.stopped_of_disconnected cleared
  · simpa [running] using inv.stopped_of_closing closing

theorem offered_eq (m : WsMessage) (call : Call)
    (told : call.message? = s.offerResult.toOption.map fun _ => m) :
    s.offered m = (s.calls ++ [call]).filterMap Call.message? := by
  rw [List.filterMap_append, ← inv.sent_eq, List.filterMap_cons, told, List.filterMap_nil]
  cases result : s.offerResult with
  | ok u => rw [offered_of_ok _ result]; rfl
  | error e => rw [offered_of_error _ result]; simp [Except.toOption]

theorem offer (m : WsMessage) (call : Call)
    (told : call.message? = s.offerResult.toOption.map fun _ => m) :
    ({ s with sent := s.offered m, calls := s.calls ++ [call] } : Bridge).Invariant := by
  obtain ⟨more, appended⟩ := s.exists_offered_eq_append m
  have sameTaken : ({ s with sent := s.offered m, calls := s.calls ++ [call] } : Bridge).takenMessages =
      s.takenMessages := by
    show (s.offered m).take s.taken = s.sent.take s.taken
    rw [appended, List.take_append_of_le_length inv.taken_le]
  refine
    { inv with
      sent_eq := inv.offered_eq m call told, taken_le := ?_, pending_le := ?_
      received_prefix := sameTaken ▸ inv.received_prefix
      received_of_waiting := sameTaken ▸ inv.received_of_waiting
      received_of_sending := sameTaken ▸ inv.received_of_sending
      close_last := sameTaken ▸ inv.close_last }
  · simpa [appended] using Nat.le_add_right_of_le inv.taken_le
  · -- the queue grows only from below its bound
    show (s.offered m).length - s.taken ≤ queueLen
    cases result : s.offerResult with
    | ok u =>
      have room := (pending_lt_of_ok result).2
      rw [offered_of_ok m result, List.length_append, List.length_singleton]
      unfold pending at room
      omega
    | error e =>
      rw [offered_of_error m result]
      exact inv.pending_le

theorem take {m : WsMessage} (waiting : s.writer = .waiting) (next : s.sent[s.taken]? = some m) :
    ({ s with writer := .sending m, taken := s.taken + 1 } : Bridge).Invariant := by
  have running : s.writer.stopped = false := by rw [waiting]; rfl
  have grown : s.sent.take (s.taken + 1) = s.takenMessages ++ [m] := by
    rw [List.take_add_one, next]
    rfl
  have caughtUp := inv.received_of_waiting waiting
  have noClose : WsMessage.close ∉ s.takenMessages := fun taken => (inv.close_last taken).2 waiting
  refine
    { inv with
      taken_le := (List.getElem?_eq_some_iff.mp next).1
      pending_le := ?_
      received_prefix := ?_
      received_of_waiting := fun w => nomatch w
      received_of_sending := ?_
      close_last := ?_
      stopped_of_disconnected := (inv.stopped_of_running running _).1
      stopped_of_closing := (inv.stopped_of_running running _).2 }
  · show s.sent.length - (s.taken + 1) ≤ queueLen
    have bounded := inv.pending_le
    unfold pending at bounded
    omega
  · show s.received <+: s.sent.take (s.taken + 1)
    rw [grown, caughtUp]
    exact List.prefix_append _ _
  · intro m' same
    cases same
    show s.received ++ [m] = s.sent.take (s.taken + 1)
    rw [grown, caughtUp]
  · show WsMessage.close ∈ s.sent.take (s.taken + 1) → _
    rw [grown]
    intro taken
    rcases List.mem_append.mp taken with old | new
    · exact absurd old noClose
    · obtain rfl : m = .close := (List.mem_singleton.mp new).symm
      exact ⟨⟨s.takenMessages, grown, noClose⟩, fun w => nomatch w⟩

theorem write {m : WsMessage} (sending : s.writer = .sending m) (delivered : Bool) :
    ({ s with
        received := if delivered then s.received ++ [m] else s.received
        writer := Writer.afterWrite m delivered } : Bridge).Invariant := by
  have running : s.writer.stopped = false := by rw [sending]; rfl
  have caughtUp := inv.received_of_sending m sending
  refine
    { inv with
      received_prefix := ?_
      received_of_waiting := ?_
      received_of_sending := fun m' still => absurd still (Writer.afterWrite_ne_sending m m' delivered)
      close_last := ?_
      stopped_of_disconnected := (inv.stopped_of_running running _).1
      stopped_of_closing := (inv.stopped_of_running running _).2 }
  · cases delivered
    · exact inv.received_prefix
    · show s.received ++ [m] <+: s.takenMessages
      rw [caughtUp]
  · intro back
    obtain ⟨-, rfl⟩ := Writer.text_of_afterWrite back
    exact caughtUp
  · intro closeTaken
    obtain ⟨⟨before, last, first⟩, -⟩ := inv.close_last closeTaken
    refine ⟨⟨before, last, first⟩, fun back => ?_⟩
    have written : [m] = [WsMessage.close] := (List.append_inj' (caughtUp.trans last) rfl).2
    exact (Writer.text_of_afterWrite back).1 (List.singleton_inj.mp written)

theorem of_writer_out {s' : Bridge} (sent : s'.sent = s.sent) (taken : s'.taken = s.taken)
    (received : s'.received = s.received) (calls : s'.calls = s.calls)
    (out : s'.writer ≠ .waiting ∧ ∀ m, s'.writer ≠ .sending m)
    (disconnected : s'.connected = false → s'.writer.stopped)
    (closing : s'.closing = .clearing ∨ s'.closing = .done → s'.writer.stopped) : s'.Invariant := by
  have sameTaken : s'.takenMessages = s.takenMessages := by
    simp only [takenMessages, sent, taken]
  refine
    { sent_eq := by rw [sent, calls]; exact inv.sent_eq
      taken_le := by rw [sent, taken]; exact inv.taken_le
      pending_le := by simp only [pending, sent, taken]; exact inv.pending_le
      received_prefix := by rw [received, sameTaken]; exact inv.received_prefix
      received_of_waiting := fun w => absurd w out.1
      received_of_sending := fun m w => absurd w (out.2 m)
      close_last := fun closeTaken => ⟨sameTaken ▸ (inv.close_last (sameTaken ▸ closeTaken)).1, out.1⟩
      stopped_of_disconnected := disconnected
      stopped_of_closing := closing }

theorem step {a : Action} (stepped : s.step a = some s') : s'.Invariant := by
  cases a with
  | publish event =>
    simp only [Bridge.step] at stepped
    split_ifs at stepped
    · -- a publisher that finds the flag set goes on to offer
      cases stepped
      exact { inv with }
    · cases stepped
      exact { inv with sent_eq := by simp [inv.sent_eq, Call.message?] }
  | offer publisher =>
    simp only [Bridge.step] at stepped
    split at stepped
    · rename_i json _
      cases stepped
      have told : (Call.publish json s.offerResult).message? = s.offerResult.toOption.map fun _ => .text json := by
        cases s.offerResult <;> rfl
      exact { inv.offer (.text json) _ told with }
    · cases stepped
  | take =>
    by_cases waiting : s.writer = .waiting
    · have running : s.writer.stopped = false := by rw [waiting]; rfl
      cases next : s.sent[s.taken]? with
      | some m =>
        simp only [Bridge.step, waiting, next, if_true, Option.some.injEq] at stepped
        subst stepped
        exact inv.take waiting next
      | none =>
        simp only [Bridge.step, waiting, next, if_true] at stepped
        split_ifs at stepped
        cases stepped
        exact inv.of_writer_out rfl rfl rfl rfl ⟨nofun, nofun⟩
          (inv.stopped_of_running running _).1 (inv.stopped_of_running running _).2
    · simp [Bridge.step, waiting] at stepped
  | write delivered =>
    simp only [Bridge.step] at stepped
    split at stepped
    · rename_i m sending
      cases stepped
      exact inv.write sending delivered
    · cases stepped
  | hangUp =>
    cases stepped
    exact { inv with }
  | notice =>
    simp only [Bridge.step] at stepped
    split_ifs at stepped with ready
    cases stepped
    have running : s.writer.stopped = false := by rw [ready.1]; rfl
    exact inv.of_writer_out rfl rfl rfl rfl ⟨nofun, nofun⟩
      (inv.stopped_of_running running _).1 (inv.stopped_of_running running _).2
  | clear =>
    simp only [Bridge.step] at stepped
    split_ifs at stepped
    cases stepped
    exact inv.of_writer_out rfl rfl rfl rfl ⟨nofun, nofun⟩ (fun _ => rfl) (fun _ => rfl)
  | exit =>
    simp only [Bridge.step] at stepped
    split_ifs at stepped
    cases stepped
    exact inv.of_writer_out rfl rfl rfl rfl ⟨nofun, nofun⟩ (fun _ => rfl) (fun _ => rfl)
  | release =>
    simp only [Bridge.step] at stepped
    split_ifs at stepped
    cases stepped
    exact { inv with }
  | closeTake =>
    simp only [Bridge.step] at stepped
    split_ifs at stepped
    cases stepped
    exact { inv with stopped_of_closing := fun closing => by simp at closing }
  | closeOffer =>
    simp only [Bridge.step] at stepped
    split_ifs at stepped
    cases stepped
    have told : (Call.close s.offerResult).message? = s.offerResult.toOption.map fun _ => .close := by
      cases s.offerResult <;> rfl
    exact { inv.offer .close _ told with stopped_of_closing := fun closing => by simp at closing }
  | closeJoin =>
    simp only [Bridge.step] at stepped
    split_ifs at stepped with joined
    cases stepped
    exact { inv with stopped_of_closing := fun _ => by simp [joined.2, Writer.stopped] }
  | closeAbort =>
    simp only [Bridge.step] at stepped
    split_ifs at stepped
    cases stepped
    exact inv.of_writer_out rfl rfl rfl rfl ⟨nofun, nofun⟩ (fun _ => rfl) (fun _ => rfl)
  | closeClear =>
    simp only [Bridge.step] at stepped
    split_ifs at stepped with clearing
    cases stepped
    exact
      { inv with
        stopped_of_disconnected := fun _ => inv.stopped_of_closing (.inl clearing)
        stopped_of_closing := fun _ => inv.stopped_of_closing (.inl clearing) }

theorem run {actions : List Action} (reached : s.run actions = some s') : s'.Invariant := by
  induction actions generalizing s with
  | nil =>
    cases reached
    exact inv
  | cons a rest ih =>
    obtain ⟨next, stepped, later⟩ := Option.bind_eq_some_iff.mp reached
    exact ih (inv.step stepped) later

theorem received_texts_prefix :
    s.received.filterMap WsMessage.text? <+: s.calls.filterMap Call.acceptedText? := by
  rw [← Call.filterMap_text?_message?, ← inv.sent_eq]
  exact (inv.received_prefix.trans (List.take_prefix _ _)).filterMap _

theorem received_of_close_mem (closed : WsMessage.close ∈ s.received) :
    ∃ before after : List Call, s.calls = before ++ Call.close (.ok ()) :: after ∧ Call.close (.ok ()) ∉ before ∧
      s.received = (before.filterMap Call.acceptedText?).map WsMessage.text ++ [WsMessage.close] := by
  obtain ⟨⟨taken, lastTaken, first⟩, -⟩ := inv.close_last (inv.received_prefix.subset closed)
  have whole : s.received = taken ++ [WsMessage.close] := by
    rcases List.prefix_concat_iff.mp (lastTaken ▸ inv.received_prefix) with whole | short
    · exact whole
    · exact absurd (short.subset closed) first
  have queued : s.calls.filterMap Call.message? = taken ++ .close :: s.sent.drop s.taken := by
    rw [← inv.sent_eq, ← List.singleton_append, ← List.append_assoc, ← lastTaken]
    exact (List.take_append_drop s.taken s.sent).symm
  obtain ⟨before, after, split, noClose, beforeQueued⟩ := Call.split_at_close queued first
  refine ⟨before, after, split, noClose, ?_⟩
  rw [whole, ← beforeQueued, Call.filterMap_message?_of_not_mem noClose]

theorem run_of_disconnected (cleared : s.connected = false) {more : List Action}
    (reached : s.run more = some s') : s'.connected = false ∧ s'.received = s.received := by
  induction more generalizing s with
  | nil =>
    cases reached
    exact ⟨cleared, rfl⟩
  | cons a rest ih =>
    obtain ⟨next, stepped, later⟩ := Option.bind_eq_some_iff.mp reached
    obtain ⟨flag, server⟩ := step_frame stepped
    have nextCleared : next.connected = false := by
      rcases flag with same | nowCleared
      · rw [same, cleared]
      · exact nowCleared
    have nextReceived : next.received = s.received := by
      rcases server with same | ⟨m, sending⟩
      · exact same
      · simpa [sending, Writer.stopped] using inv.stopped_of_disconnected cleared
    obtain ⟨laterCleared, laterReceived⟩ := ih (inv.step stepped) nextCleared later
    exact ⟨laterCleared, laterReceived.trans nextReceived⟩

theorem full_iff : s.offerResult = .error .full ↔ s.writer ≠ .gone ∧ s.pending = queueLen := by
  have bounded := inv.pending_le
  rw [offerResult_eq_full_iff]
  constructor
  · rintro ⟨here, full⟩
    exact ⟨here, by omega⟩
  · rintro ⟨here, full⟩
    exact ⟨here, by omega⟩

end Invariant

end Bridge

/-- The bridge delivers events in order and each once, and queues nothing once disconnected,
over every interleaving of publishers, the writer, the server and a close from a new bridge:

* the texts the server received are a prefix of the texts of the publish calls that returned Ok;
* a server that received the close frame received, just before it, the texts of the publish calls
  that returned Ok before close queued the frame;
* once the flag is cleared it stays cleared and the server receives nothing more, whatever
  follows, and a publish that finds it cleared is refused, with nothing queued;
* a publish never waits: its first step can always be taken, and so can its offer, which the
  queue refuses as full exactly while the writer is there with `queueLen` messages to take; the
  queue never holds more. -/
theorem bridge_delivers_in_order {actions : List Action} {s : Bridge}
    (reached : ({} : Bridge).run actions = some s) :
    s.received.filterMap WsMessage.text? <+: s.calls.filterMap Call.acceptedText? ∧
    (WsMessage.close ∈ s.received → ∃ before after : List Call, s.calls = before ++ Call.close (.ok ()) :: after ∧
      Call.close (.ok ()) ∉ before ∧ s.received = (before.filterMap Call.acceptedText?).map WsMessage.text ++ [WsMessage.close]) ∧
    (s.connected = false →
      (∀ (more : List Action) (later : Bridge), s.run more = some later →
        later.connected = false ∧ later.received = s.received) ∧
      ∀ event : Event, s.released = false →
        s.step (.publish event) =
          some { s with calls := s.calls ++ [.publish event.jsonText (.error .notConnected)] }) ∧
    (∀ event : Event, s.released = false → ∃ next, s.step (.publish event) = some next) ∧
    (∀ (publisher : Nat) (json : String), s.offering[publisher]? = some json →
      ∃ result : Except PublishError Unit, s.step (.offer publisher) =
        some { s with
          offering := s.offering.eraseIdx publisher
          sent := s.offered (.text json)
          calls := s.calls ++ [.publish json result] } ∧
      (result = .error .full ↔ s.writer ≠ .gone ∧ s.pending = queueLen)) ∧
    s.pending ≤ queueLen := by
  have inv := Bridge.invariant_new.run reached
  refine ⟨inv.received_texts_prefix, inv.received_of_close_mem, fun cleared => ⟨?_, ?_⟩, ?_, ?_,
    inv.pending_le⟩
  · intro more later continued
    exact inv.run_of_disconnected cleared continued
  · intro event live
    simp [Bridge.step, cleared, live]
  · intro event live
    simp only [Bridge.step, live, Bool.false_eq_true, if_false]
    split
    · exact ⟨_, rfl⟩
    · exact ⟨_, rfl⟩
  · intro publisher json offering
    refine ⟨s.offerResult, ?_, inv.full_iff⟩
    simp only [Bridge.step, offering]

/-- A bridge that delivers one status event and then closes: the server receives the event's
text and then the close frame. -/
theorem bridge_delivers_hello_then_close :
    let hello : Event := .status "hello"
    let actions : List Action := [.publish hello, .offer 0, .take, .write true,
      .closeTake, .closeOffer, .take, .write true, .clear, .exit, .closeJoin, .closeClear]
    let s : Bridge :=
      { connected := false, sent := [.text hello.jsonText, .close], taken := 2, writer := .gone,
        closing := .done, calls := [.publish hello.jsonText (.ok ()), .close (.ok ())],
        received := [.text hello.jsonText, .close] }
    ({} : Bridge).run actions = some s ∧
    (s.received.filterMap WsMessage.text? <+: s.calls.filterMap Call.acceptedText? ∧
    (WsMessage.close ∈ s.received → ∃ before after : List Call, s.calls = before ++ Call.close (.ok ()) :: after ∧
      Call.close (.ok ()) ∉ before ∧ s.received = (before.filterMap Call.acceptedText?).map WsMessage.text ++ [WsMessage.close]) ∧
    (s.connected = false →
      (∀ (more : List Action) (later : Bridge), s.run more = some later →
        later.connected = false ∧ later.received = s.received) ∧
      ∀ event : Event, s.released = false →
        s.step (.publish event) =
          some { s with calls := s.calls ++ [.publish event.jsonText (.error .notConnected)] }) ∧
    (∀ event : Event, s.released = false → ∃ next, s.step (.publish event) = some next) ∧
    (∀ (publisher : Nat) (json : String), s.offering[publisher]? = some json →
      ∃ result : Except PublishError Unit, s.step (.offer publisher) =
        some { s with
          offering := s.offering.eraseIdx publisher
          sent := s.offered (.text json)
          calls := s.calls ++ [.publish json result] } ∧
      (result = .error .full ↔ s.writer ≠ .gone ∧ s.pending = queueLen)) ∧
    s.pending ≤ queueLen) := by
  intro hello actions s
  have reached : ({} : Bridge).run actions = some s := rfl
  exact ⟨reached, bridge_delivers_in_order reached⟩

end LinkTap.Telemetry
