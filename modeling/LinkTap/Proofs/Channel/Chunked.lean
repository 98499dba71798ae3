import Mathlib
import LinkTap.Proofs.Channel.Blocks

/-!
# Chunked writes to a sink that takes everything

Written in blocks to a scripted sink that takes every write at once, a buffer arrives whole, each
byte at the time the write started, after one flush (`writeChunkedTo_of_accepting`).
-/

set_option autoImplicit false

namespace LinkTap.Channel

/-- A script under which every write is taken at once, at least one byte of it. -/
structure SinkScript.Accepting (script : SinkScript) : Prop where
  mode : script.mode = .accept
  delay : script.delay = 0
  takes : script.maxWrite ≠ some 0

namespace ByteSink

/-- The bytes the sink received, in order, each with the time its write completed. -/
def received (s : ByteSink) : List (Nat × UInt8) :=
  s.writes.toList.flatMap fun write => write.2.map (write.1, ·)

theorem received_push (s : ByteSink) (time : Nat) (bytes : List UInt8) :
    ({ s with writes := s.writes.push (time, bytes) } : ByteSink).received =
      s.received ++ bytes.map (time, ·) := by
  simp [received]

variable {s : ByteSink}

theorem not_exhausted (accepting : s.script.Accepting) : s.exhausted = false := by
  simp [exhausted, accepting.mode]

theorem flush_of_accepting (accepting : s.script.Accepting) (now : Nat) :
    peer.flush s now = (.after 0 (.ok ()), { s with flushes := s.flushes + 1 }) := by
  simp [peer, not_exhausted accepting]

theorem write_of_accepting (accepting : s.script.Accepting) (now : Nat) (chunk : List UInt8)
    (nonempty : chunk ≠ []) :
    peer.write s now chunk =
      (.after 0 (.ok (chunk.take (s.script.maxWrite.getD chunk.length)).length),
        { s with writes := s.writes.push (now, chunk.take (s.script.maxWrite.getD chunk.length)) }) ∧
      chunk.take (s.script.maxWrite.getD chunk.length) ≠ [] := by
  have taken : chunk.take (s.script.maxWrite.getD chunk.length) ≠ [] := by
    have takes := accepting.takes
    cases limit : s.script.maxWrite with
    | none => simpa using nonempty
    | some most =>
        rw [limit] at takes
        rw [Option.getD_some, ne_eq, List.take_eq_nil_iff, not_or]
        exact ⟨fun zero => takes (zero ▸ rfl), nonempty⟩
  refine ⟨?_, taken⟩
  simp only [peer, not_exhausted accepting, accepting.delay, Bool.false_eq_true, ↓reduceIte,
    Nat.add_zero, List.isEmpty_iff, taken]

theorem writeChunkedTo_of_accepting (accepting : s.script.Accepting) (timeout now : Nat)
    (bytes : List UInt8) :
    (writeChunkedTo peer timeout s now bytes).error = none ∧
      (writeChunkedTo peer timeout s now bytes).time = now ∧
      (writeChunkedTo peer timeout s now bytes).sink.script = s.script ∧
      (writeChunkedTo peer timeout s now bytes).sink.received = s.received ++ bytes.map (now, ·) ∧
      (writeChunkedTo peer timeout s now bytes).sink.flushes = s.flushes + 1 := by
  induction size : bytes.length using Nat.strong_induction_on generalizing bytes s with
  | _ n ih =>
    cases bytes with
    | nil => simp [writeChunkedTo, flush_of_accepting accepting, received]
    | cons b rest =>
      obtain ⟨wrote, taken⟩ := write_of_accepting accepting now ((b :: rest).take blockLength)
        (by simp [blockLength])
      set block := ((b :: rest).take blockLength).take
        (s.script.maxWrite.getD ((b :: rest).take blockLength).length)
      obtain ⟨count, counted⟩ := Nat.exists_eq_add_one_of_ne_zero (List.length_eq_zero_iff.not.mpr taken)
      rw [counted] at wrote
      rw [writeChunkedTo_of_took wrote (Nat.zero_le _)]
      simp only [Chunked.error_after, Chunked.time_after, Chunked.sink_after, Nat.add_zero]
      have front : block = (b :: rest).take (count + 1) := by
        rw [← counted]
        exact List.prefix_iff_eq_take.mp ((List.take_prefix _ _).trans (List.take_prefix _ _))
      have shorter : ((b :: rest).drop (count + 1)).length < n := by
        simp only [List.length_drop, List.length_cons] at size ⊢
        omega
      have nextAccepting : ({ s with writes := s.writes.push (now, block) } : ByteSink).script.Accepting :=
        accepting
      obtain ⟨clean, time, script, got, flushed⟩ := ih _ shorter nextAccepting _ rfl
      refine ⟨clean, time, script, ?_, flushed⟩
      rw [got, received_push, List.append_assoc, ← List.map_append, front, List.take_append_drop]

end ByteSink

end LinkTap.Channel
