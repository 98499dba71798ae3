import Mathlib
import LinkTap.Proofs.Mavlink.Drain

/-!
# The rescan loop ends

Each turn of the scanner's loop lowers (bytes queued and buffered, bytes queued)
lexicographically; main statement: `rescan_loop_terminates`.
-/

set_option autoImplicit false

namespace LinkTap.Mavlink.Scanner

/-- One turn of the rescan loop on a scanner, the bytes queued after `byte`, and the frames
found so far: a completed frame is collected, and the bytes of a refused candidate go back in
front of the queue. -/
def turn (s : Scanner) (byte : UInt8) (rest : List UInt8) (out : Array Frame) :
    Scanner × List UInt8 × Array Frame :=
  match s.step byte with
  | (next, .pending) => (next, rest, out)
  | (next, .frame frame) => (next, rest, out.push frame)
  | (next, .rejected rescan) => (next, rescan ++ rest, out)

inductive Turn : Scanner × List UInt8 × Array Frame → Scanner × List UInt8 × Array Frame → Prop
  | take (s : Scanner) (byte : UInt8) (rest : List UInt8) (out : Array Frame) :
      Turn (s, byte :: rest, out) (turn s byte rest out)

/-- The measure every turn lowers: the bytes queued and buffered together, then the bytes
queued. -/
def loopMeasure (state : Scanner × List UInt8 × Array Frame) : Nat × Nat :=
  (state.2.1.length + state.1.buffer.size, state.2.1.length)

section Turn

variable {s next : Scanner} {byte : UInt8} {rest : List UInt8} {out : Array Frame}

theorem turn_of_pending (stepped : s.step byte = (next, .pending)) :
    turn s byte rest out = (next, rest, out) := by
  simp only [turn, stepped]

theorem turn_of_frame {frame : Frame} (stepped : s.step byte = (next, .frame frame)) :
    turn s byte rest out = (next, rest, out.push frame) := by
  simp only [turn, stepped]

theorem turn_of_rejected {rescan : List UInt8} (stepped : s.step byte = (next, .rejected rescan)) :
    turn s byte rest out = (next, rescan ++ rest, out) := by
  simp only [turn, stepped]

theorem size_step_of_pending_cases (stepped : s.step byte = (next, .pending)) :
    next.buffer.size = s.buffer.size + 1 ∨ (s.buffer.size = 0 ∧ next.buffer.size = 0) := by
  unfold step at stepped
  split at stepped
  · rename_i idle
    have empty : s.buffer.size = 0 := by simpa using idle
    split at stepped <;> (obtain ⟨rfl, -⟩ := Prod.mk.inj stepped; simp [empty])
  · simp only [refuse, emit] at stepped
    repeat' split at stepped
    all_goals
      obtain ⟨rfl, stepped⟩ := Prod.mk.inj stepped
      first | (simp at stepped; done) | simp

end Turn

theorem loopMeasure_turn_lt (s : Scanner) (byte : UInt8) (rest : List UInt8) (out : Array Frame) :
    Prod.Lex (· < ·) (· < ·) (loopMeasure (turn s byte rest out)) (loopMeasure (s, byte :: rest, out)) := by
  rcases stepped : s.step byte with ⟨next, _ | frame | rescan⟩
  · rw [turn_of_pending stepped]
    simp only [loopMeasure, List.length_cons]
    rcases size_step_of_pending_cases stepped with joined | skipped
    · rw [joined, show rest.length + (s.buffer.size + 1) = rest.length + 1 + s.buffer.size by omega]
      exact Prod.Lex.right _ (Nat.lt_succ_self _)
    · exact Prod.Lex.left _ _ (by omega)
  · rw [turn_of_frame stepped]
    have emptied := size_step_of_frame stepped
    simp only [loopMeasure, List.length_cons]
    exact Prod.Lex.left _ _ (by omega)
  · rw [turn_of_rejected stepped]
    obtain ⟨emptied, returned⟩ := size_step_of_rejected stepped
    simp only [loopMeasure, List.length_cons, List.length_append]
    exact Prod.Lex.left _ _ (by omega)

theorem wellFounded_turn : WellFounded (flip Turn) := by
  refine Subrelation.wf ?_ (InvImage.wf loopMeasure (WellFounded.prod_lex Nat.lt_wfRel.wf Nat.lt_wfRel.wf))
  intro after before turned
  cases turned with
  | take s byte rest out => exact loopMeasure_turn_lt s byte rest out

theorem drain_reaches_empty_queue (s : Scanner) (queue : List UInt8) (out : Array Frame) :
    Relation.ReflTransGen Turn (s, queue, out) ((s.drain queue out).1, [], (s.drain queue out).2) := by
  induction s, queue, out using drain.induct with
  | case1 s out =>
      rw [drain_nil]
  | case2 s out byte rest next stepped ih =>
      have turned := Turn.take s byte rest out
      rw [turn_of_pending stepped] at turned
      rw [drain_cons_pending stepped]
      exact .head turned ih
  | case3 s out byte rest next frame stepped ih =>
      have turned := Turn.take s byte rest out
      rw [turn_of_frame stepped] at turned
      rw [drain_cons_frame stepped]
      exact .head turned ih
  | case4 s out byte rest next rescan stepped ih =>
      have turned := Turn.take s byte rest out
      rw [turn_of_rejected stepped] at turned
      rw [drain_cons_rejected stepped]
      exact .head turned ih

/-- Feeding bytes terminates for every scanner and every input. Each call of the step leaves
the candidate pending with the byte skipped between frames or added to the buffer, empties
the buffer when it emits a frame, or empties it when it refuses a candidate and gives back one
byte less than the candidate with the new byte held. Hence every turn of the rescan loop
lowers (bytes queued plus bytes buffered, bytes queued) lexicographically, no run of turns goes
on for ever, and the drain that feeding is made of is that loop run to an empty queue. -/
theorem rescan_loop_terminates :
    (∀ (s : Scanner) (byte : UInt8) (next : Scanner), s.step byte = (next, .pending) →
      next.buffer.size = s.buffer.size + 1 ∨ (s.buffer.size = 0 ∧ next.buffer.size = 0)) ∧
    (∀ (s : Scanner) (byte : UInt8) (next : Scanner) (frame : Frame),
      s.step byte = (next, .frame frame) → next.buffer.size = 0) ∧
    (∀ (s : Scanner) (byte : UInt8) (next : Scanner) (rescan : List UInt8),
      s.step byte = (next, .rejected rescan) →
        next.buffer.size = 0 ∧ rescan.length = (s.buffer.push byte).size - 1) ∧
    (∀ (s : Scanner) (byte : UInt8) (rest : List UInt8) (out : Array Frame),
      Prod.Lex (· < ·) (· < ·) (loopMeasure (turn s byte rest out))
        (loopMeasure (s, byte :: rest, out))) ∧
    WellFounded (flip Turn) ∧
    (∀ (s : Scanner) (queue : List UInt8) (out : Array Frame),
      Relation.ReflTransGen Turn (s, queue, out) ((s.drain queue out).1, [], (s.drain queue out).2)) := by
  refine ⟨fun _ _ _ stepped => size_step_of_pending_cases stepped,
    fun _ _ _ _ stepped => size_step_of_frame stepped, ?_, loopMeasure_turn_lt, wellFounded_turn,
    drain_reaches_empty_queue⟩
  intro s byte next rescan stepped
  obtain ⟨emptied, returned⟩ := size_step_of_rejected stepped
  rw [Array.size_push]
  exact ⟨emptied, by omega⟩

end LinkTap.Mavlink.Scanner
