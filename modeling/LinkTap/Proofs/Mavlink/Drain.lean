import Mathlib
import LinkTap.Mavlink.Scanner

/-!
# Feeding a scanner in pieces

Draining two queues one after the other is draining them joined (`drain_append`).
-/

set_option autoImplicit false

namespace LinkTap.Mavlink.Scanner

section Drain

variable {s next : Scanner} {byte : UInt8} {rest : List UInt8} {out : Array Frame}

theorem drain_nil (s : Scanner) (out : Array Frame) : s.drain [] out = (s, out) := by
  simp [drain]

theorem drain_cons_pending (stepped : s.step byte = (next, .pending)) :
    s.drain (byte :: rest) out = next.drain rest out := by
  rw [drain]; split <;> simp_all

theorem drain_cons_frame {frame : Frame} (stepped : s.step byte = (next, .frame frame)) :
    s.drain (byte :: rest) out = next.drain rest (out.push frame) := by
  rw [drain]; split <;> simp_all

theorem drain_cons_rejected {rescan : List UInt8}
    (stepped : s.step byte = (next, .rejected rescan)) :
    s.drain (byte :: rest) out = next.drain (rescan ++ rest) out := by
  rw [drain]; split <;> simp_all

theorem drain_append (s : Scanner) (first second : List UInt8) (out : Array Frame) :
    s.drain (first ++ second) out =
      (s.drain first out).1.drain second (s.drain first out).2 := by
  induction s, first, out using drain.induct with
  | case1 s out => simp [drain_nil]
  | case2 s out byte rest next stepped ih =>
      rw [List.cons_append, drain_cons_pending stepped, drain_cons_pending stepped]
      exact ih
  | case3 s out byte rest next frame stepped ih =>
      rw [List.cons_append, drain_cons_frame stepped, drain_cons_frame stepped]
      exact ih
  | case4 s out byte rest next rescan stepped ih =>
      rw [List.cons_append, drain_cons_rejected stepped, drain_cons_rejected stepped,
        ← List.append_assoc]
      exact ih

private theorem drain_prepend_output (s : Scanner) (queue : List UInt8) (later : Array Frame) :
    ∀ earlier : Array Frame, s.drain queue (earlier ++ later) =
      ((s.drain queue later).1, earlier ++ (s.drain queue later).2) := by
  induction s, queue, later using drain.induct with
  | case1 s out => simp [drain_nil]
  | case2 s out byte rest next stepped ih =>
      intro earlier
      rw [drain_cons_pending stepped, drain_cons_pending stepped]
      exact ih earlier
  | case3 s out byte rest next frame stepped ih =>
      intro earlier
      rw [drain_cons_frame stepped, drain_cons_frame stepped, Array.push_append]
      exact ih earlier
  | case4 s out byte rest next rescan stepped ih =>
      intro earlier
      rw [drain_cons_rejected stepped, drain_cons_rejected stepped]
      exact ih earlier

theorem drain_output (s : Scanner) (queue : List UInt8) (out : Array Frame) :
    s.drain queue out = ((s.drain queue #[]).1, out ++ (s.drain queue #[]).2) := by
  simpa using drain_prepend_output s queue #[] out

end Drain

section Feed

theorem foldl_push_eq_drain (bytes : List UInt8) :
    ∀ (s : Scanner) (out : Array Frame), bytes.foldl push (s, out) = s.drain bytes out := by
  induction bytes with
  | nil => intro s out; simp [drain_nil]
  | cons byte rest ih =>
      intro s out
      rw [List.foldl_cons, push, ih, ← drain_append, List.singleton_append]

theorem feed_eq_drain (s : Scanner) (bytes : List UInt8) : s.feed bytes = s.drain bytes #[] :=
  foldl_push_eq_drain bytes s #[]

@[simp]
theorem feed_nil (s : Scanner) : s.feed [] = (s, #[]) := rfl

theorem feed_append (s : Scanner) (first second : List UInt8) :
    s.feed (first ++ second) =
      (((s.feed first).1.feed second).1, (s.feed first).2 ++ ((s.feed first).1.feed second).2) := by
  rw [feed_eq_drain, feed_eq_drain, feed_eq_drain, drain_append, drain_output]

/-- Feeds the chunks one after another, collecting the frames each feed returns. -/
def feedChunks (s : Scanner) (chunks : List (List UInt8)) : Scanner × List Frame :=
  chunks.foldl (fun fed chunk => ((fed.1.feed chunk).1, fed.2 ++ (fed.1.feed chunk).2.toList))
    (s, [])

private theorem foldl_feed_eq (chunks : List (List UInt8)) :
    ∀ (s : Scanner) (earlier : List Frame),
      chunks.foldl (fun fed chunk => ((fed.1.feed chunk).1, fed.2 ++ (fed.1.feed chunk).2.toList))
          (s, earlier) =
        ((s.feed chunks.flatten).1, earlier ++ (s.feed chunks.flatten).2.toList) := by
  induction chunks with
  | nil => intro s earlier; simp [feed]
  | cons chunk rest ih =>
      intro s earlier
      rw [List.foldl_cons, ih, List.flatten_cons, feed_append]
      simp

theorem feedChunks_eq_feed (s : Scanner) (chunks : List (List UInt8)) :
    s.feedChunks chunks = ((s.feed chunks.flatten).1, (s.feed chunks.flatten).2.toList) := by
  unfold feedChunks
  simpa using foldl_feed_eq chunks s []

end Feed

end LinkTap.Mavlink.Scanner
