import Mathlib
import LinkTap.Channel.Peer

/-!
# Chunked writes lose and repeat nothing

Whatever the sink answers, the calls of a chunked write follow the rules of `Written`; main
statement: `writeChunkedTo_inBlocks`.
-/

set_option autoImplicit false

namespace LinkTap.Channel

open LinkTap.Frame

variable {σ : Type}

def lateError (timeout : Nat) : Option LinkError := some (.timeout (Duration.ofMillis timeout))

/-- How the answer to a write call ends a chunked write: not at all if it took bytes in time;
as a closed link if it took none, as its failure, or as a timeout if it came too late. -/
def writeError (timeout : Nat) : Reply Nat → Option LinkError
  | .after wait (.ok count) => if wait ≤ timeout then (if count = 0 then some .closed else none) else lateError timeout
  | .after wait (.error kind) => if wait ≤ timeout then some (.io kind) else lateError timeout
  | .never => lateError timeout

/-- How the answer to the flush ends a chunked write: cleanly if it completed in time, as its
failure, or as a timeout. -/
def flushError (timeout : Nat) : Reply Unit → Option LinkError
  | .after wait (.ok ()) => if wait ≤ timeout then none else lateError timeout
  | .after wait (.error kind) => if wait ≤ timeout then some (.io kind) else lateError timeout
  | .never => lateError timeout

/-- The calls of a chunked write of `left`, the bytes not yet taken, and the error it ends with. -/
inductive Written (timeout : Nat) : List UInt8 → List Call → Option LinkError → Prop where
  | flush (reply : Reply Unit) : Written timeout [] [.flush reply] (flushError timeout reply)
  | wrote {left : List UInt8} {calls : List Call} {error : Option LinkError} (wait count : Nat)
      (inTime : wait ≤ timeout) (took : 0 < count) (fits : count ≤ (left.take blockLength).length)
      (rest : Written timeout (left.drop count) calls error) :
      Written timeout left (.write (left.take blockLength) (.after wait (.ok count)) :: calls) error
  | stopped {left : List UInt8} {error : LinkError} (reply : Reply Nat) (nonempty : left ≠ [])
      (stops : writeError timeout reply = some error) :
      Written timeout left [.write (left.take blockLength) reply] (some error)

namespace Call

/-- The bytes a call handed to the sink: the part of the offered block a write took in time. -/
def taken (timeout : Nat) : Call → List UInt8
  | .write offered (.after wait (.ok count)) => if wait ≤ timeout then offered.take count else []
  | _ => []

/-- Whether a call did what a clean chunked write needs: a write took bytes in time, or the
flush completed in time. -/
def Succeeds (timeout : Nat) : Call → Prop
  | .write _ (.after wait (.ok count)) => wait ≤ timeout ∧ 0 < count
  | .flush (.after wait (.ok ())) => wait ≤ timeout
  | _ => False

/-- The time a call took: until its answer, or until the limit cut it off. -/
def elapsed (timeout : Nat) : Call → Nat
  | .write _ (.after wait _) | .flush (.after wait _) => min wait timeout
  | .write _ .never | .flush .never => timeout

end Call

def Peer.Honest (peer : Peer σ) : Prop :=
  ∀ (sink : σ) (now : Nat) (offered : List UInt8) (wait count : Nat) (next : σ),
    peer.write sink now offered = (.after wait (.ok count), next) → count ≤ offered.length

/-! ### One call at a time -/

section Steps

variable (peer : Peer σ) (timeout : Nat) (sink : σ) (now : Nat)

theorem writeChunkedTo_nil :
    (writeChunkedTo peer timeout sink now []).calls = [.flush (peer.flush sink now).1] ∧
      (writeChunkedTo peer timeout sink now []).error = flushError timeout (peer.flush sink now).1 ∧
      (writeChunkedTo peer timeout sink now []).time =
        now + Call.elapsed timeout (.flush (peer.flush sink now).1) := by
  rw [writeChunkedTo]
  rcases peer.flush sink now with ⟨_ | _, next⟩
  · rename_i wait result
    by_cases inTime : wait ≤ timeout
    · cases result <;> simp [inTime, flushError, Call.elapsed]
    · cases result <;>
        simp [inTime, flushError, lateError, Call.elapsed, Nat.min_eq_right (Nat.le_of_not_le inTime)]
  · simp [flushError, lateError, Call.elapsed]

variable {peer timeout sink now} {b : UInt8} {rest : List UInt8}

theorem writeChunkedTo_of_stopped {reply : Reply Nat} {next : σ} {error : LinkError}
    (wrote : peer.write sink now ((b :: rest).take blockLength) = (reply, next))
    (stops : writeError timeout reply = some error) :
    (writeChunkedTo peer timeout sink now (b :: rest)).calls = [.write ((b :: rest).take blockLength) reply] ∧
      (writeChunkedTo peer timeout sink now (b :: rest)).error = some error ∧
      (writeChunkedTo peer timeout sink now (b :: rest)).time =
        now + Call.elapsed timeout (.write ((b :: rest).take blockLength) reply) := by
  rw [writeChunkedTo]
  simp only [wrote]
  cases reply with
  | after wait result =>
      by_cases inTime : wait ≤ timeout
      · rcases result with kind | _ | count
        · simp_all [writeError, Call.elapsed]
        · simp_all [writeError, Call.elapsed]
        · simp [writeError, inTime] at stops
      · have cut := Nat.min_eq_right (Nat.le_of_not_le inTime)
        rcases result with kind | count <;> simp only [writeError, lateError, inTime, ↓reduceIte,
          Option.some.injEq] at stops <;> simp [← stops, inTime, Call.elapsed, cut]
  | never => simp_all [writeError, lateError, Call.elapsed]

theorem writeChunkedTo_of_took {wait count : Nat} {next : σ}
    (wrote : peer.write sink now ((b :: rest).take blockLength) = (.after wait (.ok (count + 1)), next))
    (inTime : wait ≤ timeout) :
    writeChunkedTo peer timeout sink now (b :: rest) =
      (writeChunkedTo peer timeout next (now + wait) ((b :: rest).drop (count + 1))).after
        (.write ((b :: rest).take blockLength) (.after wait (.ok (count + 1)))) := by
  rw [writeChunkedTo]
  simp only [wrote, inTime, ↓reduceIte]

theorem took_of_writeError {reply : Reply Nat} (goesOn : writeError timeout reply = none) :
    ∃ wait count, reply = .after wait (.ok (count + 1)) ∧ wait ≤ timeout := by
  rcases reply with ⟨wait, kind | _ | count⟩ | _
  · by_cases inTime : wait ≤ timeout <;> simp [writeError, inTime, lateError] at goesOn
  · by_cases inTime : wait ≤ timeout <;> simp [writeError, inTime, lateError] at goesOn
  · by_cases inTime : wait ≤ timeout
    · exact ⟨wait, count, rfl, inTime⟩
    · simp [writeError, inTime, lateError] at goesOn
  · simp [writeError, lateError] at goesOn

end Steps

/-! ### The rules of `Written` -/

theorem written_writeChunkedTo (peer : Peer σ) (honest : peer.Honest) (timeout : Nat)
    (bytes : List UInt8) (sink : σ) (now : Nat) :
    Written timeout bytes (writeChunkedTo peer timeout sink now bytes).calls
        (writeChunkedTo peer timeout sink now bytes).error ∧
      (writeChunkedTo peer timeout sink now bytes).time =
        now + ((writeChunkedTo peer timeout sink now bytes).calls.map (Call.elapsed timeout)).sum := by
  induction size : bytes.length using Nat.strong_induction_on generalizing bytes sink now with
  | _ n ih =>
      cases bytes with
      | nil =>
          obtain ⟨calls, error, time⟩ := writeChunkedTo_nil peer timeout sink now
          rw [calls, error, time]
          exact ⟨.flush _, by simp⟩
      | cons b rest =>
          rcases wrote : peer.write sink now ((b :: rest).take blockLength) with ⟨reply, next⟩
          cases stop : writeError timeout reply with
          | some error =>
              obtain ⟨calls, failed, time⟩ := writeChunkedTo_of_stopped wrote stop
              rw [calls, failed, time]
              exact ⟨.stopped reply (List.cons_ne_nil b rest) stop, by simp⟩
          | none =>
              obtain ⟨wait, count, rfl, inTime⟩ := took_of_writeError stop
              have fits := honest sink now _ wait (count + 1) next wrote
              have shorter : ((b :: rest).drop (count + 1)).length < n := by
                simp only [List.length_drop, List.length_cons] at size ⊢
                omega
              obtain ⟨written, time⟩ := ih _ shorter _ next (now + wait) rfl
              rw [writeChunkedTo_of_took wrote inTime, Chunked.calls_after, Chunked.error_after,
                Chunked.time_after, time]
              refine ⟨.wrote wait (count + 1) inTime (Nat.succ_pos count) fits written, ?_⟩
              simp only [List.map_cons, List.sum_cons, Call.elapsed, Nat.min_eq_left inTime]
              omega

section Rules

variable {timeout : Nat}

theorem taken_of_stops {offered : List UInt8} {reply : Reply Nat} {error : LinkError}
    (stops : writeError timeout reply = some error) : Call.taken timeout (.write offered reply) = [] := by
  rcases reply with ⟨wait, kind | _ | count⟩ | _
  · rfl
  · simp [Call.taken]
  · by_cases inTime : wait ≤ timeout
    · simp [writeError, inTime] at stops
    · simp [Call.taken, inTime]
  · rfl

theorem not_succeeds_of_stops {offered : List UInt8} {reply : Reply Nat} {error : LinkError}
    (stops : writeError timeout reply = some error) : ¬(Call.write offered reply).Succeeds timeout := by
  rcases reply with ⟨wait, kind | _ | count⟩ | _
  · exact fun succeeded => succeeded
  · exact fun succeeded => Nat.lt_irrefl 0 succeeded.2
  · intro succeeded
    simp only [Call.Succeeds] at succeeded
    simp [writeError, succeeded.1] at stops
  · exact fun succeeded => succeeded

theorem flushError_eq_none_iff (reply : Reply Unit) :
    flushError timeout reply = none ↔ (Call.flush reply).Succeeds timeout := by
  rcases reply with ⟨wait, kind | _⟩ | _
  · by_cases inTime : wait ≤ timeout <;> simp [flushError, Call.Succeeds, inTime, lateError]
  · by_cases inTime : wait ≤ timeout <;> simp [flushError, Call.Succeeds, inTime, lateError]
  · simp [flushError, Call.Succeeds, lateError]

variable {left : List UInt8} {calls : List Call} {error : Option LinkError}

theorem taken_wrote {wait count : Nat} (inTime : wait ≤ timeout)
    (fits : count ≤ (left.take blockLength).length) :
    Call.taken timeout (.write (left.take blockLength) (.after wait (.ok count))) = left.take count := by
  simp only [Call.taken, inTime, ↓reduceIte, List.take_take]
  rw [Nat.min_eq_left (by simp only [List.length_take] at fits; omega)]

theorem length_taken_wrote {wait count : Nat} (inTime : wait ≤ timeout)
    (fits : count ≤ (left.take blockLength).length) :
    (Call.taken timeout (.write (left.take blockLength) (.after wait (.ok count)))).length = count := by
  rw [taken_wrote inTime fits, List.length_take]
  simp only [List.length_take] at fits
  omega

theorem Written.offers (written : Written timeout left calls error) :
    ∀ (earlier : List Call) (offered : List UInt8) (reply : Reply Nat) (later : List Call),
      calls = earlier ++ .write offered reply :: later →
        offered = (left.drop (earlier.flatMap (Call.taken timeout)).length).take blockLength := by
  induction written with
  | flush reply =>
      intro earlier offered written later split
      rcases earlier with _ | ⟨first, earlier⟩
      · cases split
      · simp at split
  | @wrote left calls error wait count inTime took fits rest ih =>
      intro earlier offered reply later split
      rcases earlier with _ | ⟨first, earlier⟩
      · cases split
        rfl
      · obtain ⟨rfl, tail⟩ := List.cons_eq_cons.mp split
        rw [ih earlier offered reply later tail, List.flatMap_cons, List.length_append,
          length_taken_wrote inTime fits, List.drop_drop]
  | stopped reply nonempty stops =>
      intro earlier offered written later split
      rcases earlier with _ | ⟨first, earlier⟩
      · cases split
        rfl
      · simp at split

theorem Written.taken_prefix (written : Written timeout left calls error) :
    ∀ i, (calls.take i).flatMap (Call.taken timeout) <+: left := by
  induction written with
  | flush reply =>
      intro i
      rcases i with _ | i <;> simp [Call.taken]
  | @wrote left calls error wait count inTime took fits rest ih =>
      intro i
      rcases i with _ | i
      · simp
      · rw [List.take_succ_cons, List.flatMap_cons, taken_wrote inTime fits]
        have whole : left = left.take count ++ left.drop count := (List.take_append_drop count left).symm
        conv => rhs; rw [whole]
        exact (List.prefix_append_right_inj _).mpr (ih i)
  | stopped reply nonempty stops =>
      intro i
      rcases i with _ | i <;> simp [taken_of_stops stops]

theorem Written.error_eq_none_iff (written : Written timeout left calls error) :
    error = none ↔ ∀ call ∈ calls, call.Succeeds timeout := by
  induction written with
  | flush reply => simpa using flushError_eq_none_iff reply
  | wrote wait count inTime took fits rest ih =>
      rw [ih, List.forall_mem_cons]
      exact ⟨fun rest => ⟨⟨inTime, took⟩, rest⟩, fun both => both.2⟩
  | stopped reply nonempty stops =>
      simp only [reduceCtorEq, List.mem_singleton, forall_eq, false_iff]
      exact not_succeeds_of_stops stops

theorem Written.taken_of_clean (written : Written timeout left calls error) (clean : error = none) :
    calls.flatMap (Call.taken timeout) = left := by
  induction written with
  | flush reply => simp [Call.taken]
  | @wrote left calls error wait count inTime took fits rest ih =>
      rw [List.flatMap_cons, ih clean, taken_wrote inTime fits, List.take_append_drop]
  | stopped reply nonempty stops => cases clean

theorem Written.flush_last (written : Written timeout left calls error) :
    ∀ (earlier : List Call) (reply : Reply Unit) (later : List Call),
      calls = earlier ++ .flush reply :: later → later = [] ∧ ∀ call ∈ earlier, call.Succeeds timeout := by
  induction written with
  | flush reply =>
      intro earlier flushed later split
      rcases earlier with _ | ⟨first, earlier⟩
      · cases split
        simp
      · simp at split
  | wrote wait count inTime took fits rest ih =>
      intro earlier flushed later split
      rcases earlier with _ | ⟨first, earlier⟩
      · cases split
      · obtain ⟨rfl, tail⟩ := List.cons_eq_cons.mp split
        obtain ⟨last, succeeded⟩ := ih earlier flushed later tail
        exact ⟨last, List.forall_mem_cons.mpr ⟨⟨inTime, took⟩, succeeded⟩⟩
  | stopped reply nonempty stops =>
      intro earlier flushed later split
      rcases earlier with _ | ⟨first, earlier⟩
      · cases split
      · simp at split

theorem Written.of_nil (written : Written timeout [] calls error) : ∃ reply, calls = [.flush reply] := by
  cases written with
  | flush reply => exact ⟨reply, rfl⟩
  | wrote wait count inTime took fits rest => simp at fits; omega
  | stopped reply nonempty stops => exact absurd rfl nonempty

end Rules

/-- What a chunked write of `bytes` from `now` that ended as `r` did, call by call. -/
structure Chunked.InBlocks (timeout now : Nat) (bytes : List UInt8) (r : Chunked σ) : Prop where
  written : Written timeout bytes r.calls r.error
  offers : ∀ (earlier : List Call) (offered : List UInt8) (reply : Reply Nat) (later : List Call),
    r.calls = earlier ++ .write offered reply :: later →
      offered = (bytes.drop (earlier.flatMap (Call.taken timeout)).length).take blockLength
  holds_prefix : ∀ i, (r.calls.take i).flatMap (Call.taken timeout) <+: bytes
  clean_iff : r.error = none ↔ ∀ call ∈ r.calls, call.Succeeds timeout
  holds_all : r.error = none → r.calls.flatMap (Call.taken timeout) = bytes
  flush_last : ∀ (earlier : List Call) (reply : Reply Unit) (later : List Call),
    r.calls = earlier ++ .flush reply :: later → later = [] ∧ ∀ call ∈ earlier, call.Succeeds timeout
  only_flush : bytes = [] → ∃ reply, r.calls = [.flush reply]
  time : r.time = now + (r.calls.map (Call.elapsed timeout)).sum

/-- A chunked write loses and repeats nothing, whatever the sink answers, as long as it never
takes more than it is offered. Each write call is offered the block of at most 4096 bytes that
starts where the bytes taken so far end, so after every call the sink holds a prefix of the
buffer in order. The write ends cleanly, after one flush and with the whole buffer taken, exactly
when every call took bytes (or flushed) within the limit; otherwise the first call that did not
ends it: a write that took nothing as a closed link, a failed write or flush as its failure, a
call that did not complete in time as a timeout, and after a failed write nothing is flushed. An
empty buffer is only flushed. The limit applies to each call alone. -/
theorem writeChunkedTo_inBlocks (peer : Peer σ) (honest : peer.Honest) (timeout : Nat) (sink : σ)
    (now : Nat) (bytes : List UInt8) :
    (writeChunkedTo peer timeout sink now bytes).InBlocks timeout now bytes := by
  obtain ⟨written, time⟩ := written_writeChunkedTo peer honest timeout bytes sink now
  exact ⟨written, written.offers, written.taken_prefix, written.error_eq_none_iff,
    written.taken_of_clean, written.flush_last, fun empty => by subst empty; exact written.of_nil, time⟩

namespace ByteSink

theorem peer_honest : peer.Honest := by
  intro s now offered wait count next answered
  simp only [peer] at answered
  by_cases exhausted : s.exhausted
  · -- a sink whose mode has taken over takes nothing, fails or never answers
    simp only [exhausted, ↓reduceIte] at answered
    split at answered <;> simp only [Prod.mk.injEq, Reply.after.injEq, Except.ok.injEq,
      reduceCtorEq, false_and, and_false] at answered
    omega
  · simp only [exhausted, Bool.false_eq_true, ↓reduceIte, Prod.mk.injEq, Reply.after.injEq,
      Except.ok.injEq] at answered
    rw [← answered.1.2]
    exact List.length_take_le' _ _

/-- A scripted sink that takes at most three bytes a write, written ten bytes. -/
theorem writes_ten_bytes_in_threes :
    peer.Honest ∧
      (writeChunkedTo peer 1000 ({ script := { maxWrite := some 3 } } : ByteSink) 0
        [0, 1, 2, 3, 4, 5, 6, 7, 8, 9]).InBlocks 1000 0 [0, 1, 2, 3, 4, 5, 6, 7, 8, 9] :=
  ⟨peer_honest, writeChunkedTo_inBlocks peer peer_honest 1000 _ 0 _⟩

end ByteSink

end LinkTap.Channel
