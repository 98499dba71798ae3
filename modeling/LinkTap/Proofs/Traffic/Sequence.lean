import Mathlib
import LinkTap.Traffic.Sequence

/-!
# Sequence numbers read as advances

A cursor reads each number as an advance of 1 to 256 over the last one since the latest reset;
main statement: `observe_reads_advance`.
-/

set_option autoImplicit false

namespace LinkTap.Traffic

/-- The frames missing between consecutive sequence numbers of a run of numbers, each gap
counted modulo 256. -/
def missingFrames : List UInt8 → Nat
  | first :: second :: rest => (second.toNat + 255 - first.toNat) % 256 + missingFrames (second :: rest)
  | _ => 0

theorem missingFrames_join (last : Option UInt8) (seq : UInt8) (later : List UInt8) :
    missingFrames (last.toList ++ [seq]) + missingFrames (seq :: later) =
      missingFrames (last.toList ++ seq :: later) := by
  cases last with
  | none => simp [missingFrames]
  | some first => simp [missingFrames]

theorem gap_add_one_modEq (prev next : UInt8) :
    (((next.toNat + 255 - prev.toNat) % 256 : ℕ) : ℤ) + 1 ≡ next.toNat - prev.toNat [ZMOD 256] := by
  have below := prev.toNat_lt
  unfold Int.ModEq
  omega

theorem missingFrames_modEq (first : UInt8) (later : List UInt8) :
    (missingFrames (first :: later) : ℤ) ≡
      ((first :: later).getLast (List.cons_ne_nil first later)).toNat - first.toNat - later.length
        [ZMOD 256] := by
  induction later generalizing first with
  | nil => simp [missingFrames, Int.ModEq.refl]
  | cons next rest ih =>
      have step := gap_add_one_modEq first next
      have tail := ih next
      rw [List.getLast_cons (List.cons_ne_nil next rest)]
      simp only [missingFrames, Nat.cast_add, List.length_cons, Nat.cast_succ]
      calc ((((next.toNat + 255 - first.toNat) % 256 : ℕ) : ℤ) + (missingFrames (next :: rest) : ℤ))
          = ((((next.toNat + 255 - first.toNat) % 256 : ℕ) : ℤ) + 1) +
              ((missingFrames (next :: rest) : ℤ) - 1) := by ring
        _ ≡ ((next.toNat : ℤ) - first.toNat) +
              ((((next :: rest).getLast (List.cons_ne_nil next rest)).toNat : ℤ) - next.toNat -
                rest.length - 1) [ZMOD 256] := step.add (tail.sub_right 1)
        _ = ((next :: rest).getLast (List.cons_ne_nil next rest)).toNat - first.toNat -
              (rest.length + 1) := by ring

namespace SequenceCursor

@[simp] theorem observe_cursor (c : SequenceCursor) (seq : UInt8) : (c.observe seq).2 = { last := some seq } := by
  unfold observe
  split
  · rfl
  · dsimp only
    split_ifs <;> rfl

theorem dropped_observe (c : SequenceCursor) (seq : UInt8) :
    (((c.observe seq).1.map (·.dropped)).getD 0) = missingFrames (c.last.toList ++ [seq]) := by
  unfold observe
  split
  · rename_i start
    simp [start, missingFrames]
  · rename_i last seen
    simp only [seen, Option.toList_some, List.cons_append, List.nil_append, missingFrames, Nat.add_zero]
    have := last.toNat_lt
    have := seq.toNat_lt
    split
    · rename_i next
      rw [next, UInt8.toNat_add, UInt8.toNat_one]
      simp only [Option.map_none, Option.getD_none]
      omega
    · simp only [Option.map_some, Option.getD_some, UInt8.toNat_sub, UInt8.toNat_add, UInt8.toNat_one]
      omega

/-! ### One observation -/

theorem toNat_sub_succ (seq last : UInt8) :
    (seq - (last + 1)).toNat = (seq.toNat + 255 - last.toNat) % 256 := by
  have := last.toNat_lt
  have := seq.toNat_lt
  simp only [UInt8.toNat_sub, UInt8.toNat_add, UInt8.toNat_one]
  omega

theorem gap_pos_of_ne_succ {seq last : UInt8} (skipped : seq ≠ last + 1) :
    1 ≤ (seq.toNat + 255 - last.toNat) % 256 ∧ (seq.toNat + 255 - last.toNat) % 256 ≤ 255 := by
  have := last.toNat_lt
  have := seq.toNat_lt
  have apart : seq.toNat ≠ (last + 1).toNat := fun same => skipped (UInt8.toNat_inj.mp same)
  rw [UInt8.toNat_add, UInt8.toNat_one] at apart
  omega

theorem report_observe (c : SequenceCursor) (seq : UInt8) :
    (c.observe seq).1 = c.last.bind fun last =>
      if seq = last + 1 then none
      else some { dropped := (seq.toNat + 255 - last.toNat) % 256, expected := last + 1, seen := seq } := by
  unfold observe
  cases c.last with
  | none => rfl
  | some last =>
      dsimp only [Option.bind_some]
      split_ifs <;> simp [toNat_sub_succ]

theorem observe_eq_none_iff (c : SequenceCursor) (seq : UInt8) :
    (c.observe seq).1 = none ↔ c.last = none ∨ ∃ last, c.last = some last ∧ seq = last + 1 := by
  rw [report_observe]
  cases c.last with
  | none => simp
  | some last => by_cases next : seq = last + 1 <;> simp [next]

theorem observe_eq_some_iff (c : SequenceCursor) (seq : UInt8) (gap : Gap) :
    (c.observe seq).1 = some gap ↔
      ∃ last, c.last = some last ∧ seq ≠ last + 1 ∧
        gap = { dropped := (seq.toNat + 255 - last.toNat) % 256, expected := last + 1, seen := seq } ∧
        1 ≤ gap.dropped ∧ gap.dropped ≤ 255 := by
  rw [report_observe]
  cases c.last with
  | none => simp
  | some last =>
      by_cases next : seq = last + 1
      · simp [next]
      · have bounds := gap_pos_of_ne_succ next
        constructor
        · intro reported
          simp only [Option.bind_some, next, ↓reduceIte, Option.some.injEq] at reported
          subst reported
          exact ⟨last, rfl, next, rfl, bounds⟩
        · rintro ⟨_, found, -, rfl, -⟩
          cases found
          simp [next]

/-! ### Histories of calls -/

/-- A call on a cursor: observe a number, forget the last one, or ask for it. -/
inductive Call where
  | observe (seq : UInt8)
  | reset
  | last
deriving DecidableEq, Repr

def Call.observed : Call → Option UInt8
  | .observe seq => some seq
  | _ => none

/-- The cursor after one call; asking for the last number changes nothing. -/
def perform (c : SequenceCursor) : Call → SequenceCursor
  | .observe seq => (c.observe seq).2
  | .reset => c.reset
  | .last => c

def replay (calls : List Call) : SequenceCursor := calls.foldl perform {}

/-- The number observed most recently since the latest reset: the first number observed when
the calls made since the latest reset are read newest first. -/
def latestObserved (calls : List Call) : Option UInt8 :=
  ((calls.reverse.takeWhile (· != Call.reset)).filterMap Call.observed).head?

@[simp] theorem latestObserved_nil : latestObserved [] = none := rfl

theorem latestObserved_append_observe (calls : List Call) (seq : UInt8) :
    latestObserved (calls ++ [.observe seq]) = some seq := by
  simp [latestObserved, Call.observed]

theorem latestObserved_append_reset (calls : List Call) :
    latestObserved (calls ++ [.reset]) = none := by
  simp [latestObserved]

theorem latestObserved_append_last (calls : List Call) :
    latestObserved (calls ++ [.last]) = latestObserved calls := by
  simp [latestObserved, Call.observed, List.findSome?_cons]

theorem last_replay (calls : List Call) : (replay calls).last = latestObserved calls := by
  induction calls using List.reverseRecOn with
  | nil => rfl
  | append_singleton calls call ih =>
      rw [replay, List.foldl_append, List.foldl_cons, List.foldl_nil, ← replay]
      cases call with
      | observe seq => rw [perform, observe_cursor, latestObserved_append_observe]
      | reset => rw [perform, latestObserved_append_reset]; rfl
      | last => rw [perform, latestObserved_append_last, ih]

/-! ### Runs of observations -/

/-- The frames reported missing at each number of a run observed in turn, zero where nothing
is reported. -/
def droppedCounts (c : SequenceCursor) : List UInt8 → List Nat
  | [] => []
  | seq :: later => ((c.observe seq).1.map (·.dropped)).getD 0 :: droppedCounts (c.observe seq).2 later

theorem sum_droppedCounts (c : SequenceCursor) (seqs : List UInt8) :
    (droppedCounts c seqs).sum = missingFrames (c.last.toList ++ seqs) := by
  induction seqs generalizing c with
  | nil => cases c.last <;> simp [droppedCounts, missingFrames]
  | cons seq later ih =>
      rw [droppedCounts, List.sum_cons, ih, dropped_observe, observe_cursor, Option.toList_some,
        List.singleton_append, missingFrames_join]

example : droppedCounts {} [5, 6, 9, 10] = [0, 0, 2, 0] ∧ droppedCounts {} [254, 255, 0, 1] = [0, 0, 0, 0] ∧
    droppedCounts {} [5, 4] = [0, 254] ∧ droppedCounts {} [7, 7] = [0, 255] := by
  decide

theorem droppedCounts_add_one_modEq (first : UInt8) (later : List UInt8) :
    ∀ i < later.length, ((droppedCounts { last := some first } later).getD i 0 : ℤ) + 1 ≡
      (later.getD i 0).toNat - ((first :: later).getD i 0).toNat [ZMOD 256] := by
  induction later generalizing first with
  | nil => simp
  | cons next rest ih =>
      intro i inside
      cases i with
      | zero =>
          have reported := dropped_observe { last := some first } next
          simp only [Option.toList_some, List.cons_append, List.nil_append, missingFrames,
            Nat.add_zero] at reported
          simp only [droppedCounts, List.getD_cons_zero, reported]
          exact gap_add_one_modEq first next
      | succ k =>
          simp only [droppedCounts, observe_cursor, List.getD_cons_succ]
          exact ih next k (by simpa using inside)

theorem sum_droppedCounts_modEq (first : UInt8) (later : List UInt8) :
    ((droppedCounts { last := some first } later).sum : ℤ) ≡
      ((first :: later).getLast (List.cons_ne_nil first later)).toNat - first.toNat - later.length
        [ZMOD 256] := by
  have counted := sum_droppedCounts { last := some first } later
  rw [Option.toList_some, List.singleton_append] at counted
  rw [counted]
  exact missingFrames_modEq first later

/-- The cursor reads every step as an advance of 1 to 256. After any history of calls its last
number is the latest one observed since the latest reset; observing a number then reports
nothing exactly when there is no such number or the new one is its successor modulo 256, and
otherwise a gap that expects the successor, has seen the new number and counts
`(seq - last - 1) mod 256` missing frames, from 1 to 255. Over a run `s₀, s₁, …, sₙ` observed
with no reset between, each count reported plus one is `sᵢ - sᵢ₋₁` modulo 256, and the counts
add up to `sₙ - s₀ - n` modulo 256. -/
theorem observe_reads_advance :
    (∀ calls : List Call, (replay calls).last = latestObserved calls) ∧
    (∀ (calls : List Call) (seq : UInt8),
      ((replay calls).observe seq).1 = none ↔
        latestObserved calls = none ∨ ∃ last, latestObserved calls = some last ∧ seq = last + 1) ∧
    (∀ (calls : List Call) (seq : UInt8) (gap : Gap),
      ((replay calls).observe seq).1 = some gap ↔
        ∃ last, latestObserved calls = some last ∧ seq ≠ last + 1 ∧
          gap = { dropped := (seq.toNat + 255 - last.toNat) % 256, expected := last + 1, seen := seq } ∧
          1 ≤ gap.dropped ∧ gap.dropped ≤ 255) ∧
    (∀ (c : SequenceCursor) (first : UInt8) (later : List UInt8),
      (∀ i < later.length, ((droppedCounts (c.observe first).2 later).getD i 0 : ℤ) + 1 ≡
        (later.getD i 0).toNat - ((first :: later).getD i 0).toNat [ZMOD 256]) ∧
      ((droppedCounts (c.observe first).2 later).sum : ℤ) ≡
        ((first :: later).getLast (List.cons_ne_nil first later)).toNat - first.toNat - later.length
          [ZMOD 256]) := by
  refine ⟨last_replay, ?_, ?_, ?_⟩
  · intro calls seq
    rw [observe_eq_none_iff, last_replay]
  · intro calls seq gap
    rw [observe_eq_some_iff, last_replay]
  · intro c first later
    rw [observe_cursor]
    exact ⟨droppedCounts_add_one_modEq first later, sum_droppedCounts_modEq first later⟩

end SequenceCursor

end LinkTap.Traffic
