import Mathlib
import LinkTap.Replay.Scheduler

/-!
# A wait for a record ends when the record is due

With a positive interval the wait ends at the due time after its reports, and with a zero
interval a wait for a later time never ends; main statement: `waitUntilDue_ends_when_due`.
-/

set_option autoImplicit false

namespace LinkTap.Replay

open LinkTap.Dump

namespace Clock

/-- No cancellation is requested before `t`. -/
def QuietUntil (c : Clock) (t : Nat) : Prop := ∀ at_ ∈ c.cancelAt, t ≤ at_

instance (c : Clock) (t : Nat) : Decidable (c.QuietUntil t) :=
  inferInstanceAs (Decidable (∀ at_ ∈ c.cancelAt, t ≤ at_))

theorem waitUntil_bind (c : Clock) (t u : Nat) :
    (c.waitUntil t).bind (·.waitUntil u) = c.waitUntil (max t u) := by
  cases cancel : c.cancelAt with
  | none => simp [waitUntil, cancel, Except.bind, Nat.max_assoc]
  | some at_ =>
      simp only [waitUntil, cancel]
      by_cases first : at_ < max c.now t
      · have both : at_ < max c.now (max t u) := by omega
        simp [first, both, Except.bind]
      · by_cases second : at_ < max (max c.now t) u
        · have both : at_ < max c.now (max t u) := by omega
          simp only [first, second, both, if_false, if_true, Except.bind]
          congr 2
          omega
        · have both : ¬ at_ < max c.now (max t u) := by omega
          simp [first, both, Except.bind, Nat.max_assoc]

theorem waitUntil_of_quiet {c : Clock} {t : Nat} (quiet : c.QuietUntil (max c.now t)) :
    c.waitUntil t = .ok { c with now := max c.now t } := by
  cases cancel : c.cancelAt with
  | none => simp [waitUntil, cancel]
  | some at_ =>
      have late : max c.now t ≤ at_ := quiet at_ cancel
      simp [waitUntil, cancel, Nat.not_lt.mpr late]

theorem eq_of_waitUntil_ok {c next : Clock} {t : Nat} (woke : c.waitUntil t = .ok next) :
    next = { c with now := max c.now t } := by
  cases cancel : c.cancelAt with
  | none => simpa [waitUntil, cancel, eq_comm] using woke
  | some at_ =>
      simp only [waitUntil, cancel] at woke
      split_ifs at woke
      exact (Except.ok.inj woke).symm

theorem now_of_waitUntil_ok {c next : Clock} {t : Nat} (woke : c.waitUntil t = .ok next)
    (ahead : c.now ≤ t) : next.now = t := by
  rw [eq_of_waitUntil_ok woke]
  exact Nat.max_eq_right ahead

end Clock

namespace Waiting

/-- When a wait from `now` until `due` reports its progress: one interval after it starts and every
interval after that, `⌈(due - now) / interval⌉ - 1` times. -/
def reportTimes (now interval due : Nat) : List Nat :=
  (List.range ((due - now) ⌈/⌉ interval - 1)).map fun j => now + (j + 1) * interval

theorem reports_before_due {interval : Nat} (positive : 0 < interval) (now due : Nat) :
    (∀ j < (due - now) ⌈/⌉ interval - 1, now + interval + j * interval < due) ∧
      due ≤ now + interval + ((due - now) ⌈/⌉ interval - 1) * interval := by
  have enough : due - now ≤ interval * ((due - now) ⌈/⌉ interval) :=
    (ceilDiv_le_iff_le_mul positive).1 le_rfl
  have fewer : 0 < (due - now) ⌈/⌉ interval →
      interval * ((due - now) ⌈/⌉ interval - 1) < due - now := fun some =>
    Nat.lt_of_not_le fun covered => by
      have := (ceilDiv_le_iff_le_mul positive).2 covered
      omega
  generalize (due - now) ⌈/⌉ interval = count at enough fewer ⊢
  constructor
  · intro j below
    have within : (j + 1) * interval ≤ (count - 1) * interval := Nat.mul_le_mul_right _ (by omega)
    have := fewer (by omega)
    rw [Nat.succ_mul, Nat.mul_comm (count - 1)] at within
    omega
  · cases count with
    | zero => omega
    | succ count =>
        rw [Nat.mul_comm, Nat.succ_mul] at enough
        simp only [Nat.add_sub_cancel]
        omega

theorem times_succ (first interval m : Nat) :
    (List.range (m + 1)).map (first + · * interval) =
      first :: (List.range m).map (first + interval + · * interval) := by
  rw [List.range_succ_eq_map, List.map_cons, List.map_map, Nat.zero_mul, Nat.add_zero]
  congr 1
  exact List.map_congr_left fun j _ => by
    simp only [Function.comp_apply, Nat.succ_eq_add_one]
    ring

variable {interval due : Nat}

theorem report_of_ok {w : Waiting} {clock : Clock} (woke : w.clock.waitUntil w.nextReport = .ok clock)
    (ahead : w.clock.now ≤ w.nextReport) :
    w.report interval =
      .ok { clock, nextReport := w.nextReport + interval, reports := w.reports ++ [w.nextReport] } := by
  simp [report, woke, Clock.now_of_waitUntil_ok woke ahead, Except.map]

theorem untilDue_of_reports (m : Nat) {w : Waiting}
    (early : ∀ j < m, w.nextReport + j * interval < due) (late : due ≤ w.nextReport + m * interval)
    (ahead : w.clock.now ≤ w.nextReport) (fuel : Nat) :
    untilDue interval due (fuel + m + 1) w =
      some ((w.clock.waitUntil due).map fun clock =>
        { clock, nextReport := w.nextReport + m * interval,
          reports := w.reports ++ (List.range m).map (w.nextReport + · * interval) }) := by
  induction m generalizing w with
  | zero =>
      have passed : ¬ w.nextReport < due := by omega
      simp [untilDue, passed]
  | succ m ih =>
      have before : w.nextReport < due := by simpa using early 0 (Nat.succ_pos m)
      have joined : (w.clock.waitUntil w.nextReport).bind (·.waitUntil due) = w.clock.waitUntil due := by
        rw [Clock.waitUntil_bind, Nat.max_eq_right before.le]
      rw [show fuel + (m + 1) + 1 = (fuel + m + 1) + 1 by omega, untilDue, if_pos before]
      cases woke : w.clock.waitUntil w.nextReport with
      | error clock =>
          rw [woke] at joined
          simp [report, woke, ← joined, Except.bind, Except.map]
      | ok clock =>
          rw [woke] at joined
          have next : w.report interval = _ := report_of_ok woke ahead
          have clockNow : clock.now = w.nextReport := Clock.now_of_waitUntil_ok woke ahead
          have stepped := @ih
              { clock, nextReport := w.nextReport + interval, reports := w.reports ++ [w.nextReport] }
            (fun j below => by
              have := early (j + 1) (by omega)
              dsimp only
              rw [Nat.succ_mul] at this
              omega)
            (by dsimp only; rw [Nat.succ_mul] at late; omega) (by dsimp only; omega)
          have nextAfter : w.nextReport + interval + m * interval = w.nextReport + (m + 1) * interval := by
            ring
          have reportsAfter : w.reports ++ [w.nextReport] ++
              (List.range m).map (w.nextReport + interval + · * interval) =
                w.reports ++ (List.range (m + 1)).map (w.nextReport + · * interval) := by
            rw [times_succ, List.append_assoc, List.singleton_append]
          rw [next]
          simp only [stepped, ← joined, Except.bind, nextAfter, reportsAfter]

theorem untilDue_start (positive : 0 < interval) (clock : Clock) {fuel : Nat}
    (enough : (due - clock.now) ⌈/⌉ interval - 1 < fuel) :
    untilDue interval due fuel (start clock interval) =
      some ((clock.waitUntil due).map fun ended =>
        { clock := ended,
          nextReport := clock.now + interval + ((due - clock.now) ⌈/⌉ interval - 1) * interval,
          reports := reportTimes clock.now interval due }) := by
  unfold reportTimes
  obtain ⟨early, late⟩ := reports_before_due positive clock.now due
  generalize (due - clock.now) ⌈/⌉ interval - 1 = count at early late enough ⊢
  obtain ⟨spare, rfl⟩ : ∃ spare, fuel = spare + count + 1 := ⟨fuel - count - 1, by omega⟩
  have times : (List.range count).map (clock.now + interval + · * interval) =
      (List.range count).map fun j => clock.now + (j + 1) * interval :=
    List.map_congr_left fun j _ => by ring
  rw [untilDue_of_reports count early late (Nat.le_add_right _ _)]
  simp only [start, List.nil_append, times]

theorem report_of_zero_interval {w : Waiting} (now : w.nextReport = w.clock.now) :
    w.report 0 =
      if w.clock.cancelled then .error w.clock else .ok { w with reports := w.reports ++ [w.clock.now] } := by
  obtain ⟨⟨time, cancelAt⟩, next, reports⟩ := w
  dsimp only at now ⊢
  subst next
  cases cancelAt with
  | none => simp [report, Clock.waitUntil, Clock.cancelled, Except.map]
  | some at_ =>
      by_cases early : at_ < time
      · simp [report, Clock.waitUntil, Clock.cancelled, early, Nat.max_eq_left early.le, Except.map]
      · simp [report, Clock.waitUntil, Clock.cancelled, early, Except.map]

theorem untilDue_of_zero_interval {w : Waiting} (now : w.nextReport = w.clock.now)
    (ahead : w.clock.now < due) (fuel : Nat) :
    untilDue 0 due fuel w = if 0 < fuel ∧ w.clock.cancelled then some (.error w.clock) else none := by
  induction fuel generalizing w with
  | zero => simp [untilDue]
  | succ fuel ih =>
      rw [untilDue, if_pos (by omega), report_of_zero_interval now]
      by_cases cancelled : w.clock.cancelled
      · simp [cancelled]
      · simp only [cancelled, Bool.false_eq_true, if_false]
        rw [@ih { w with reports := w.reports ++ [w.clock.now] } now ahead]
        simp [cancelled]

end Waiting

namespace Scheduler

variable (s : Scheduler) (record : Record)

theorem waitUntilDue_of_positive (positive : 0 < s.settings.progressInterval) :
    ∃ next : Nat, (s.waitUntilDue record).2 = some ((s.clock.waitUntil (s.dueAt record)).map fun clock =>
      (⟨clock, next, Waiting.reportTimes s.clock.now s.settings.progressInterval (s.dueAt record)⟩,
        clock.now - s.reference.getD s.clock.now)) := by
  have bounded : (s.dueAt record - s.clock.now) ⌈/⌉ s.settings.progressInterval ≤ s.dueAt record - s.clock.now :=
    (ceilDiv_le_iff_le_mul positive).2 (Nat.le_mul_of_pos_left _ positive)
  refine ⟨s.clock.now + s.settings.progressInterval +
    ((s.dueAt record - s.clock.now) ⌈/⌉ s.settings.progressInterval - 1) * s.settings.progressInterval, ?_⟩
  rw [waitUntilDue, Waiting.untilDue_start positive s.clock (by omega)]
  cases s.clock.waitUntil (s.dueAt record) <;> rfl

/-- Waiting for a record ends exactly when the record is due. The wait fixes the pass's baseline
and reference, if the pass has none yet, to the record's capture time and now; the record is due
at the reference plus how much later than the baseline it was captured, at the reference if
earlier. With a positive interval and no cancellation before then, the wait returns at the due
time, or at once if that has passed, with the time since the reference, after reporting its
progress one interval after it starts and every interval after that while before the due time:
`⌈(due - now) / interval⌉ - 1` reports, none when the due time is at most one interval away.
With a zero interval and a due time still to come, the next report time never moves past now, so
however many rounds it is given the wait does not return unless it was cancelled already. -/
theorem waitUntilDue_ends_when_due :
    (s.waitUntilDue record).1 = { s with
        baseline := some (s.baseline.getD record.timestampMs),
        reference := some (s.reference.getD s.clock.now) } ∧
      (0 < s.settings.progressInterval → s.clock.QuietUntil (max s.clock.now (s.dueAt record)) →
        ∃ w : Waiting, (s.waitUntilDue record).2 =
            some (.ok (w, max s.clock.now (s.dueAt record) - s.reference.getD s.clock.now)) ∧
          w.clock = { s.clock with now := max s.clock.now (s.dueAt record) } ∧
          w.reports = Waiting.reportTimes s.clock.now s.settings.progressInterval (s.dueAt record)) ∧
      (s.settings.progressInterval = 0 → s.clock.now < s.dueAt record →
        (s.waitUntilDue record).2 = (if s.clock.cancelled then some (.error s.clock) else none) ∧
        ∀ fuel, Waiting.untilDue 0 (s.dueAt record) fuel (.start s.clock 0) =
          if 0 < fuel ∧ s.clock.cancelled then some (.error s.clock) else none) := by
  refine ⟨rfl, fun positive quiet => ?_, fun stalled ahead => ?_⟩
  · obtain ⟨next, waited⟩ := waitUntilDue_of_positive s record positive
    rw [Clock.waitUntil_of_quiet quiet] at waited
    exact ⟨_, waited, rfl, rfl⟩
  · -- the loop's next report stays at the start, where the clock stands
    have never : ∀ fuel, Waiting.untilDue 0 (s.dueAt record) fuel (.start s.clock 0) =
        if 0 < fuel ∧ s.clock.cancelled then some (.error s.clock) else none :=
      Waiting.untilDue_of_zero_interval (Nat.add_zero _) ahead
    refine ⟨?_, never⟩
    rw [waitUntilDue, stalled, never]
    by_cases cancelled : s.clock.cancelled <;> simp [cancelled, Except.map]

/-- A record due 1.2 s after its wait starts, with the default half-second interval: the wait
reports at 0.6 s and 1.1 s and returns at 1.3 s, the time since the pass's reference. With a
zero interval the same wait does not end. -/
theorem wait_reports_twice_before_due :
    let paced : Scheduler := {
      settings := {}, reader := .ofBytes [], clock := { now := 100 }, sink := {},
      baseline := some 1000, reference := some 0 }
    let stalled : Scheduler := { paced with settings := { progressInterval := 0 } }
    let record : Record := ⟨2300, [8, 0, 0, 0]⟩
    (0 < paced.settings.progressInterval ∧ paced.clock.QuietUntil (max paced.clock.now (paced.dueAt record)) ∧
      ∃ w : Waiting, (paced.waitUntilDue record).2 = some (.ok (w, 1300)) ∧ w.clock.now = 1300 ∧
        w.reports = [600, 1100]) ∧
    (stalled.settings.progressInterval = 0 ∧ stalled.clock.now < stalled.dueAt record ∧
      (stalled.waitUntilDue record).2 = none) := by
  intro paced stalled record
  have quiet : paced.clock.QuietUntil (max paced.clock.now (paced.dueAt record)) := by decide
  obtain ⟨w, waited, clock, reports⟩ := (waitUntilDue_ends_when_due paced record).2.1 (by decide) quiet
  have ended := ((waitUntilDue_ends_when_due stalled record).2.2 rfl (by decide)).1
  have due : max paced.clock.now (paced.dueAt record) = 1300 := by decide
  have reference : paced.reference.getD paced.clock.now = 0 := rfl
  refine ⟨⟨by decide, quiet, w, by rw [waited, due, reference], by rw [clock, due],
    by rw [reports]; decide⟩, rfl, by decide, ?_⟩
  rw [ended]
  rfl

end Scheduler

end LinkTap.Replay
