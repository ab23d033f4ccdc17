import Mathlib
import PacketLog.Timestamp.Task

/-! # The deadlines of timestamp tasks

A clock has a last instant, and a task waits only for instants that the clock has. It dies where a
wait would have to go beyond the last one (`TimestampTask.phase_waitAnew_eq_dead`), and nowhere
else: that a task is dead tells that the clock ends within an interval (`TimestampTask.InTime`).
-/

namespace PacketLog

namespace TimestampTask

variable {t : TimestampTask} {now : Nat} {flag timerFirst : Bool}

/-- What a task does that starts and what it does after an append: it starts a wait, and may notice
its end at once. -/
def waitAnew (t : TimestampTask) (now : Nat) (flag timerFirst : Bool) : TimestampTask :=
  (t.startWait now flag).pollWait now flag timerFirst

/-- The first poll starts a wait. -/
theorem poll_starting (starting : t.phase = .starting) :
    t.poll now flag timerFirst = t.waitAnew now flag timerFirst := by
  rw [poll, starting]
  rfl

/-- A task that waits is polled for its wait. -/
theorem poll_waiting {deadline : Nat} (waiting : t.phase = .waiting deadline) :
    t.poll now flag timerFirst = t.pollWait now flag timerFirst := by
  rw [poll, waiting]

/-- The end of an append starts a wait. -/
theorem appendDone_appending (appending : t.phase = .appending) :
    t.appendDone now flag timerFirst = t.waitAnew now flag timerFirst := by
  rw [appendDone, appending]
  rfl

/-- Polling a wait leaves it as it is, or ends it. -/
theorem pollWait_eq_or (t : TimestampTask) (now : Nat) (flag timerFirst : Bool) :
    t.pollWait now flag timerFirst = t ∨
      t.pollWait now flag timerFirst = { t with phase := .stopped } ∨
      t.pollWait now flag timerFirst = { t with phase := .appending } := by
  unfold pollWait wake
  split
  · split_ifs
    · exact .inr (.inl rfl)
    · exact .inr (.inr rfl)
    · exact .inr (.inl rfl)
    · exact .inl rfl
  · exact .inl rfl

private theorem interval_pollWait : (t.pollWait now flag timerFirst).interval = t.interval := by
  rcases t.pollWait_eq_or now flag timerFirst with same | same | same <;> rw [same]

private theorem interval_waitAnew : (t.waitAnew now flag timerFirst).interval = t.interval :=
  interval_pollWait

/-- A poll never changes the interval. -/
theorem interval_poll : (t.poll now flag timerFirst).interval = t.interval := by
  cases phase : t.phase with
  | starting => rw [poll_starting phase, interval_waitAnew]
  | waiting deadline => rw [poll_waiting phase, interval_pollWait]
  | appending | stopped | dead => rw [poll, phase]

/-- The end of an append never changes the interval. -/
theorem interval_appendDone : (t.appendDone now flag timerFirst).interval = t.interval := by
  cases phase : t.phase with
  | appending => rw [appendDone_appending phase, interval_waitAnew]
  | starting | waiting deadline | stopped | dead => rw [appendDone, phase]

/-- **Where a task dies.** A task that starts a wait dies of it exactly if there is no instant at
which the wait could end. -/
theorem phase_waitAnew_eq_dead :
    (t.waitAnew now false timerFirst).phase = .dead ↔ lastInstant < now + t.interval := by
  unfold waitAnew
  by_cases beyond : lastInstant < now + t.interval
  · have dead : (t.startWait now false).phase = .dead := by simp [startWait, beyond]
    rw [pollWait, dead]
    exact iff_of_true dead beyond
  · have waiting : (t.startWait now false).phase = .waiting (now + t.interval) := by
      simp [startWait, beyond]
    refine iff_of_false ?_ beyond
    rcases (t.startWait now false).pollWait_eq_or now false timerFirst with same | same | same <;>
      simp [same, waiting]

/-- A task that waits for an instant the clock has, and is dead only if the clock ends within an
interval. -/
structure InTime (t : TimestampTask) (now : Nat) : Prop where
  waits : ∀ deadline, t.phase = .waiting deadline → deadline ≤ lastInstant
  dies : t.phase = .dead → lastInstant < now + t.interval

/-- A new task is in time. -/
theorem inTime_new (interval now : Nat) : (new interval).InTime now :=
  ⟨nofun, nofun⟩

private theorem inTime_startWait : (t.startWait now flag).InTime now := by
  unfold startWait
  split_ifs with set beyond
  · exact ⟨nofun, nofun⟩
  · exact ⟨nofun, fun _ => beyond⟩
  · refine ⟨?_, nofun⟩
    rintro _ ⟨⟩
    exact Nat.le_of_not_lt beyond

namespace InTime

variable (inTime : t.InTime now)
include inTime

/-- A task that is in time stays so as time passes. -/
theorem later {instant : Nat} (le : now ≤ instant) : t.InTime instant where
  waits := inTime.waits
  dies := fun dead => Nat.lt_of_lt_of_le (inTime.dies dead) (Nat.add_le_add_right le _)

private theorem pollWait : (t.pollWait now flag timerFirst).InTime now := by
  rcases t.pollWait_eq_or now flag timerFirst with same | same | same
  · rw [same]
    exact inTime
  · rw [same]
    exact ⟨nofun, nofun⟩
  · rw [same]
    exact ⟨nofun, nofun⟩

/-- A poll leaves a task in time. -/
theorem poll : (t.poll now flag timerFirst).InTime now := by
  cases phase : t.phase with
  | starting =>
      rw [poll_starting phase]
      exact inTime_startWait.pollWait
  | waiting deadline =>
      rw [poll_waiting phase]
      exact inTime.pollWait
  | appending | stopped | dead =>
      rw [TimestampTask.poll, phase]
      exact inTime

/-- The end of an append leaves a task in time. -/
theorem appendDone : (t.appendDone now flag timerFirst).InTime now := by
  cases phase : t.phase with
  | appending =>
      rw [appendDone_appending phase]
      exact inTime_startWait.pollWait
  | starting | waiting deadline | stopped | dead =>
      rw [TimestampTask.appendDone, phase]
      exact inTime

end InTime

end TimestampTask

end PacketLog
