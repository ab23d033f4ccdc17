/-! # The timestamp task

The task waits one interval, appends a record, and starts over, until the shutdown flag is set. It
is a machine that is polled: a poll sees the time and the flag, and may set off an append, whose end
is a happening of its own. The next wait starts only when an append has ended, so that late polls
and slow appends never make two records follow each other more closely than one interval.

Times are in milliseconds. A clock has a last instant, and a wait that would have to go beyond it
kills the task.
-/

namespace PacketLog

/-- What the task is doing: about to start a wait, waiting for a deadline, appending a record, or
done for one of two reasons. -/
inductive TimestampPhase
  | starting
  | waiting (deadline : Nat)
  | appending
  | stopped
  | dead
  deriving DecidableEq, Repr

/-- The task: its interval, and what it is doing. -/
structure TimestampTask where
  interval : Nat
  phase : TimestampPhase
  deriving DecidableEq, Repr

namespace TimestampTask

/-- The last instant of a clock that counts seconds in 63 bits. -/
def lastInstant : Nat := ((1 <<< 63) - 1) * 1000 + 999

/-- A task that has not been polled yet. -/
def new (interval : Nat) : TimestampTask := ⟨interval, .starting⟩

/-- Whether the task has come to an end. -/
def isDone (task : TimestampTask) : Bool := task.phase == .stopped || task.phase == .dead

/-- Starts a wait, unless the flag is set. -/
def startWait (task : TimestampTask) (now : Nat) (flag : Bool) : TimestampTask :=
  { task with phase :=
      if flag then .stopped
      else if lastInstant < now + task.interval then .dead
      else .waiting (now + task.interval) }

/-- A wait is over. The flag is looked at once more, so that nothing is written after it was set. -/
def wake (task : TimestampTask) (flag : Bool) : TimestampTask :=
  { task with phase := if flag then .stopped else .appending }

/-- Polls a task that is waiting. When both the time has come and the flag is set, either may be
noticed first. -/
def pollWait (task : TimestampTask) (now : Nat) (flag timerFirst : Bool) : TimestampTask :=
  match task.phase with
  | .waiting deadline =>
      if deadline ≤ now ∧ (flag = false ∨ timerFirst = true) then task.wake flag
      else if flag then { task with phase := .stopped }
      else task
  | _ => task

/-- Polls the task. -/
def poll (task : TimestampTask) (now : Nat) (flag timerFirst : Bool) : TimestampTask :=
  match task.phase with
  | .starting => (task.startWait now flag).pollWait now flag timerFirst
  | .waiting _ => task.pollWait now flag timerFirst
  | _ => task

/-- The append that was set off has ended, well or badly, and the task is polled for it. -/
def appendDone (task : TimestampTask) (now : Nat) (flag timerFirst : Bool) : TimestampTask :=
  match task.phase with
  | .appending => (task.startWait now flag).pollWait now flag timerFirst
  | _ => task

end TimestampTask

end PacketLog
