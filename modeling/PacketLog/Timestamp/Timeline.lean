import PacketLog.Framing.Packets
import PacketLog.Shutdown.Flag
import PacketLog.Storage.SharedLog
import PacketLog.Timestamp.Record
import PacketLog.Timestamp.Task

/-! # The timestamp task on a log

A `Timeline` runs the timestamp task against a log: time passes in sleeps and jumps, and the flag is
set in between. While time passes in a sleep, the task is polled at the very instant that each of
its waits ends, and its appends take no time. `Timeline.census` counts the records of the log.
-/

namespace PacketLog

/-- A timestamp task with the time, the shutdown flag, and the log it writes to. -/
structure Timeline where
  task : TimestampTask
  now : Nat
  flag : ShutdownFlag
  log : SharedLog
  storage : Storage

namespace Timeline

/-- A task that is started at some time. -/
def start (interval now : Nat) (flag : ShutdownFlag) (log : SharedLog) (storage : Storage) :
    Timeline :=
  ⟨(TimestampTask.new interval).poll now flag.triggered true, now, flag, log, storage⟩

/-- The moment that a clock set to the beginning of 1970 shows. -/
def moment (t : Timeline) : Moment := ⟨t.now / 1000, 0, 0⟩

/-- Carries out the append that the task has set off, if any. Its failure is no concern of the
task. -/
def writeRecord (t : Timeline) : Timeline :=
  match t.task.phase with
  | .appending =>
      { t with
        storage := (t.log.appendAsync t.moment.record t.storage).2
        task := t.task.appendDone t.now t.flag.triggered true }
  | _ => t

/-- Polls the task, and carries out the append this sets off. -/
def poll (t : Timeline) : Timeline :=
  { t with task := t.task.poll t.now t.flag.triggered true }.writeRecord

/-- Lets time pass up to an instant, going through at most `wakes` ends of waits on the way. -/
def sleepUntil (t : Timeline) (instant : Nat) : (wakes : Nat) → Timeline
  | 0 => { t with now := instant }
  | wakes + 1 =>
      match t.task.phase with
      | .waiting deadline =>
          if deadline ≤ instant then ({ t with now := deadline }.poll).sleepUntil instant wakes
          else { t with now := instant }
      | _ => { t with now := instant }

/-- Lets time pass. Waits last at least one millisecond, so that no more of them can end. -/
def sleep (t : Timeline) (duration : Nat) : Timeline :=
  t.sleepUntil (t.now + duration) (duration + 1)

/-- Sets the flag, and answers whether this call was the one to set it. -/
def trigger (t : Timeline) : Bool × Timeline :=
  let (flipped, flag) := t.flag.trigger
  (flipped, { t with flag }.poll)

/-- Moves the clock forward and sets the flag at the same instant. -/
def jumpAndTrigger (t : Timeline) (duration : Nat) : Timeline :=
  { t with now := t.now + duration }.trigger.2

/-- How long before the end of a race the flag is set. -/
def raceLead : Nat := 5

/-- Moves the clock forward in one go past the instant at which the flag is set. Only a wait that
was over before that instant still has its record written. -/
def raceAndTrigger (t : Timeline) (duration : Nat) : Timeline :=
  let t : Timeline := { t with now := t.now + duration }
  let t := match t.task.phase with
    | .waiting deadline => if deadline + raceLead < t.now then t.poll else t
    | _ => t
  t.trigger.2

/-- The lines of a text, the last of which may lack its newline. -/
def linesOf (text : Bytes) : List Bytes :=
  let (packets, tail) := cut text
  if tail = [] then packets else packets ++ [tail]

/-- The number of records and of other lines in the log's file; none unless it holds text. -/
def census (t : Timeline) : Nat × Nat :=
  match t.storage.fileAt? t.log.path with
  | none => (0, 0)
  | some contents =>
      if (Utf8.decode? contents).isNone then (0, 0)
      else
        let lines := linesOf contents
        let records := lines.countP isRecord
        (records, lines.length - records)

end Timeline

end PacketLog
