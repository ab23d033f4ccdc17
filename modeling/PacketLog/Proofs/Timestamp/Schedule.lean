import Mathlib
import PacketLog.Proofs.Session.DroppedPackets
import PacketLog.Proofs.Timestamp.Deadlines
import PacketLog.Shutdown.Flag
import PacketLog.Timestamp.Record

/-! # A timestamp task among everything around it

A `Schedule` is a timestamp task on a log, with the clock, the flag, and the appends that it has set
off. Time passes, the flag is set, the task is polled, the append in flight ends, and others change
the files, in any order and as late as can be (`Schedule.Event`); a poll that comes while an append
is in flight finds nothing to do. What a poll does to the task otherwise is told once
(`TimestampTask.Resumes`). So nothing is set off once the flag is set
(`Schedule.nothing_begins_after_shutdown`), and a failed append costs the log no more than its own
record (`Schedule.Recorded`).
-/

namespace PacketLog

namespace TimestampTask

variable {t next : TimestampTask} {now : Nat} {flag timerFirst : Bool}

/-- Polls a task whose append, if it had set one off, has ended. -/
def resume (t : TimestampTask) (now : Nat) (flag timerFirst : Bool) : TimestampTask :=
  match t.phase with
  | .appending => t.appendDone now flag timerFirst
  | _ => t.poll now flag timerFirst

/-- Whether a task is between two waits, or before the first. -/
def BetweenWaits (t : TimestampTask) : Prop := t.phase = .starting ∨ t.phase = .appending

/-- What a poll does to a task, by the time and the flag: a task that goes on stops if the flag is
set. Otherwise it starts a wait, which may be beyond the clock or over at once, or wakes if its wait
is over. -/
inductive Resumes (t : TimestampTask) (now : Nat) : Bool → TimestampTask → Prop
  | done {flag : Bool} (done : t.isDone) : Resumes t now flag t
  | stops (going : t.isDone = false) : Resumes t now true { t with phase := .stopped }
  | dies (between : t.BetweenWaits) (beyond : lastInstant < now + t.interval) :
      Resumes t now false { t with phase := .dead }
  | waits (between : t.BetweenWaits) (later : 0 < t.interval) :
      Resumes t now false { t with phase := .waiting (now + t.interval) }
  | wakesAtOnce (between : t.BetweenWaits) (atOnce : t.interval = 0) :
      Resumes t now false { t with phase := .appending }
  | wakes {deadline : Nat} (waiting : t.phase = .waiting deadline) (due : deadline ≤ now) :
      Resumes t now false { t with phase := .appending }
  | sleeps {deadline : Nat} (waiting : t.phase = .waiting deadline) (early : now < deadline) :
      Resumes t now false t

/-- A task between two waits goes on. -/
theorem BetweenWaits.isDone_eq (between : t.BetweenWaits) : t.isDone = false := by
  rcases between with phase | phase <;> rw [isDone, phase] <;> rfl

private theorem BetweenWaits.resumes (between : t.BetweenWaits) :
    t.Resumes now flag (t.waitAnew now flag timerFirst) := by
  cases flag with
  | true => exact .stops between.isDone_eq
  | false =>
      by_cases beyond : lastInstant < now + t.interval
      · have dead : t.waitAnew now false timerFirst = { t with phase := .dead } := by
          simp [waitAnew, startWait, pollWait, beyond]
        rw [dead]
        exact .dies between beyond
      · rcases Nat.eq_zero_or_pos t.interval with atOnce | later
        · have appending : t.waitAnew now false timerFirst = { t with phase := .appending } := by
            rw [atOnce, Nat.add_zero] at beyond
            simp [waitAnew, startWait, pollWait, wake, beyond, atOnce]
          rw [appending]
          exact .wakesAtOnce between atOnce
        · have waiting : t.waitAnew now false timerFirst =
              { t with phase := .waiting (now + t.interval) } := by
            have early : ¬ now + t.interval ≤ now := by omega
            simp [waitAnew, startWait, pollWait, beyond, early]
          rw [waiting]
          exact .waits between later

private theorem pollWait_resumes {deadline : Nat} (waiting : t.phase = .waiting deadline) :
    t.Resumes now flag (t.pollWait now flag timerFirst) := by
  cases flag with
  | true =>
      have stopped : t.pollWait now true timerFirst = { t with phase := .stopped } := by
        rw [pollWait, waiting]
        dsimp only
        split <;> rfl
      rw [stopped]
      exact .stops (by rw [isDone, waiting]; rfl)
  | false =>
      by_cases due : deadline ≤ now
      · have appending : t.pollWait now false timerFirst = { t with phase := .appending } := by
          simp [pollWait, waiting, wake, due]
        rw [appending]
        exact .wakes waiting due
      · have same : t.pollWait now false timerFirst = t := by simp [pollWait, waiting, due]
        rw [same]
        exact .sleeps waiting (Nat.lt_of_not_le due)

/-- **One poll.** -/
theorem resume_resumes (t : TimestampTask) (now : Nat) (flag timerFirst : Bool) :
    t.Resumes now flag (t.resume now flag timerFirst) := by
  rw [resume]
  cases phase : t.phase with
  | starting =>
      rw [poll_starting phase]
      exact BetweenWaits.resumes (.inl phase)
  | waiting deadline =>
      rw [poll_waiting phase]
      exact pollWait_resumes phase
  | appending =>
      rw [appendDone_appending phase]
      exact BetweenWaits.resumes (.inr phase)
  | stopped | dead =>
      rw [poll, phase]
      exact .done (by rw [isDone, phase]; rfl)

/-- A poll that finds the flag set ends the task. -/
theorem Resumes.isDone_of_set (resumes : t.Resumes now true next) : next.isDone := by
  cases resumes with
  | done done => exact done
  | stops => rfl

/-- A task that has ended stays as it is. -/
theorem Resumes.eq_of_isDone (resumes : t.Resumes now flag next) (done : t.isDone) : next = t := by
  cases resumes with
  | done | sleeps => rfl
  | stops going => exact absurd done (by rw [going]; exact Bool.false_ne_true)
  | dies between | waits between | wakesAtOnce between =>
      exact absurd done (by rw [between.isDone_eq]; exact Bool.false_ne_true)
  | wakes waiting =>
      rw [isDone, waiting] at done
      exact nomatch done

/-- A task that has come to an end appends nothing. -/
theorem phase_ne_appending (done : t.isDone) : t.phase ≠ .appending := by
  intro phase
  rw [isDone, phase] at done
  exact nomatch done

end TimestampTask

/-- An append that has ended: the record it was to add, and how it ended. -/
structure Schedule.Write where
  record : Bytes
  result : Except LogError Unit

/-- A timestamp task on a log, with the time, the shutdown flag, the instants at which it has set
off appends, and the appends that have ended, both in order. -/
structure Schedule where
  task : TimestampTask
  now : Nat
  flag : ShutdownFlag
  log : SharedLog
  storage : Storage
  begun : List Nat
  ended : List Schedule.Write

namespace Schedule

variable {s : Schedule}

/-- A task that has not been polled yet. -/
def new (interval now : Nat) (flag : ShutdownFlag) (log : SharedLog) (storage : Storage) :
    Schedule :=
  ⟨.new interval, now, flag, log, storage, [], []⟩

/-- Whether an append has been set off that has not ended. -/
def inFlight (s : Schedule) : Bool := s.ended.length < s.begun.length

/-- Polls the task. While an append is in flight, that is all the task waits for. -/
def poll (s : Schedule) (timerFirst : Bool) : Schedule :=
  if s.inFlight then s
  else
    let task := s.task.resume s.now s.flag.triggered timerFirst
    { s with task, begun := if task.phase = .appending then s.begun ++ [s.now] else s.begun }

/-- The append in flight, if there is one, is carried out and ends. Its record is of a moment on the
clock on the wall. -/
def finish (s : Schedule) (moment : Moment) : Schedule :=
  if s.inFlight then
    let appended := s.log.appendAsync moment.record s.storage
    { s with storage := appended.2, ended := s.ended ++ [⟨moment.record, appended.1⟩] }
  else s

/-- What can happen next. -/
inductive Event
  | pass (duration : Nat)
  | trigger
  | poll (timerFirst : Bool)
  | finish (moment : Moment)
  | meddle (change : Storage → Storage)

/-- Something happens. -/
def step (s : Schedule) : Event → Schedule
  | .pass duration => { s with now := s.now + duration }
  | .trigger => { s with flag := s.flag.trigger.2 }
  | .poll timerFirst => s.poll timerFirst
  | .finish moment => s.finish moment
  | .meddle change => { s with storage := change s.storage }

/-- Things happen one after another. -/
def run (s : Schedule) (events : List Event) : Schedule := events.foldl step s

/-- Events can be run one after another. -/
theorem run_append (s : Schedule) (events later : List Event) :
    s.run (events ++ later) = (s.run events).run later :=
  List.foldl_append

/-- **What every event keeps** is kept by all of them. -/
theorem run_keeps {P : Schedule → Prop} {events : List Event}
    (step : ∀ s, ∀ event ∈ events, P s → P (s.step event)) (holds : P s) : P (s.run events) := by
  induction events generalizing s with
  | nil => exact holds
  | cons event later ih =>
      have here := step s event List.mem_cons_self holds
      exact ih (fun s other member => step s other (List.mem_cons_of_mem _ member)) here

/-- An append is in flight when more have begun than ended. -/
theorem inFlight_iff : s.inFlight = true ↔ s.ended.length < s.begun.length := decide_eq_true_iff

/-- No append is in flight when all that began have ended. -/
theorem not_inFlight_iff : s.inFlight = false ↔ s.begun.length ≤ s.ended.length := by
  rw [← Bool.not_eq_true, inFlight_iff, Nat.not_lt]

/-- Polls do nothing while an append is in flight. -/
theorem poll_of_inFlight {timerFirst : Bool} (inFlight : s.inFlight = true) :
    s.poll timerFirst = s :=
  if_pos inFlight

/-- A poll for which no append is in flight is one of the task. -/
theorem poll_of_not_inFlight (idle : s.inFlight = false) (timerFirst : Bool) :
    ∃ task, s.task.Resumes s.now s.flag.triggered task ∧
      s.poll timerFirst =
        { s with
          task, begun := if task.phase = .appending then s.begun ++ [s.now] else s.begun } := by
  refine ⟨_, s.task.resume_resumes s.now s.flag.triggered timerFirst, ?_⟩
  rw [poll, if_neg (by rw [idle]; exact Bool.false_ne_true)]

/-- A poll changes only the task and what it has set off. -/
theorem poll_eq (s : Schedule) (timerFirst : Bool) :
    ∃ task begun, s.poll timerFirst = { s with task, begun } := by
  cases inFlight : s.inFlight with
  | true => exact ⟨s.task, s.begun, poll_of_inFlight inFlight⟩
  | false =>
      obtain ⟨task, _, polled⟩ := poll_of_not_inFlight inFlight timerFirst
      exact ⟨task, _, polled⟩

/-- The end of an append changes only the files, and is noted. -/
theorem finish_eq (s : Schedule) (moment : Moment) :
    ∃ storage writes, s.finish moment = { s with storage, ended := s.ended ++ writes } := by
  rw [finish]
  split
  · exact ⟨_, _, rfl⟩
  · refine ⟨s.storage, [], ?_⟩
    rw [List.append_nil]

/-- Whatever happens, the log stays the same. -/
theorem log_run (s : Schedule) (events : List Event) : (s.run events).log = s.log := by
  apply run_keeps (P := fun now => now.log = s.log) _ rfl
  intro now event _ same
  cases event with
  | poll timerFirst =>
      obtain ⟨task, begun, polled⟩ := now.poll_eq timerFirst
      rw [step, polled]
      exact same
  | finish moment =>
      obtain ⟨storage, writes, finished⟩ := now.finish_eq moment
      rw [step, finished]
      exact same
  | pass duration | trigger | meddle change => exact same

/-! ## After the flag is set -/

private theorem triggered_step (set : s.flag.triggered = true) (event : Event) :
    (s.step event).flag.triggered = true := by
  cases event with
  | trigger => rfl
  | poll timerFirst =>
      obtain ⟨task, begun, polled⟩ := s.poll_eq timerFirst
      rw [step, polled]
      exact set
  | finish moment =>
      obtain ⟨storage, writes, finished⟩ := s.finish_eq moment
      rw [step, finished]
      exact set
  | pass duration | meddle change => exact set

/-- A poll that finds the flag set ends the task, unless it waits for an append. -/
theorem isDone_poll_of_set (set : s.flag.triggered = true) (idle : s.inFlight = false)
    (timerFirst : Bool) : (s.poll timerFirst).task.isDone := by
  obtain ⟨task, resumes, polled⟩ := poll_of_not_inFlight idle timerFirst
  rw [polled]
  rw [set] at resumes
  exact resumes.isDone_of_set

/-- No poll begins an append once the flag is set. -/
theorem begun_poll_of_set (set : s.flag.triggered = true) (timerFirst : Bool) :
    (s.poll timerFirst).begun = s.begun := by
  cases inFlight : s.inFlight with
  | true => rw [poll_of_inFlight inFlight]
  | false =>
      obtain ⟨task, resumes, polled⟩ := poll_of_not_inFlight inFlight timerFirst
      rw [set] at resumes
      rw [polled]
      exact if_neg (TimestampTask.phase_ne_appending resumes.isDone_of_set)

private theorem begun_step_of_set (set : s.flag.triggered = true) (event : Event) :
    (s.step event).begun = s.begun := by
  cases event with
  | poll timerFirst => exact begun_poll_of_set set timerFirst
  | finish moment =>
      obtain ⟨storage, writes, finished⟩ := s.finish_eq moment
      rw [step, finished]
  | pass duration | trigger | meddle change => rfl

/-- A task that has ended stays as it is. -/
theorem task_step_of_isDone (done : s.task.isDone) (event : Event) :
    (s.step event).task = s.task := by
  cases event with
  | poll timerFirst =>
      rw [step]
      cases inFlight : s.inFlight with
      | true => rw [poll_of_inFlight inFlight]
      | false =>
          obtain ⟨task, resumes, polled⟩ := poll_of_not_inFlight inFlight timerFirst
          rw [polled]
          exact resumes.eq_of_isDone done
  | finish moment =>
      obtain ⟨storage, writes, finished⟩ := s.finish_eq moment
      rw [step, finished]
  | pass duration | trigger | meddle change => rfl

/-- Once the flag is set it stays so, and no append begins. -/
theorem run_of_set (set : s.flag.triggered = true) (events : List Event) :
    (s.run events).flag.triggered = true ∧ (s.run events).begun = s.begun := by
  apply run_keeps (P := fun now => now.flag.triggered = true ∧ now.begun = s.begun) _ ⟨set, rfl⟩
  intro now event _ kept
  exact ⟨triggered_step kept.1 event, (begun_step_of_set kept.1 event).trans kept.2⟩

private theorem isDone_run (done : s.task.isDone) (events : List Event) :
    (s.run events).task.isDone := by
  apply run_keeps (P := fun now => now.task.isDone) _ done
  intro now event _ doneNow
  rw [task_step_of_isDone doneNow event]
  exact doneNow

/-! ## One append at a time -/

/-- At most one append has not ended, and it is what the task is at. -/
structure OneAtATime (s : Schedule) : Prop where
  ended_le : s.ended.length ≤ s.begun.length
  begun_le : s.begun.length ≤ s.ended.length + 1
  appending : s.inFlight = true → s.task.phase = .appending

/-- A new schedule has no append in flight. -/
theorem oneAtATime_new (interval now : Nat) (flag : ShutdownFlag) (log : SharedLog)
    (storage : Storage) : (new interval now flag log storage).OneAtATime :=
  ⟨Nat.le_refl _, Nat.zero_le _, nofun⟩

namespace OneAtATime

/-- A poll leaves no more than one append in flight. -/
theorem poll (one : s.OneAtATime) (timerFirst : Bool) : (s.poll timerFirst).OneAtATime := by
  cases inFlight : s.inFlight with
  | true =>
      rw [poll_of_inFlight inFlight]
      exact one
  | false =>
      obtain ⟨task, _, polled⟩ := poll_of_not_inFlight inFlight timerFirst
      have all := Nat.le_antisymm one.ended_le (not_inFlight_iff.mp inFlight)
      rw [polled]
      by_cases appending : task.phase = .appending
      · rw [if_pos appending]
        refine ⟨?_, ?_, fun _ => appending⟩
        · rw [List.length_append, ← all]
          exact Nat.le_add_right _ _
        · rw [List.length_append, ← all]
          exact Nat.le_refl _
      · rw [if_neg appending]
        refine ⟨one.ended_le, one.begun_le, fun flying => ?_⟩
        exact absurd (inFlight_iff.mp flying) (by rw [all]; exact Nat.lt_irrefl _)

private theorem finish (one : s.OneAtATime) (moment : Moment) : (s.finish moment).OneAtATime := by
  rw [Schedule.finish]
  split
  · rename_i inFlight
    have all : s.ended.length + 1 = s.begun.length :=
      Nat.le_antisymm (inFlight_iff.mp inFlight) one.begun_le
    refine ⟨?_, ?_, fun _ => one.appending inFlight⟩
    · rw [List.length_append, List.length_singleton, all]
    · rw [List.length_append, List.length_singleton, all]
      exact Nat.le_succ _
  · exact one

/-- An event leaves no more than one append in flight. -/
theorem step (one : s.OneAtATime) (event : Event) : (s.step event).OneAtATime := by
  cases event with
  | poll timerFirst => exact one.poll timerFirst
  | finish moment => exact one.finish moment
  | pass duration | trigger | meddle change => exact ⟨one.ended_le, one.begun_le, one.appending⟩

/-- Whatever happens, no more than one append is in flight. -/
theorem run (one : s.OneAtATime) (events : List Event) : (s.run events).OneAtATime :=
  run_keeps (fun _ event _ now => now.step event) one

end OneAtATime

private theorem ended_step (s : Schedule) (event : Event) : s.ended <+: (s.step event).ended := by
  cases event with
  | poll timerFirst =>
      obtain ⟨task, begun, polled⟩ := s.poll_eq timerFirst
      rw [step, polled]
  | finish moment =>
      obtain ⟨storage, writes, finished⟩ := s.finish_eq moment
      rw [step, finished]
      exact List.prefix_append _ _
  | pass duration | trigger | meddle change => exact List.prefix_refl _

private theorem ended_run (s : Schedule) (events : List Event) : s.ended <+:
    (s.run events).ended := by
  apply run_keeps (P := fun now => s.ended <+: now.ended) _ (List.prefix_refl _)
  intro now event _ longer
  exact longer.trans (now.ended_step event)

/-- **No timestamp after shutdown.** Once the flag is set, be it before the task is polled for the
first time, at the very instant at which its wait is over, or between that instant and the next
poll, no poll sets off an append, whichever of the two the poll notices first. The first poll for
which no append is in flight has ended the task for good. Whatever happens from then on, all there
can be is the end of one append that was set off before. -/
theorem nothing_begins_after_shutdown {interval now : Nat} {flag : ShutdownFlag} {log : SharedLog}
    {storage : Storage} {events : List Event}
    (set : ((new interval now flag log storage).run events).flag.triggered = true) :
    let s := (new interval now flag log storage).run events
    (∀ later timerFirst, ((s.run later).poll timerFirst).begun = (s.run later).begun) ∧
      (∀ before timerFirst after, (s.run before).inFlight = false →
        (s.run (before ++ .poll timerFirst :: after)).task.isDone) ∧
      ∀ later, (s.run later).begun = s.begun ∧ s.ended <+: (s.run later).ended ∧
        (s.run later).ended.length ≤ s.begun.length ∧ s.begun.length ≤ s.ended.length + 1 := by
  intro s
  have one : s.OneAtATime := (oneAtATime_new interval now flag log storage).run events
  refine ⟨?_, ?_, ?_⟩
  · intro later timerFirst
    exact begun_poll_of_set (run_of_set set later).1 timerFirst
  · intro before timerFirst after idle
    rw [run_append]
    exact isDone_run (isDone_poll_of_set (run_of_set set before).1 idle timerFirst) after
  · intro later
    have same := (run_of_set set later).2
    refine ⟨same, ended_run s later, ?_, one.begun_le⟩
    rw [← same]
    exact (one.run later).ended_le

/-- The flag is set while the first append is in flight. -/
theorem append_outlives_shutdown :
    let s := (new 1000 0 .fresh ⟨[108]⟩ ⟨⟨[]⟩, [], [], []⟩).run
      [.poll true, .pass 1000, .poll true, .trigger]
    let later : List Event := [.poll true, .pass 5000, .finish ⟨1, 0, 0⟩]
    s.flag.triggered = true ∧ s.begun = [1000] ∧ s.ended = [] ∧
      (s.run later).ended.length = 1 ∧ (s.run later).task.isDone = false ∧
      (s.run (later ++ [.poll true])).task.isDone = true ∧
      (s.run (later ++ [.poll true])).begun = s.begun := by
  intro s later
  have set : s.flag.triggered = true := by cbv
  obtain ⟨_, ends, grows⟩ := nothing_begins_after_shutdown set
  have idle : (s.run later).inFlight = false := by cbv
  have ended := ends later true [] idle
  have same := (grows (later ++ [.poll true])).1
  exact ⟨set, by cbv, by cbv, by cbv, by cbv, ended, same⟩

/-! ## What the appends leave -/

/-- What others do to the files, if anything, leaves alone what the log holds. It can make appends
fail. -/
def Event.Spares (log : SharedLog) : Event → Prop
  | .meddle change => ∀ storage contents, log.Holds storage contents → storage.Undisturbed →
      log.Holds (change storage) contents ∧ (change storage).Undisturbed
  | _ => True

/-- The part of its record that an append has left in the log. -/
def Write.Leaves (write : Write) (part : Bytes) : Prop :=
  Happening.Leaves write.record write.result part

/-- What has become of a log that held some bytes: each of the attempts that have ended since has
left a part of its own record behind them, and nothing else has changed. -/
structure Recorded (s : Schedule) (contents : Bytes) (now : Schedule) (writes : List Write)
    (parts : List Bytes) : Prop where
  ended : now.ended = s.ended ++ writes
  leaves : List.Forall₂ Write.Leaves writes parts
  holds : s.log.Holds now.storage (contents ++ parts.flatten)
  calm : now.storage.Undisturbed
  log_eq : now.log = s.log

namespace Recorded

variable {now : Schedule} {contents : Bytes} {writes : List Write} {parts : List Bytes}

private theorem refl (holds : s.log.Holds s.storage contents) (calm : s.storage.Undisturbed) :
    s.Recorded contents s [] [] :=
  ⟨(List.append_nil _).symm, .nil, holds.append_nil, calm, rfl⟩

private theorem finish (recorded : s.Recorded contents now writes parts) (moment : Moment) :
    ∃ writes parts, s.Recorded contents (now.finish moment) writes parts := by
  rw [Schedule.finish]
  split
  · -- What the record is does not matter.
    generalize moment.record = record
    obtain ⟨part, leaves, holds, calm⟩ := recorded.holds.appendAsync_leaves recorded.calm record
    rw [← recorded.log_eq] at leaves holds calm
    generalize now.log.appendAsync record now.storage = appended at leaves holds calm
    let write : Write := ⟨record, appended.1⟩
    have left : write.Leaves part := leaves
    refine ⟨writes ++ [write], parts ++ [part], ?_, ?_, ?_, calm, recorded.log_eq⟩
    · rw [← List.append_assoc, ← recorded.ended]
    · exact List.rel_append recorded.leaves (.cons left .nil)
    · rwa [List.flatten_append, List.flatten_singleton, ← List.append_assoc, ← recorded.log_eq]
  · exact ⟨writes, parts, recorded⟩

private theorem step (recorded : s.Recorded contents now writes parts) {event : Event}
    (spares : event.Spares s.log) :
    ∃ writes parts, s.Recorded contents (now.step event) writes parts := by
  cases event with
  | finish moment => exact recorded.finish moment
  | meddle change =>
      obtain ⟨holds, calm⟩ := spares now.storage _ recorded.holds recorded.calm
      exact ⟨writes, parts, recorded.ended, recorded.leaves, holds, calm, recorded.log_eq⟩
  | poll timerFirst =>
      obtain ⟨task, begun, polled⟩ := now.poll_eq timerFirst
      rw [Schedule.step, polled]
      exact ⟨writes, parts, recorded.ended, recorded.leaves, recorded.holds, recorded.calm,
        recorded.log_eq⟩
  | pass duration | trigger =>
      exact ⟨writes, parts, recorded.ended, recorded.leaves, recorded.holds, recorded.calm,
        recorded.log_eq⟩

end Recorded

/-- **What a failed attempt costs.** As long as others spare the log, it holds what it held before
and after that what each attempt has left: the whole record of each that succeeded, and no more than
its own record for each that failed. -/
theorem recorded_run {contents : Bytes} {events : List Event}
    (holds : s.log.Holds s.storage contents) (calm : s.storage.Undisturbed)
    (spares : ∀ event ∈ events, event.Spares s.log) :
    ∃ writes parts, s.Recorded contents (s.run events) writes parts := by
  apply run_keeps (P := fun now => ∃ writes parts, s.Recorded contents now writes parts)
  · rintro now event member ⟨writes, parts, recorded⟩
    exact recorded.step (spares event member)
  · exact ⟨[], [], .refl holds calm⟩

end Schedule

end PacketLog
