import Mathlib
import PacketLog.Proofs.Timestamp.Schedule
import PacketLog.Timestamp.Timeline

/-! # When timestamps are attempted

However late a task is polled and however long its appends take, its attempts are an interval apart
from each other and the first is an interval away from the start (`Schedule.Spaced`), since a wait
begins only after the append before it has ended. When the task is polled at the very instants at
which its waits end, and its appends take no time (`Schedule.PromptRun`), it makes one attempt at
each multiple of the interval, and there is no drift (`Schedule.Regular`). A `Timeline` is run in
this way, however its time is cut into sleeps (`Timeline.exists_promptRun`).
-/

namespace PacketLog

namespace Schedule

open TimestampTask (lastInstant)

variable {s : Schedule} {interval start : Nat}

/-! ## Late polls and slow appends -/

/-- Attempts that follow each other, and the first the start, by an interval or more. -/
structure Spaced (interval start : Nat) (s : Schedule) : Prop where
  interval_eq : s.task.interval = interval
  chain : (start :: s.begun).IsChain fun earlier later => earlier + interval ≤ later
  past : ∀ instant ∈ start :: s.begun, instant ≤ s.now
  waiting : ∀ deadline, s.task.phase = .waiting deadline →
    ∀ instant ∈ start :: s.begun, instant + interval ≤ deadline

private theorem spaced_new (interval start : Nat) (flag : ShutdownFlag) (log : SharedLog)
    (storage : Storage) : (new interval start flag log storage).Spaced interval start where
  interval_eq := rfl
  chain := .singleton _
  past := fun _ member => (List.mem_singleton.mp member).le
  waiting := nofun

namespace Spaced

/-- Where an attempt is due, it is made. -/
theorem attempt (spaced : s.Spaced interval start)
    (due : ∀ instant ∈ start :: s.begun, instant + interval ≤ s.now) :
    { s with task.phase := .appending, begun := s.begun ++ [s.now] }.Spaced interval start where
  interval_eq := spaced.interval_eq
  chain := by
    rw [← List.cons_append, List.isChain_append]
    refine ⟨spaced.chain, .singleton _, ?_⟩
    intro instant last now first
    obtain rfl : s.now = now := by simpa using first
    exact due instant (List.mem_of_mem_getLast? last)
  past := by
    intro instant member
    rw [← List.cons_append, List.mem_append, List.mem_singleton] at member
    rcases member with earlier | rfl
    · exact spaced.past instant earlier
    · exact Nat.le_refl _
  waiting := nofun

private theorem poll (spaced : s.Spaced interval start) (timerFirst : Bool) :
    (s.poll timerFirst).Spaced interval start := by
  cases inFlight : s.inFlight with
  | true =>
      rw [poll_of_inFlight inFlight]
      exact spaced
  | false =>
      obtain ⟨task, resumes, polled⟩ := poll_of_not_inFlight inFlight timerFirst
      rw [polled]
      generalize s.flag.triggered = flag at resumes
      cases resumes with
      | done done =>
          rw [if_neg (TimestampTask.phase_ne_appending done)]
          exact spaced
      | stops | dies =>
          rw [if_neg nofun]
          exact ⟨spaced.interval_eq, spaced.chain, spaced.past, nofun⟩
      | waits =>
          rw [if_neg nofun]
          refine ⟨spaced.interval_eq, spaced.chain, spaced.past, ?_⟩
          rintro _ ⟨⟩ instant member
          rw [spaced.interval_eq]
          exact Nat.add_le_add_right (spaced.past instant member) _
      | wakesAtOnce between atOnce =>
          rw [if_pos rfl]
          apply spaced.attempt
          intro instant member
          rw [← spaced.interval_eq, atOnce]
          exact spaced.past instant member
      | wakes waiting due =>
          rw [if_pos rfl]
          apply spaced.attempt
          intro instant member
          exact (spaced.waiting _ waiting instant member).trans due
      | sleeps waiting =>
          rw [if_neg (by rw [waiting]; exact nofun)]
          exact spaced

private theorem step (spaced : s.Spaced interval start) (event : Event) :
    (s.step event).Spaced interval start := by
  cases event with
  | pass duration =>
      refine ⟨spaced.interval_eq, spaced.chain, ?_, spaced.waiting⟩
      intro instant member
      exact (spaced.past instant member).trans (Nat.le_add_right _ _)
  | poll timerFirst => exact spaced.poll timerFirst
  | finish moment =>
      obtain ⟨storage, writes, finished⟩ := s.finish_eq moment
      rw [Schedule.step, finished]
      exact ⟨spaced.interval_eq, spaced.chain, spaced.past, spaced.waiting⟩
  | trigger | meddle change =>
      exact ⟨spaced.interval_eq, spaced.chain, spaced.past, spaced.waiting⟩

private theorem run (spaced : s.Spaced interval start) (events : List Event) :
    (s.run events).Spaced interval start :=
  run_keeps (fun _ event _ now => now.step event) spaced

end Spaced

/-- Where each instant is an interval or more after the one before, they are at least as many
intervals after the start as there are instants up to them. -/
theorem le_of_chain {instants : List Nat} {k instant : Nat}
    (chain : (start :: instants).IsChain fun earlier later => earlier + interval ≤ later)
    (found : instants[k]? = some instant) : start + (k + 1) * interval ≤ instant := by
  induction instants generalizing start k with
  | nil => exact nomatch found
  | cons first rest ih =>
      rw [List.isChain_cons_cons] at chain
      cases k with
      | zero =>
          obtain rfl := Option.some.inj found
          rw [Nat.zero_add, Nat.one_mul]
          exact chain.1
      | succ k =>
          calc
            start + (k + 1 + 1) * interval = start + interval + (k + 1) * interval := by ring
            _ ≤ first + (k + 1) * interval := Nat.add_le_add_right chain.1 _
            _ ≤ instant := ih chain.2 found

/-! ## Prompt polls and appends that take no time -/

/-- The first so many instants after the start at which an interval has passed. -/
def multiples (start interval count : Nat) : List Nat :=
  (List.range count).map fun k => start + (k + 1) * interval

private theorem multiples_succ (start interval count : Nat) :
    multiples start interval (count + 1) =
      multiples start interval count ++ [start + (count + 1) * interval] := by
  rw [multiples, List.range_succ, List.map_append]
  rfl

/-- No time passes while the task has something to do, and the flag is not set. -/
def Prompt (s : Schedule) : Event → Prop
  | .pass duration =>
      match s.task.phase with
      | .starting | .appending => duration = 0
      | .waiting deadline => s.now + duration ≤ deadline
      | .stopped | .dead => True
  | .trigger => False
  | _ => True

/-- Nothing is late. -/
def PromptRun (s : Schedule) : List Event → Prop
  | [] => True
  | event :: later => s.Prompt event ∧ (s.step event).PromptRun later

/-- A task that attempts to write at the multiples of its interval: it is at the one it has reached,
or on the way to the next, or there is no such instant. -/
structure Regular (interval start : Nat) (s : Schedule) : Prop where
  unset : s.flag.triggered = false
  interval_eq : s.task.interval = interval
  begun : s.begun = multiples start interval s.begun.length
  since : start + s.begun.length * interval ≤ s.now
  phase : match s.task.phase with
    | .starting | .appending => s.now = start + s.begun.length * interval
    | .waiting deadline => deadline = start + (s.begun.length + 1) * interval ∧ s.now ≤ deadline
    | .stopped => False
    | .dead => lastInstant < start + (s.begun.length + 1) * interval

private theorem regular_new (interval start : Nat) (log : SharedLog) (storage : Storage) :
    (new interval start .fresh log storage).Regular interval start where
  unset := rfl
  interval_eq := rfl
  begun := rfl
  since := by
    change start + 0 * interval ≤ start
    rw [Nat.zero_mul, Nat.add_zero]
  phase := by
    change start = start + 0 * interval
    rw [Nat.zero_mul, Nat.add_zero]

namespace Regular

/-- The instant that comes after those of the attempts. -/
theorem next_eq (start interval count : Nat) :
    start + count * interval + interval = start + (count + 1) * interval := by ring

private theorem poll (regular : s.Regular interval start) (positive : 0 < interval)
    (timerFirst : Bool) :
    (s.poll timerFirst).Regular interval start := by
  cases inFlight : s.inFlight with
  | true =>
      rw [poll_of_inFlight inFlight]
      exact regular
  | false =>
      obtain ⟨task, resumes, polled⟩ := poll_of_not_inFlight inFlight timerFirst
      have reached : s.task.BetweenWaits → s.now = start + s.begun.length * interval := by
        have here := regular.phase
        rintro (phase | phase) <;> rwa [phase] at here
      rw [polled]
      rw [regular.unset] at resumes
      cases resumes with
      | done done =>
          rw [if_neg (TimestampTask.phase_ne_appending done)]
          exact regular
      | dies between beyond =>
          rw [if_neg nofun]
          refine ⟨regular.unset, regular.interval_eq, regular.begun, regular.since, ?_⟩
          rwa [reached between, regular.interval_eq, next_eq] at beyond
      | waits between =>
          rw [if_neg nofun]
          refine ⟨regular.unset, regular.interval_eq, regular.begun, regular.since, ?_, ?_⟩
          · rw [reached between, regular.interval_eq, next_eq]
          · exact Nat.le_add_right _ _
      | wakesAtOnce _ atOnce => exact absurd (regular.interval_eq.symm.trans atOnce) positive.ne'
      | wakes waiting due =>
          rw [if_pos rfl]
          have onTheWay := regular.phase
          rw [waiting] at onTheWay
          obtain ⟨rfl, early⟩ := onTheWay
          have onTime : s.now = start + (s.begun.length + 1) * interval := Nat.le_antisymm early due
          refine ⟨regular.unset, regular.interval_eq, ?_, ?_, ?_⟩
          · change s.begun ++ [s.now] = multiples start interval (s.begun ++ [s.now]).length
            rw [List.length_append, List.length_singleton, multiples_succ, ← regular.begun, onTime]
          · change start + (s.begun ++ [s.now]).length * interval ≤ s.now
            rw [List.length_append, List.length_singleton, onTime]
          · change s.now = start + (s.begun ++ [s.now]).length * interval
            rw [List.length_append, List.length_singleton, onTime]
      | sleeps waiting =>
          rw [if_neg (by rw [waiting]; exact nofun)]
          exact regular

private theorem pass (regular : s.Regular interval start) {duration : Nat}
    (prompt : s.Prompt (.pass duration)) : (s.step (.pass duration)).Regular interval start := by
  refine ⟨regular.unset, regular.interval_eq, regular.begun,
    regular.since.trans (Nat.le_add_right _ _), ?_⟩
  have here := regular.phase
  change match s.task.phase with
    | .starting | .appending => s.now + duration = start + s.begun.length * interval
    | .waiting deadline =>
        deadline = start + (s.begun.length + 1) * interval ∧ s.now + duration ≤ deadline
    | .stopped => False
    | .dead => lastInstant < start + (s.begun.length + 1) * interval
  rw [Prompt] at prompt
  cases phase : s.task.phase with
  | starting | appending =>
      rw [phase] at here prompt
      obtain rfl := prompt
      exact here
  | waiting deadline =>
      rw [phase] at here prompt
      exact ⟨here.1, prompt⟩
  | stopped | dead =>
      rw [phase] at here
      exact here

/-- A prompt event keeps a schedule regular. -/
theorem step (regular : s.Regular interval start) (positive : 0 < interval) {event : Event}
    (prompt : s.Prompt event) : (s.step event).Regular interval start := by
  cases event with
  | pass duration => exact regular.pass prompt
  | trigger => exact prompt.elim
  | poll timerFirst => exact regular.poll positive timerFirst
  | finish moment =>
      obtain ⟨storage, writes, finished⟩ := s.finish_eq moment
      rw [Schedule.step, finished]
      exact ⟨regular.unset, regular.interval_eq, regular.begun, regular.since, regular.phase⟩
  | meddle change =>
      exact ⟨regular.unset, regular.interval_eq, regular.begun, regular.since, regular.phase⟩

private theorem run (regular : s.Regular interval start) (positive : 0 < interval)
    {events : List Event}
    (prompt : s.PromptRun events) : (s.run events).Regular interval start := by
  induction events generalizing s with
  | nil => exact regular
  | cons event later ih => exact ih (regular.step positive prompt.1) prompt.2

end Regular

/-- What a task has done after some time: it has made an attempt at each multiple of its interval,
all of them have ended, and it waits for the next multiple, unless there is no such instant. -/
structure OnSchedule (interval start elapsed : Nat) (s : Schedule) : Prop where
  begun : s.begun = multiples start interval (elapsed / interval)
  ended : s.ended.length = elapsed / interval
  goesOn : s.task.phase = .waiting (start + (elapsed / interval + 1) * interval) ∨
    s.task.phase = .dead ∧ lastInstant < start + (elapsed / interval + 1) * interval

/-- A task that makes its attempts at the multiples of its interval, and has just made the last of
those that were due. -/
structure UpToDate (interval start : Nat) (s : Schedule) : Prop where
  regular : s.Regular interval start
  one : s.OneAtATime
  resting : ¬ s.task.BetweenWaits
  ahead : ∀ deadline, s.task.phase = .waiting deadline → s.now < deadline

namespace UpToDate

private theorem of_not_multiple {elapsed : Nat} (regular : s.Regular interval start)
    (one : s.OneAtATime)
    (now : s.now = start + elapsed) (apart : elapsed % interval ≠ 0) :
    s.UpToDate interval start := by
  have here := regular.phase
  rw [now] at here
  refine ⟨regular, one, ?_, ?_⟩
  · intro between
    have reached : start + elapsed = start + s.begun.length * interval := by
      rcases between with phase | phase <;> rwa [phase] at here
    rw [Nat.add_left_cancel reached, Nat.mul_mod_left] at apart
    exact apart rfl
  · intro deadline waiting
    rw [waiting] at here
    obtain ⟨rfl, early⟩ := here
    rw [now]
    refine Nat.lt_of_le_of_ne early fun reached => ?_
    rw [Nat.add_left_cancel reached, Nat.mul_mod_left] at apart
    exact apart rfl

/-- No append is in flight in a schedule that is up to date. -/
theorem not_inFlight (upToDate : s.UpToDate interval start) : s.inFlight = false := by
  by_contra inFlight
  rw [Bool.not_eq_false] at inFlight
  exact upToDate.resting (.inr (upToDate.one.appending inFlight))

/-- The task waits for the next multiple of its interval, or there is no such instant. -/
theorem goesOn (upToDate : s.UpToDate interval start) :
    (s.task.phase = .waiting (start + (s.begun.length + 1) * interval) ∧
        s.now < start + (s.begun.length + 1) * interval) ∨
      s.task.phase = .dead ∧ lastInstant < start + (s.begun.length + 1) * interval := by
  have here := upToDate.regular.phase
  cases phase : s.task.phase with
  | starting => exact absurd (.inl phase) upToDate.resting
  | appending => exact absurd (.inr phase) upToDate.resting
  | stopped =>
      rw [phase] at here
      exact here.elim
  | dead =>
      rw [phase] at here
      exact .inr ⟨rfl, here⟩
  | waiting deadline =>
      rw [phase] at here
      rw [← here.1]
      exact .inl ⟨rfl, upToDate.ahead deadline phase⟩

private theorem onSchedule {elapsed : Nat} (upToDate : s.UpToDate interval start)
    (now : s.now = start + elapsed) (within : s.now ≤ lastInstant) :
    s.OnSchedule interval start elapsed := by
  have since := upToDate.regular.since
  have before : s.now < start + (s.begun.length + 1) * interval := by
    rcases upToDate.goesOn with ⟨_, ahead⟩ | ⟨_, beyond⟩
    · exact ahead
    · exact within.trans_lt beyond
  rw [now] at since before
  have count : elapsed / interval = s.begun.length :=
    Nat.div_eq_of_lt_le (Nat.le_of_add_le_add_left since) (Nat.lt_of_add_lt_add_left before)
  refine ⟨?_, ?_, ?_⟩
  · rw [count]
    exact upToDate.regular.begun
  · rw [count]
    exact Nat.le_antisymm upToDate.one.ended_le (not_inFlight_iff.mp upToDate.not_inFlight)
  · rw [count]
    exact upToDate.goesOn.imp_left And.left

end UpToDate

/-! ## Time that is cut into sleeps -/

/-- A task that has something to do starts its next wait when it is polled, or dies if there is no
instant at which that could end. -/
theorem poll_of_betweenWaits (between : s.task.BetweenWaits) (idle : s.inFlight = false)
    (unset : s.flag.triggered = false) (positive : 0 < s.task.interval) (timerFirst : Bool) :
    ∃ phase, s.poll timerFirst = { s with task.phase := phase } ∧
      (phase = .dead ∨ phase = .waiting (s.now + s.task.interval)) := by
  obtain ⟨task, resumes, polled⟩ := poll_of_not_inFlight idle timerFirst
  rw [polled]
  rw [unset] at resumes
  cases resumes with
  | done done => exact absurd done (by rw [between.isDone_eq]; exact Bool.false_ne_true)
  | dies => exact ⟨.dead, by rw [if_neg nofun], .inl rfl⟩
  | waits => exact ⟨_, by rw [if_neg nofun], .inr rfl⟩
  | wakesAtOnce _ atOnce => exact absurd atOnce positive.ne'
  | wakes waiting | sleeps waiting =>
      rcases between with phase | phase <;> exact nomatch phase.symm.trans waiting

/-- A task whose wait is over attempts to write when it is polled. -/
theorem poll_of_due {deadline : Nat} (waiting : s.task.phase = .waiting deadline)
    (due : deadline ≤ s.now) (idle : s.inFlight = false) (unset : s.flag.triggered = false)
    (timerFirst : Bool) :
    s.poll timerFirst = { s with task.phase := .appending, begun := s.begun ++ [s.now] } := by
  obtain ⟨task, resumes, polled⟩ := poll_of_not_inFlight idle timerFirst
  rw [polled]
  rw [unset] at resumes
  cases resumes with
  | done done =>
      rw [TimestampTask.isDone, waiting] at done
      cases done
  | dies between | waits between | wakesAtOnce between =>
      rcases between with phase | phase <;> cases phase.symm.trans waiting
  | wakes => rw [if_pos rfl]
  | sleeps other early =>
      obtain rfl := TimestampPhase.waiting.inj (waiting.symm.trans other)
      exact absurd due (Nat.not_le_of_lt early)

/-- A task that has something to do is up to date once it is polled. -/
theorem UpToDate.of_poll (regular : s.Regular interval start) (one : s.OneAtATime)
    (between : s.task.BetweenWaits) (idle : s.inFlight = false) (positive : 0 < interval)
    (timerFirst : Bool) :
    (s.poll timerFirst).UpToDate interval start ∧ (s.poll timerFirst).now = s.now := by
  have longer : 0 < s.task.interval := by rwa [regular.interval_eq]
  obtain ⟨phase, polled, goes⟩ :=
    poll_of_betweenWaits between idle regular.unset longer timerFirst
  refine ⟨⟨regular.poll positive timerFirst, one.poll timerFirst, ?_, ?_⟩, ?_⟩
  · rw [polled]
    rcases goes with rfl | rfl <;> rintro (phase | phase) <;> exact nomatch phase
  · rw [polled]
    rcases goes with rfl | rfl
    · exact nofun
    · rintro _ ⟨⟩
      exact Nat.lt_add_of_pos_right longer
  · rw [polled]

private theorem promptRun_append {events later : List Event} :
    s.PromptRun (events ++ later) ↔ s.PromptRun events ∧ (s.run events).PromptRun later := by
  induction events generalizing s with
  | nil => exact ⟨fun prompt => ⟨trivial, prompt⟩, And.right⟩
  | cons event events ih => exact (and_congr_right fun _ => ih).trans and_assoc.symm

/-- What is there besides the account of the attempts. -/
def timeline (s : Schedule) : Timeline := ⟨s.task, s.now, s.flag, s.log, s.storage⟩

/-- What happens at the end of a wait before the task starts the next: it is polled, and the append
it sets off ends at once. -/
def attempt (s : Schedule) (deadline : Nat) (moment : Moment) : List Event :=
  [.pass (deadline - s.now), .poll true, .finish moment]

/-- The task when its wait is over and its append has ended. -/
def attempted (s : Schedule) (deadline : Nat) (moment : Moment) : Schedule :=
  let appended := s.log.appendAsync moment.record s.storage
  { s with
    task.phase := .appending
    now := deadline
    storage := appended.2
    begun := s.begun ++ [deadline]
    ended := s.ended ++ [⟨moment.record, appended.1⟩] }

section Attempting

variable {deadline : Nat} (upToDate : s.UpToDate interval start)
  (waiting : s.task.phase = .waiting deadline)
include upToDate

private theorem not_inFlight_attempted (deadline : Nat) (moment : Moment) :
    (s.attempted deadline moment).inFlight = false := by
  have all := not_inFlight_iff.mp upToDate.not_inFlight
  rw [not_inFlight_iff, attempted, List.length_append, List.length_append, List.length_singleton,
    List.length_singleton]
  exact Nat.succ_le_succ all

include waiting

private theorem promptRun_attempt (moment : Moment) : s.PromptRun (s.attempt deadline moment) := by
  refine ⟨?_, trivial, trivial, trivial⟩
  rw [Prompt, waiting]
  exact (Nat.add_sub_cancel' (upToDate.ahead deadline waiting).le).le

private theorem run_attempt (moment : Moment) :
    s.run (s.attempt deadline moment) = s.attempted deadline moment := by
  have early := upToDate.ahead deadline waiting
  let late : Schedule := { s with now := deadline }
  have passed : s.step (.pass (deadline - s.now)) = late := by
    rw [step, Nat.add_sub_cancel' early.le]
  have polled : late.poll true =
      { late with task.phase := .appending, begun := late.begun ++ [late.now] } :=
    poll_of_due (s := late) waiting le_rfl upToDate.not_inFlight upToDate.regular.unset true
  have inFlight : (late.poll true).inFlight = true := by
    rw [inFlight_iff, polled]
    change s.ended.length < (s.begun ++ [deadline]).length
    rw [List.length_append]
    exact Nat.lt_succ_of_le upToDate.one.ended_le
  change ((s.step (.pass (deadline - s.now))).poll true).finish moment = _
  rw [passed, finish, if_pos inFlight, polled]
  rfl

/-- The task is polled once more, and starts its next wait. -/
theorem upToDate_attempted (positive : 0 < interval) (moment : Moment) :
    ((s.attempted deadline moment).poll true).UpToDate interval start ∧
      ((s.attempted deadline moment).poll true).now = deadline := by
  have ran := run_attempt upToDate waiting moment
  have prompt := promptRun_attempt upToDate waiting moment
  have regular := upToDate.regular.run positive prompt
  have one := upToDate.one.run (s.attempt deadline moment)
  rw [ran] at regular one
  have idle := not_inFlight_attempted upToDate deadline moment
  exact UpToDate.of_poll regular one (.inr rfl) idle positive true

/-- This is what a timeline goes through at the end of a wait. -/
theorem timeline_attempted :
    ((s.attempted deadline ⟨deadline / 1000, 0, 0⟩).poll true).timeline =
      { s.timeline with now := deadline }.poll := by
  have unset := upToDate.regular.unset
  have polled : s.task.poll deadline s.flag.triggered true =
      { s.task with phase := .appending } := by
    rw [TimestampTask.poll_waiting waiting, TimestampTask.pollWait, waiting, unset]
    exact if_pos ⟨le_rfl, .inl rfl⟩
  let late : Timeline := { s.timeline with now := deadline, task.phase := .appending }
  have written : { s.timeline with now := deadline }.poll = late.writeRecord := by
    rw [Timeline.poll]
    exact congrArg (fun task : TimestampTask =>
      { s.timeline with now := deadline, task }.writeRecord) polled
  have recorded : late.writeRecord =
      { late with
        storage := (s.log.appendAsync (⟨deadline / 1000, 0, 0⟩ : Moment).record s.storage).2
        task := late.task.appendDone deadline s.flag.triggered true } := rfl
  rw [written, recorded]
  -- Of which moment the record is does not matter.
  generalize (⟨deadline / 1000, 0, 0⟩ : Moment) = moment
  have idle := not_inFlight_attempted upToDate deadline moment
  rw [Schedule.poll, if_neg (by rw [idle]; exact Bool.false_ne_true)]
  rfl

end Attempting

/-- Time passes up to an instant in front of the end of the wait, if the task waits. -/
theorem UpToDate.pass {instant : Nat} (upToDate : s.UpToDate interval start)
    (later : s.now ≤ instant)
    (ahead : ∀ deadline, s.task.phase = .waiting deadline → instant < deadline) :
    let passing := [Event.pass (instant - s.now)]
    s.PromptRun passing ∧ s.run passing = { s with now := instant } ∧
      (s.run passing).UpToDate interval start := by
  intro passing
  have same : s.run passing = { s with now := instant } := by
    change s.step (.pass (instant - s.now)) = _
    rw [step, Nat.add_sub_cancel' later]
  have prompt : s.Prompt (.pass (instant - s.now)) := by
    rw [Prompt]
    cases phase : s.task.phase with
    | starting => exact absurd (.inl phase) upToDate.resting
    | appending => exact absurd (.inr phase) upToDate.resting
    | stopped | dead => exact trivial
    | waiting deadline =>
        dsimp only
        rw [Nat.add_sub_cancel' later]
        exact (ahead deadline phase).le
  refine ⟨⟨prompt, trivial⟩, same, upToDate.regular.pass prompt, upToDate.one.run _, ?_, ?_⟩
  · exact upToDate.resting
  · rw [same]
    exact ahead

/-- Time passes in a sleep, and nothing is late. The number of wakes allows for one each
millisecond. -/
theorem UpToDate.sleepUntil {instant wakes : Nat} (upToDate : s.UpToDate interval start)
    (positive : 0 < interval) (later : s.now ≤ instant)
    (enough : ∀ deadline, s.task.phase = .waiting deadline → instant < deadline + wakes) :
    ∃ events, s.PromptRun events ∧ (s.run events).UpToDate interval start ∧
      (s.run events).now = instant ∧
      (s.run events).timeline = s.timeline.sleepUntil instant wakes := by
  induction wakes generalizing s with
  | zero =>
      obtain ⟨prompt, same, now⟩ := upToDate.pass later enough
      refine ⟨_, prompt, now, by rw [same], ?_⟩
      rw [same]
      rfl
  | succ wakes ih =>
      by_cases due : ∃ deadline, s.task.phase = .waiting deadline ∧ deadline ≤ instant
      · obtain ⟨deadline, waiting, due⟩ := due
        let moment : Moment := ⟨deadline / 1000, 0, 0⟩
        let next := (s.attempted deadline moment).poll true
        obtain ⟨upToDateNext, now⟩ := upToDate_attempted upToDate waiting positive moment
        have left : ∀ further, next.task.phase = .waiting further → instant < further + wakes := by
          intro further phase
          have := enough deadline waiting
          have := upToDateNext.ahead further phase
          omega
        obtain ⟨more, prompt, slept, reached, same⟩ := ih upToDateNext (by rwa [now]) left
        have ran : s.run (s.attempt deadline moment ++ .poll true :: more) = next.run more := by
          rw [run_append, run_attempt upToDate waiting]
          rfl
        refine ⟨s.attempt deadline moment ++ .poll true :: more, ?_, ?_, ?_, ?_⟩
        · refine promptRun_append.mpr ⟨promptRun_attempt upToDate waiting moment, trivial, ?_⟩
          rwa [run_attempt upToDate waiting]
        · rwa [ran]
        · rwa [ran]
        · rw [ran, same, timeline_attempted upToDate waiting, Timeline.sleepUntil]
          have phase : s.timeline.task.phase = .waiting deadline := waiting
          rw [phase]
          exact (if_pos due).symm
      · have ahead : ∀ deadline, s.task.phase = .waiting deadline → instant < deadline :=
          fun deadline waiting => Nat.lt_of_not_le fun le => due ⟨deadline, waiting, le⟩
        obtain ⟨prompt, same, now⟩ := upToDate.pass later ahead
        refine ⟨_, prompt, now, by rw [same], ?_⟩
        rw [same, Timeline.sleepUntil]
        split
        · rename_i deadline waiting
          rw [if_neg (Nat.not_le_of_lt (ahead deadline waiting))]
          rfl
        · rfl

/-- A task that has just been started. -/
theorem upToDate_start (positive : 0 < interval) (log : SharedLog) (storage : Storage) :
    let s := (new interval start .fresh log storage).run [.poll true]
    s.UpToDate interval start ∧ s.timeline = .start interval start .fresh log storage := by
  intro s
  have polled := UpToDate.of_poll (regular_new interval start log storage)
    (oneAtATime_new interval start .fresh log storage) (.inl rfl) rfl positive true
  refine ⟨polled.1, ?_⟩
  change ((new interval start .fresh log storage).poll true).timeline = _
  rw [Schedule.poll, if_neg (by exact Bool.false_ne_true)]
  rfl

end Schedule

namespace Timeline

/-- Others may change the files, and then time passes in a sleep. -/
structure Spell where
  change : Storage → Storage
  duration : Nat

/-- Goes through spells one after another. -/
def spend (t : Timeline) (spells : List Spell) : Timeline :=
  spells.foldl (fun t spell => { t with storage := spell.change t.storage }.sleep spell.duration) t

/-- How long spells take. -/
def duration (spells : List Spell) : Nat := (spells.map Spell.duration).sum

/-- **Every way of cutting time into sleeps** is a run in which nothing is late. -/
theorem exists_promptRun {s : Schedule} {interval start : Nat}
    (upToDate : s.UpToDate interval start) (positive : 0 < interval) (spells : List Spell) :
    ∃ events, s.PromptRun events ∧ (s.run events).UpToDate interval start ∧
      (s.run events).now = s.now + duration spells ∧
      (s.run events).timeline = s.timeline.spend spells := by
  induction spells generalizing s with
  | nil => exact ⟨[], trivial, upToDate, rfl, rfl⟩
  | cons spell spells ih =>
      let changed := s.step (.meddle spell.change)
      have upToDateChanged : changed.UpToDate interval start :=
        ⟨upToDate.regular.step positive trivial, upToDate.one.step _, upToDate.resting,
          upToDate.ahead⟩
      have enough : ∀ deadline, changed.task.phase = .waiting deadline →
          changed.now + spell.duration < deadline + (spell.duration + 1) := by
        intro deadline waiting
        have := upToDateChanged.ahead deadline waiting
        omega
      obtain ⟨events, prompt, slept, now, same⟩ :=
        upToDateChanged.sleepUntil positive (Nat.le_add_right _ _) enough
      obtain ⟨more, promptMore, spent, later, sameLater⟩ := ih slept
      refine ⟨.meddle spell.change :: (events ++ more), ?_, ?_, ?_, ?_⟩
      · exact ⟨trivial, Schedule.promptRun_append.mpr ⟨prompt, promptMore⟩⟩
      · change (changed.run (events ++ more)).UpToDate interval start
        rwa [Schedule.run_append]
      · change (changed.run (events ++ more)).now = _
        rw [Schedule.run_append, later, now, duration, duration, List.map_cons, List.sum_cons,
          ← Nat.add_assoc]
        rfl
      · change (changed.run (events ++ more)).timeline = _
        rw [Schedule.run_append, sameLater, same]
        rfl

/-- Setting the flag ends a task that is not at an append, and writes nothing. -/
theorem trigger_eq {t : Timeline} (resting : ¬ t.task.BetweenWaits) :
    t.trigger.2.storage = t.storage ∧ t.trigger.2.task.isDone := by
  have same : t.task.poll t.now true true = t.task.resume t.now true true := by
    rw [TimestampTask.resume]
    split
    · rename_i phase
      exact absurd (.inr phase) resting
    · rfl
  have done : (t.task.poll t.now true true).isDone := by
    rw [same]
    exact (t.task.resume_resumes t.now true true).isDone_of_set
  have idle := TimestampTask.phase_ne_appending done
  change (writeRecord { t with flag := ⟨true⟩, task := t.task.poll t.now true true }).storage = _ ∧
    (writeRecord { t with flag := ⟨true⟩, task := t.task.poll t.now true true }).task.isDone
  rw [writeRecord]
  split
  · contradiction
  · exact ⟨rfl, done⟩

end Timeline

/-- **A task attempts to write once in each interval.** As long as nothing is late, it makes its
attempts at the multiples of its interval and at no other instant: by any instant that the clock
has, as many as intervals have passed, and no more once the flag is set. This is so however time is
cut, whatever becomes of the files, and however the attempts end. With late polls and slow appends
the attempts are an interval apart or more, and never ahead of the multiples. A failed attempt costs
the log no more than its own record. -/
theorem Schedule.attempts_keep_the_interval {interval : Nat} (positive : 0 < interval) (start : Nat)
    (log : SharedLog) (storage : Storage) :
    let fresh := new interval start .fresh log storage
    (∀ events elapsed, fresh.PromptRun events → (fresh.run events).now = start + elapsed →
      elapsed % interval ≠ 0 → start + elapsed ≤ TimestampTask.lastInstant →
        (fresh.run events).OnSchedule interval start elapsed ∧
          ∀ later, ((fresh.run events).run (.trigger :: later)).begun =
            multiples start interval (elapsed / interval)) ∧
      (∀ spells, start + Timeline.duration spells ≤ TimestampTask.lastInstant →
        let t := (Timeline.start interval start .fresh log storage).spend spells
        (∃ events, fresh.PromptRun events ∧ (fresh.run events).timeline = t ∧
          (fresh.run events).OnSchedule interval start (Timeline.duration spells)) ∧
          t.trigger.2.storage = t.storage ∧ t.trigger.2.task.isDone) ∧
      (∀ events, ((start :: (fresh.run events).begun).IsChain fun earlier later =>
          earlier + interval ≤ later) ∧
        ∀ k instant, (fresh.run events).begun[k]? = some instant →
          start + (k + 1) * interval ≤ instant) ∧
      ∀ before after contents, log.Holds (fresh.run before).storage contents →
        (fresh.run before).storage.Undisturbed → (∀ event ∈ after, event.Spares log) →
          ∃ writes parts,
            (fresh.run before).Recorded contents ((fresh.run before).run after) writes parts := by
  intro fresh
  refine ⟨?_, ?_, ?_, ?_⟩
  · intro events elapsed prompt now apart within
    have regular := (regular_new interval start log storage).run positive prompt
    have one := (oneAtATime_new interval start .fresh log storage).run events
    have onSchedule :=
      (UpToDate.of_not_multiple regular one now apart).onSchedule now (by rwa [now])
    refine ⟨onSchedule, fun later => ?_⟩
    rw [← onSchedule.begun]
    exact (run_of_set (s := (fresh.run events).step .trigger) rfl later).2
  · intro spells within t
    obtain ⟨upToDate, started⟩ := upToDate_start positive log storage
    obtain ⟨events, prompt, spent, now, same⟩ :=
      Timeline.exists_promptRun upToDate positive spells
    have elapsed :
        ((fresh.run [.poll true]).run events).now = start + Timeline.duration spells := by
      rw [now]
      exact congrArg (fun t : Timeline => t.now + Timeline.duration spells) started
    rw [started] at same
    refine ⟨⟨.poll true :: events, ⟨trivial, prompt⟩, same, ?_⟩, ?_⟩
    · exact spent.onSchedule elapsed (by rwa [elapsed])
    · have resting := spent.resting
      change ¬ (timeline _).task.BetweenWaits at resting
      rw [same] at resting
      exact Timeline.trigger_eq resting
  · intro events
    have spaced := (spaced_new interval start .fresh log storage).run events
    exact ⟨spaced.chain, fun k instant found => le_of_chain spaced.chain found⟩
  · intro before after contents holds calm spares
    have same : (fresh.run before).log = log := log_run fresh before
    rw [← same] at holds spares
    exact recorded_run holds calm spares

/-- Three attempts of which the second fails, since the disk is full for a while. -/
theorem Schedule.attempt_on_a_full_disk :
    let fresh := new 1000 0 .fresh ⟨[108]⟩ ⟨⟨[]⟩, [], [], []⟩
    let fill : Storage → Storage := fun s => { s with plan := [.fail (.os Errno.noSpace)] }
    let events : List Event := [.poll true, .pass 1000, .poll false, .finish ⟨1, 0, 0⟩, .poll true,
      .pass 600, .meddle fill, .pass 400, .poll true, .finish ⟨2, 0, 0⟩, .poll true, .pass 1000,
      .poll true, .finish ⟨3, 0, 0⟩, .poll true, .pass 500]
    fresh.PromptRun events ∧ (fresh.run events).OnSchedule 1000 0 3500 ∧
      (fresh.run events).begun = [1000, 2000, 3000] ∧
      (fresh.run events).ended.map Write.result =
        [.ok (), .error (.write [108] (.os Errno.noSpace)), .ok ()] ∧
      ∃ writes parts, fresh.Recorded [] (fresh.run events) writes parts := by
  intro fresh fill events
  have prompt : fresh.PromptRun events := by cbv
  have now : (fresh.run events).now = 0 + 3500 := by cbv
  obtain ⟨prompted, _, _, costs⟩ := attempts_keep_the_interval (by decide : 0 < 1000) 0 ⟨[108]⟩
    ⟨⟨[]⟩, [], [], []⟩
  obtain ⟨onSchedule, _⟩ := prompted events 3500 prompt now (by decide) (by decide)
  have holds : SharedLog.Holds ⟨[108]⟩ fresh.storage [] := by cbv
  have calm : fresh.storage.Undisturbed := by simp [fresh, new, Storage.Undisturbed]
  have spared : (Event.meddle fill).Spares ⟨[108]⟩ := by
    intro storage contents holds _
    exact ⟨holds, by simp [fill, Storage.Undisturbed]⟩
  have spares : ∀ event ∈ events, event.Spares ⟨[108]⟩ := by
    simpa [events, Event.Spares] using spared
  exact ⟨prompt, onSchedule, onSchedule.begun, by cbv, costs [] events [] holds calm spares⟩

end PacketLog
