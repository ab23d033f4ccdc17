import Mathlib
import PacketLog.Proofs.Framing.Cutting
import PacketLog.Proofs.Timestamp.Punctuality
import PacketLog.Proofs.Timestamp.ReadingBack

/-! # What is done with a timeline

Whatever is done with a timeline, be it to sleep, to change files, or to set the flag, at once,
after a jump of the clock or in a race with the end of a wait, it goes through states of a schedule
(`Timeline.exists_run`), so that what holds of every schedule holds of it. A jump to the instant at
which the flag is set never has a record written, and a race just if the wait was over for longer
than the lead (`Timeline.exists_run_raceAndTrigger`). A log that holds records and nothing else is
counted as that many records (`Timeline.census_records`).
-/

namespace PacketLog

namespace Schedule

variable {s : Schedule} {interval start : Nat}

/-- Setting the flag is noticed at once: the task ends, and nothing is written. -/
theorem run_trigger (idle : s.inFlight = false) (resting : ¬ s.task.BetweenWaits) :
    let next := s.run [.trigger, .poll true]
    next.timeline = s.timeline.trigger.2 ∧ next.inFlight = false ∧ next.task.isDone ∧
      next.begun = s.begun := by
  intro next
  let set := s.step .trigger
  have done : next.task.isDone := isDone_poll_of_set (s := set) rfl idle true
  have begun : next.begun = s.begun := begun_poll_of_set (s := set) rfl true
  obtain ⟨task, writes, polled⟩ : ∃ task writes, next = { set with task, begun := writes } :=
    set.poll_eq true
  have task_eq : next.task = s.task.poll s.now true true := by
    change (set.poll true).task = _
    rw [poll, if_neg (by rw [show set.inFlight = false from idle]; exact Bool.false_ne_true)]
    change s.task.resume s.now true true = _
    rw [TimestampTask.resume]
    split
    · rename_i phase
      exact absurd (.inr phase) resting
    · rfl
  refine ⟨?_, ?_, done, begun⟩
  · have noAppend := TimestampTask.phase_ne_appending done
    rw [task_eq] at noAppend
    have shown : next.timeline =
        { s.timeline with flag := ⟨true⟩, task := s.task.poll s.now true true } := by
      rw [← task_eq, polled]
      rfl
    rw [shown]
    change _ = Timeline.writeRecord { s.timeline with
      flag := ⟨true⟩, task := s.task.poll s.now true true }
    rw [Timeline.writeRecord]
    split
    · contradiction
    · rfl
  · rw [not_inFlight_iff, begun, polled]
    exact not_inFlight_iff.mp idle

/-- A poll that finds the wait over, however late, has one record written, and the next wait starts
at the instant of the poll. -/
theorem run_late {deadline : Nat} (one : s.OneAtATime) (idle : s.inFlight = false)
    (unset : s.flag.triggered = false) (positive : 0 < s.task.interval)
    (waiting : s.task.phase = .waiting deadline) (due : deadline ≤ s.now) :
    let next := s.run [.poll true, .finish s.timeline.moment, .poll true]
    next.timeline = s.timeline.poll ∧ next.inFlight = false ∧ ¬ next.task.BetweenWaits ∧
      next.begun = s.begun ++ [s.now] := by
  intro next
  let appending : Schedule :=
    { s with task.phase := .appending, begun := s.begun ++ [s.now] }
  have polled : s.poll true = appending := poll_of_due waiting due idle unset true
  have all := Nat.le_antisymm one.ended_le (not_inFlight_iff.mp idle)
  have flying : appending.inFlight = true := by
    rw [inFlight_iff]
    change s.ended.length < (s.begun ++ [s.now]).length
    rw [List.length_append, List.length_singleton, all]
    exact Nat.lt_succ_self _
  let appended := s.log.appendAsync s.timeline.moment.record s.storage
  let written : Schedule :=
    { appending with
      storage := appended.2
      ended := s.ended ++ [⟨s.timeline.moment.record, appended.1⟩] }
  have finished : appending.finish s.timeline.moment = written := by
    rw [finish, if_pos flying]
  have next_eq : next = written.poll true := by
    change ((s.poll true).finish s.timeline.moment).poll true = _
    rw [polled, finished]
  have writtenIdle : written.inFlight = false := by
    rw [not_inFlight_iff]
    change (s.begun ++ [s.now]).length ≤ (s.ended ++ [_]).length
    rw [List.length_append, List.length_append, all]
    exact Nat.le_refl _
  obtain ⟨phase, again, goes⟩ :=
    poll_of_betweenWaits (s := written) (.inr rfl) writtenIdle unset positive true
  have resting : ¬ (written.poll true).task.BetweenWaits := by
    rw [again]
    rcases goes with rfl | rfl <;> rintro (phase | phase) <;> cases phase
  refine ⟨?_, ?_, by rwa [next_eq], by rw [next_eq, again]⟩
  · -- The timeline polls the task, writes the record, and polls the task for the end of that.
    have woken : s.task.poll s.now s.flag.triggered true = { s.task with phase := .appending } := by
      rw [TimestampTask.poll_waiting waiting, TimestampTask.pollWait, waiting, unset]
      exact if_pos ⟨due, .inl rfl⟩
    have both : s.timeline.poll =
        Timeline.writeRecord { s.timeline with task.phase := .appending } := by
      rw [Timeline.poll]
      exact congrArg (fun task : TimestampTask => { s.timeline with task }.writeRecord) woken
    rw [next_eq, both, poll, if_neg (by rw [writtenIdle]; exact Bool.false_ne_true)]
    rfl
  · rw [next_eq, again]
    exact writtenIdle

/-- A schedule that shows a timeline: it has the same task, time, flag, log and files, nothing is in
flight, and the task has done all that was due, or has ended. -/
structure Shows (interval start : Nat) (s : Schedule) (t : Timeline) : Prop where
  timeline : s.timeline = t
  one : s.OneAtATime
  idle : s.inFlight = false
  stands : s.UpToDate interval start ∨ s.task.isDone = true

end Schedule

namespace Timeline

/-- What can be done with a timeline. -/
inductive Act
  | sleep (duration : Nat)
  | meddle (change : Storage → Storage)
  | trigger
  | jumpAndTrigger (duration : Nat)
  | raceAndTrigger (duration : Nat)

/-- Does something with a timeline. -/
def act (t : Timeline) : Act → Timeline
  | .sleep duration => t.sleep duration
  | .meddle change => { t with storage := change t.storage }
  | .trigger => t.trigger.2
  | .jumpAndTrigger duration => t.jumpAndTrigger duration
  | .raceAndTrigger duration => t.raceAndTrigger duration

/-- The instants of the records that are still written in a race: one, if the wait was over for
longer than the lead. -/
def raced (t : Timeline) (duration : Nat) : List Nat :=
  match t.task.phase with
  | .waiting deadline =>
      if deadline + raceLead < t.now + duration then [t.now + duration] else []
  | _ => []

variable {t : Timeline} {s : Schedule} {interval start : Nat}

private theorem sleepUntil_of_isDone (done : t.task.isDone) (instant wakes : Nat) :
    t.sleepUntil instant wakes = { t with now := instant } := by
  cases wakes with
  | zero => rfl
  | succ wakes =>
      rw [sleepUntil]
      split
      · rename_i deadline waiting
        rw [TimestampTask.isDone, waiting] at done
        cases done
      · rfl

end Timeline

namespace Schedule

namespace Shows

variable {s : Schedule} {t : Timeline} {interval start : Nat} (shown : s.Shows interval start t)
include shown

private theorem resting : ¬ s.task.BetweenWaits := by
  rcases shown.stands with upToDate | done
  · exact upToDate.resting
  · intro between
    rw [between.isDone_eq] at done
    exact nomatch done

/-- A timeline sleeps as a schedule in which nothing is late. -/
theorem sleep (positive : 0 < interval) (duration : Nat) :
    ∃ events, (s.run events).Shows interval start (t.sleep duration) := by
  obtain ⟨rfl, one, idle, upToDate | done⟩ := shown
  · have enough : ∀ deadline, s.task.phase = .waiting deadline →
        s.now + duration < deadline + (duration + 1) := by
      intro deadline waiting
      have := upToDate.ahead deadline waiting
      omega
    obtain ⟨events, -, slept, -, same⟩ :=
      upToDate.sleepUntil positive (Nat.le_add_right _ _) enough
    exact ⟨events, same, one.run events, slept.not_inFlight, .inl slept⟩
  · have slept : s.timeline.sleep duration = { s.timeline with now := s.now + duration } :=
      Timeline.sleepUntil_of_isDone done _ _
    rw [slept]
    exact ⟨[.pass duration], rfl, one.run [.pass duration], idle, .inr done⟩

/-- Others change the files of a timeline as they do those of a schedule. -/
theorem meddle (positive : 0 < interval) (change : Storage → Storage) :
    (s.run [.meddle change]).Shows interval start { t with storage := change t.storage } := by
  obtain ⟨rfl, one, idle, stands⟩ := shown
  refine ⟨rfl, one.run [.meddle change], idle, stands.imp_left fun upToDate => ?_⟩
  have prompt : s.Prompt (.meddle change) := trivial
  exact ⟨upToDate.regular.step positive prompt, one.run [.meddle change], upToDate.resting,
    upToDate.ahead⟩

/-- The clock may jump first, and then the flag is set: nothing is written. -/
theorem jumpAndTrigger (duration : Nat) :
    let next := s.run [.pass duration, .trigger, .poll true]
    next.Shows interval start (t.jumpAndTrigger duration) ∧ next.task.isDone ∧
      next.begun = s.begun := by
  intro next
  obtain ⟨same, idle, done, begun⟩ :=
    run_trigger (s := s.step (.pass duration)) shown.idle shown.resting
  refine ⟨⟨?_, shown.one.run _, idle, .inr done⟩, done, begun⟩
  rw [← shown.timeline]
  exact same

/-- The clock may jump past the end of a wait and the task be polled before the flag is set: one
record is written, at the instant of the poll. -/
theorem run_jump {deadline duration : Nat} (positive : 0 < interval)
    (waiting : t.task.phase = .waiting deadline) (late : deadline ≤ t.now + duration) :
    ∃ events, (s.run events).timeline = { t with now := t.now + duration }.poll.trigger.2 ∧
      (s.run events).inFlight = false ∧ (s.run events).task.isDone ∧
      (s.run events).begun = s.begun ++ [t.now + duration] := by
  obtain ⟨rfl, one, idle, stands⟩ := shown
  have upToDate : s.UpToDate interval start := by
    refine stands.resolve_right fun done => ?_
    change s.task.phase = _ at waiting
    rw [TimestampTask.isDone, waiting] at done
    cases done
  have longer : 0 < s.task.interval := by rwa [upToDate.regular.interval_eq]
  let jumped := s.step (.pass duration)
  let polls : List Event := [.poll true, .finish jumped.timeline.moment, .poll true]
  have oneJumped : jumped.OneAtATime := one.run [.pass duration]
  obtain ⟨polled, polledIdle, resting, begun⟩ :=
    run_late oneJumped idle upToDate.regular.unset longer waiting late
  obtain ⟨same, ended, done, kept⟩ := run_trigger polledIdle resting
  have ran : s.run (.pass duration :: (polls ++ [.trigger, .poll true])) =
      (jumped.run polls).run [.trigger, .poll true] := run_append jumped polls _
  refine ⟨.pass duration :: (polls ++ [.trigger, .poll true]), ?_⟩
  rw [ran]
  refine ⟨?_, ended, done, ?_⟩
  · rw [same, polled]
    rfl
  · rw [kept, begun]
    rfl

end Shows

end Schedule

namespace Timeline

variable {t : Timeline} {s : Schedule} {interval start : Nat}

/-- **A race** has at most one more record written, at the instant to which the clock has jumped,
and ends the task. -/
theorem exists_run_raceAndTrigger (shown : s.Shows interval start t) (positive : 0 < interval)
    (duration : Nat) :
    ∃ events, (s.run events).Shows interval start (t.raceAndTrigger duration) ∧
      (s.run events).task.isDone ∧ (s.run events).begun = s.begun ++ t.raced duration := by
  obtain ⟨jumped, jumpedDone, jumpedBegun⟩ := shown.jumpAndTrigger duration
  by_cases late : ∃ deadline, t.task.phase = .waiting deadline ∧
      deadline + raceLead < t.now + duration
  · obtain ⟨deadline, phase, late⟩ := late
    obtain ⟨events, same, ended, done, begun⟩ := shown.run_jump positive phase
      (Nat.le_of_lt (Nat.lt_of_le_of_lt (Nat.le_add_right _ _) late))
    refine ⟨events, ⟨?_, shown.one.run events, ended, .inr done⟩, done, ?_⟩
    · rw [same, raceAndTrigger]
      simp only [phase]
      rw [if_pos late]
    · rw [begun, raced]
      simp only [phase]
      rw [if_pos late]
  · have notLate : ∀ deadline, t.task.phase = .waiting deadline →
        ¬ deadline + raceLead < t.now + duration := fun deadline waiting exceeded =>
      late ⟨deadline, waiting, exceeded⟩
    have nothing : t.raced duration = [] := by
      rw [raced]
      split
      · exact if_neg (notLate _ ‹_›)
      · rfl
    have sameRace : t.raceAndTrigger duration = t.jumpAndTrigger duration := by
      rw [raceAndTrigger, jumpAndTrigger]
      dsimp only
      split
      · rw [if_neg (notLate _ ‹_›)]
      · rfl
    rw [sameRace, nothing, List.append_nil]
    exact ⟨_, jumped, jumpedDone, jumpedBegun⟩

/-- Whatever is done with a timeline, it goes on as a schedule. -/
theorem exists_run_act (shown : s.Shows interval start t) (positive : 0 < interval) (act : Act) :
    ∃ events, (s.run events).Shows interval start (t.act act) := by
  cases act with
  | sleep duration => exact shown.sleep positive duration
  | meddle change => exact ⟨_, shown.meddle positive change⟩
  | trigger => exact ⟨_, (shown.jumpAndTrigger 0).1⟩
  | jumpAndTrigger duration => exact ⟨_, (shown.jumpAndTrigger duration).1⟩
  | raceAndTrigger duration =>
      obtain ⟨events, next, -, -⟩ := exists_run_raceAndTrigger shown positive duration
      exact ⟨events, next⟩

/-- **Every course of a timeline** is one of a schedule, from its start on: whatever is done with
it, it shows what the schedule shows after some events. -/
theorem exists_run (positive : 0 < interval) (start : Nat) (flag : ShutdownFlag) (log : SharedLog)
    (storage : Storage) (acts : List Act) :
    ∃ events, ((Schedule.new interval start flag log storage).run events).Shows interval start
      (acts.foldl Timeline.act (.start interval start flag log storage)) := by
  have started : ((Schedule.new interval start flag log storage).run [.poll true]).Shows interval
      start (.start interval start flag log storage) := by
    obtain ⟨triggered⟩ := flag
    cases triggered with
    | false =>
        obtain ⟨upToDate, same⟩ := @Schedule.upToDate_start interval start positive log storage
        exact ⟨same, upToDate.one, upToDate.not_inFlight, .inl upToDate⟩
    | true =>
        have one := Schedule.oneAtATime_new interval start ⟨true⟩ log storage
        exact ⟨rfl, one.run [.poll true], rfl, .inr rfl⟩
  suffices extend : ∀ (acts : List Act) t events,
      ((Schedule.new interval start flag log storage).run events).Shows interval start t →
        ∃ more, ((Schedule.new interval start flag log storage).run more).Shows interval start
          (acts.foldl Timeline.act t) from extend acts _ _ started
  intro acts
  induction acts with
  | nil => exact fun t events shown => ⟨events, shown⟩
  | cons first later ih =>
      intro t events shown
      obtain ⟨more, next⟩ := exists_run_act shown positive first
      rw [← Schedule.run_append] at next
      exact ih _ _ next

end Timeline

/-! ## What the log holds -/

/-- A moment of a year that four digits can show has a record by which it is known. -/
theorem Moment.isRecord_record {m : Moment} (valid : m.Valid)
    (year : 0 ≤ (Date.ofDays m.day).year ∧ (Date.ofDays m.day).year ≤ 9999) :
    isRecord m.record = true := by
  have length : m.record.length = recordLength := by
    have digits : (yearText m.shown.date.year).length = 4 := (length_yearText _).mpr year
    rw [record, List.length_map, RecordFields.length_text (shown_fits valid), digits, recordLength]
  have read : readRecord? (characters m.record) =
      some { m.shown with offset := shownOffset m.shown.offset }.time := by
    have consistent : RecordFields.isConsistent
        { m.shown with offset := shownOffset m.shown.offset } = true := m.isConsistent_shown
    rw [characters_record, readRecord?, RecordFields.readFields?_text (shown_fits valid),
      Option.filter_some_pos consistent, Option.map_some]
  rw [isRecord, length, read, beq_self_eq_true, Option.isSome_some, Bool.and_self]

namespace Utf8

/-- A byte below 128 is a character of its own. -/
private theorem piece_of_lt {b : UInt8} (small : b.toNat < 128) (rest : Bytes) :
    piece b rest = (some (Char.ofNat b.toNat), rest) := by
  have lead : b ≤ 0x7F := by
    rw [UInt8.le_iff_toNat_le]
    exact Nat.le_of_lt_succ small
  rw [piece, Lead.ofByte?, if_pos lead]
  rfl

/-- Bytes below 128 are a text. -/
theorem isSome_decode?_of_lt {bytes : Bytes} (small : ∀ b ∈ bytes, b.toNat < 128) :
    (decode? bytes).isSome := by
  have whole : ((pieces bytes).mapM id).isSome := by
    induction bytes with
    | nil => rw [pieces]; rfl
    | cons b rest ih =>
        have first := small b List.mem_cons_self
        obtain ⟨text, read⟩ := Option.isSome_iff_exists.mp
          (ih fun c member => small c (List.mem_cons_of_mem _ member))
        rw [pieces, piece_of_lt first, List.mapM_cons, read]
        rfl
  rw [decode?, Option.isSome_map]
  exact whole

end Utf8

/-- The bytes of a record are below 128. -/
private theorem Moment.toNat_lt_of_mem_record {m : Moment} {b : UInt8} (member : b ∈ m.record) :
    b.toNat < 128 := by
  obtain ⟨line, prints, text⟩ := m.shown.text_eq_append
  rw [record, text, List.map_append, List.mem_append] at member
  rcases member with member | member
  · obtain ⟨c, present, rfl⟩ := List.mem_map.mp member
    have bounds := prints.toNat_bounds present
    simp only [UInt8.toNat_ofNat']
    omega
  · rw [List.mem_singleton.mp member]
    decide

/-- **Counting records.** A log that holds the records of some moments, all of years that four
digits can show, is counted as that many records and nothing else. -/
theorem Timeline.census_records {t : Timeline} {moments : List Moment}
    (held : t.storage.fileAt? t.log.path = some (moments.map Moment.record).flatten)
    (known : ∀ m ∈ moments, m.Valid ∧ 0 ≤ (Date.ofDays m.day).year ∧
      (Date.ofDays m.day).year ≤ 9999) :
    t.census = (moments.length, 0) := by
  have packets : ∀ packet ∈ moments.map Moment.record, IsPacket packet := by
    intro packet member
    obtain ⟨m, -, rfl⟩ := List.mem_map.mp member
    exact m.isPacket_record
  have lines : linesOf (moments.map Moment.record).flatten = moments.map Moment.record := by
    have cuts := cut_flatten_append packets []
    rw [List.append_nil, cut_of_not_mem List.not_mem_nil, List.append_nil] at cuts
    rw [linesOf, cuts]
    exact if_pos rfl
  have text : (Utf8.decode? (moments.map Moment.record).flatten).isSome := by
    apply Utf8.isSome_decode?_of_lt
    intro b member
    obtain ⟨record, present, inside⟩ := List.mem_flatten.mp member
    obtain ⟨m, -, rfl⟩ := List.mem_map.mp present
    exact Moment.toNat_lt_of_mem_record inside
  have all : (moments.map Moment.record).countP isRecord = moments.length := by
    rw [List.countP_eq_length.mpr, List.length_map]
    intro record member
    obtain ⟨m, present, rfl⟩ := List.mem_map.mp member
    exact Moment.isRecord_record (known m present).1 (known m present).2
  rw [census, held]
  simp only [lines, all, List.length_map, Nat.sub_self]
  rw [if_neg]
  rw [Option.isNone_iff_eq_none]
  exact Option.isSome_iff_ne_none.mp text

end PacketLog
