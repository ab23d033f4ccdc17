import Mathlib
import PacketLog.Proofs.Config.Layers
import PacketLog.Proofs.Server.Frames
import PacketLog.Proofs.Server.Occurrences
import PacketLog.Proofs.Timestamp.Deadlines

/-! # What a loaded configuration lets happen

Loading a configuration bounds neither the connections, although a service cannot count more permits
than `Service.mostPermits`, nor the interval of timestamps, although a clock has a last instant.
What a move does to the clock and to the timestamp tasks is told once (`Service.step_ticks`), and so
a service stays timely whatever happens (`Service.Timely.reachable`): its timestamp tasks have the
configured interval and wait for instants that the clock has. A configuration out of range still
loads (`Service.loaded_out_of_range`): no service is made of it, or its timestamp task dies at once.
-/

namespace PacketLog

namespace Service

variable {s next start : Service} {config : Config}

/-- What a move does to the clock and the timestamp tasks. -/
inductive Ticks (s next : Service) : Prop
  | passes {duration : Nat} (now : next.now = s.now + duration)
      (timestamps : next.timestamps = s.timestamps)
  | starts {seconds : Nat} (configured : s.config.timestampInterval = some seconds)
      (now : next.now = s.now)
      (timestamps : next.timestamps = s.timestamps ++ [.new (seconds * 1000)])
  | polls {task : Nat} {t : TimestampTask} {timerFirst : Bool}
      (found : s.timestamps[task]? = some t) (now : next.now = s.now)
      (timestamps : next.timestamps =
        s.timestamps.set task (t.poll s.now s.flag.triggered timerFirst))
  | writes {task : Nat} {t : TimestampTask} {timerFirst : Bool}
      (found : s.timestamps[task]? = some t) (now : next.now = s.now)
      (timestamps : next.timestamps =
        s.timestamps.set task (t.appendDone s.now s.flag.triggered timerFirst))

/-- The part of a service that its timestamp tasks live in. -/
def timeSide (s : Service) : Nat × List TimestampTask := (s.now, s.timestamps)

private theorem ticks_of_timeSide (same : next.timeSide = s.timeSide) : s.Ticks next := by
  simp only [timeSide, Prod.mk.injEq] at same
  exact @Ticks.passes s next 0 same.1 same.2

private theorem timeSide_of_besideAcceptor (same : next.besideAcceptor = s.besideAcceptor) :
    next.timeSide = s.timeSide := by
  simp_all [besideAcceptor, timeSide]

private theorem timeSide_of_besideHandlers (same : next.besideHandlers = s.besideHandlers) :
    next.timeSide = s.timeSide := by
  simp_all [besideHandlers, timeSide]

private theorem timeSide_of_besideTeardown (same : next.besideTeardown = s.besideTeardown) :
    next.timeSide = s.timeSide := by
  simp_all [besideTeardown, timeSide]

private theorem timeSide_setTimestamp (task : Nat) (t : TimestampTask) :
    (s.setTimestamp task t).timeSide = (s.now, s.timestamps.set task t) := by
  unfold setTimestamp
  dsimp only
  split <;> rfl

/-- A timestamp task of the configured interval may have been started. -/
def Starts (s next : Service) : Prop :=
  next.timeSide = s.timeSide ∨ ∃ seconds, s.config.timestampInterval = some seconds ∧
    next.timeSide = (s.now, s.timestamps ++ [.new (seconds * 1000)])

private theorem startTimestamps_starts (s : Service) : s.Starts s.startTimestamps := by
  unfold startTimestamps
  split
  · exact .inl rfl
  · rename_i seconds configured
    split
    · exact .inl rfl
    · exact .inr ⟨seconds, configured, rfl⟩

private theorem starts_run? (moved : s.run? = some next) : s.Starts next := by
  unfold run? at moved
  split at moved
  · obtain rfl := Option.some.inj moved
    exact (s.note (.listening s.address)).startTimestamps_starts
  · exact nomatch moved

private theorem Starts.ticks (starts : s.Starts next) : s.Ticks next := by
  rcases starts with still | ⟨seconds, configured, started⟩
  · exact ticks_of_timeSide still
  · exact .starts configured (congrArg Prod.fst started) (congrArg Prod.snd started)

private theorem timeSide_pollTimestamp? {task : Nat} {timerFirst : Bool}
    (moved : s.pollTimestamp? task timerFirst = some next) :
    ∃ t, s.timestamps[task]? = some t ∧ next.timeSide =
      (s.now, s.timestamps.set task (t.poll s.now s.flag.triggered timerFirst)) := by
  rcases Option.bind_eq_some_iff.mp moved with ⟨t, found, moved⟩
  refine ⟨t, found, ?_⟩
  dsimp only at moved
  split at moved
  · obtain rfl := Option.some.inj moved
    exact timeSide_setTimestamp _ _
  · obtain rfl := Option.some.inj moved
    exact timeSide_setTimestamp _ _
  · exact nomatch moved

/-- The end of an append of a timestamp task is all that happens to the tasks. -/
theorem timeSide_recordAppended (task : Nat) (t : TimestampTask) (record : Bytes)
    (timerFirst : Bool) (result : Except LogError Unit) :
    (s.recordAppended task t record timerFirst result).timeSide =
      (s.now, s.timestamps.set task (t.appendDone s.now s.flag.triggered timerFirst)) := by
  unfold recordAppended
  rw [timeSide_setTimestamp]
  cases result <;> rfl

private theorem timeSide_writeTimestamp? {task : Nat} {moment : Moment} {timerFirst : Bool}
    (moved : s.writeTimestamp? task moment timerFirst = some next) :
    ∃ t, s.timestamps[task]? = some t ∧ next.timeSide =
      (s.now, s.timestamps.set task (t.appendDone s.now s.flag.triggered timerFirst)) := by
  rcases Option.bind_eq_some_iff.mp moved with ⟨t, found, moved⟩
  refine ⟨t, found, ?_⟩
  split at moved
  · obtain rfl := Option.some.inj moved
    exact timeSide_recordAppended task t moment.record timerFirst _
  · exact nomatch moved

/-- **One move.** Whatever part of the service makes it, it ticks. -/
theorem step_ticks {move : Move} (moved : s.step move = some next) : s.Ticks next := by
  cases move with
  | pass duration =>
      obtain rfl := Option.some.inj moved
      exact .passes rfl rfl
  | startTimestamps =>
      obtain rfl := Option.some.inj moved
      exact s.startTimestamps_starts.ticks
  | run => exact (starts_run? moved).ticks
  | pollTimestamp task timerFirst =>
      rcases timeSide_pollTimestamp? moved with ⟨t, found, same⟩
      exact .polls found (congrArg Prod.fst same) (congrArg Prod.snd same)
  | writeTimestamp task moment timerFirst =>
      have written : s.writeTimestamp? task moment timerFirst = some next := moved
      rcases timeSide_writeTimestamp? written with ⟨t, found, same⟩
      exact .writes found (congrArg Prod.fst same) (congrArg Prod.snd same)
  | trigger | callShutdown | closeListener | catchSignal signal =>
      apply ticks_of_timeSide
      grind [step, trigger, callShutdown, requestShutdown, catchSignal?, closeListener?, note,
        timeSide]
  | returnCaller | finishRun =>
      apply ticks_of_timeSide
      grind [step, returnCaller?, finishRun?, timeSide]
  | checkFlag | acquire | accept | failAccept | resume | heedFlag =>
      exact ticks_of_timeSide (timeSide_of_besideAcceptor (besideAcceptor_step rfl moved))
  | receive | failReceive | append | snapshot | send | failSend | heedClose | crash | leave |
    endTask =>
      exact ticks_of_timeSide (timeSide_of_besideHandlers (besideHandlers_step rfl moved))
  | beginTeardown | joinHandler | joinTimestamp | removeFile =>
      exact ticks_of_timeSide (timeSide_of_besideTeardown (besideTeardown_step rfl moved))

/-- A service whose timestamp tasks have the interval that is configured and are in time. -/
structure Timely (config : Config) (s : Service) : Prop where
  config_eq : s.config = config
  inTime : ∀ t ∈ s.timestamps, t.InTime s.now
  interval : ∀ t ∈ s.timestamps,
    ∃ seconds, config.timestampInterval = some seconds ∧ t.interval = seconds * 1000

private theorem timely_of_new {address : SocketAddress} {storage : Storage}
    (begun : new? config address storage = some start) : start.Timely config := by
  unfold new? at begun
  split at begun
  · exact nomatch begun
  · obtain rfl := Option.some.inj begun
    exact ⟨rfl, nofun, nofun⟩

namespace Timely

variable (timely : s.Timely config)
include timely

private theorem set {t after : TimestampTask} {task : Nat} (same : next.config = s.config)
    (found : s.timestamps[task]? = some t) (now : next.now = s.now)
    (timestamps : next.timestamps = s.timestamps.set task after)
    (inTime : t.InTime s.now → after.InTime s.now) (interval : after.interval = t.interval) :
    next.Timely config := by
  have member := List.mem_of_getElem? found
  refine ⟨same.trans timely.config_eq, ?_, ?_⟩
  · rw [now, timestamps]
    intro other within
    rcases List.mem_or_eq_of_mem_set within with kept | rfl
    · exact timely.inTime other kept
    · exact inTime (timely.inTime t member)
  · rw [timestamps]
    intro other within
    rcases List.mem_or_eq_of_mem_set within with kept | rfl
    · exact timely.interval other kept
    · rw [interval]
      exact timely.interval t member

/-- **What ticks stays timely.** -/
theorem ticks (ticks : s.Ticks next) (same : next.config = s.config) : next.Timely config := by
  cases ticks with
  | passes now timestamps =>
      refine ⟨same.trans timely.config_eq, ?_, ?_⟩
      · rw [timestamps]
        intro t member
        exact (timely.inTime t member).later (now ▸ Nat.le_add_right _ _)
      · rw [timestamps]
        exact timely.interval
  | @starts seconds configured now timestamps =>
      refine ⟨same.trans timely.config_eq, ?_, ?_⟩
      · rw [timestamps]
        intro t member
        rcases List.mem_append.mp member with kept | new
        · rw [now]
          exact timely.inTime t kept
        · rw [List.mem_singleton.mp new]
          exact TimestampTask.inTime_new _ _
      · rw [timestamps]
        intro t member
        rcases List.mem_append.mp member with kept | new
        · exact timely.interval t kept
        · rw [List.mem_singleton.mp new, ← timely.config_eq]
          exact ⟨seconds, configured, rfl⟩
  | polls found now timestamps =>
      exact timely.set same found now timestamps .poll TimestampTask.interval_poll
  | writes found now timestamps =>
      exact timely.set same found now timestamps .appendDone TimestampTask.interval_appendDone

private theorem reachable (reached : s.Reachable next) : next.Timely config := by
  induction reached with
  | refl => exact timely
  | step move before moved ih => exact ih.ticks (step_ticks moved) (step_occurs moved).1

end Timely

/-- The moves with which a timestamp task starts a wait. -/
def BeginsWait (task : Nat) (t : TimestampTask) : Move → Prop
  | .pollTimestamp other _ => other = task ∧ t.phase = .starting
  | .writeTimestamp other _ _ => other = task ∧ t.phase = .appending
  | _ => False

/-- What becomes of a timestamp task that starts a wait. -/
theorem step_beginsWait {task : Nat} {t : TimestampTask} {move : Move}
    (found : s.timestamps[task]? = some t) (begins : BeginsWait task t move)
    (moved : s.step move = some next) : ∃ timerFirst,
      next.timestamps[task]? = some (t.waitAnew s.now s.flag.triggered timerFirst) := by
  have inside : task < s.timestamps.length := (List.getElem?_eq_some_iff.mp found).1
  cases move with
  | pollTimestamp other timerFirst =>
      rcases begins with ⟨rfl, starting⟩
      rcases timeSide_pollTimestamp? moved with ⟨same, again, after⟩
      obtain rfl := Option.some.inj (found.symm.trans again)
      refine ⟨timerFirst, ?_⟩
      have timestamps : next.timestamps = _ := congrArg Prod.snd after
      rw [timestamps, ← TimestampTask.poll_starting starting]
      exact List.getElem?_set_self inside
  | writeTimestamp other moment timerFirst =>
      rcases begins with ⟨rfl, appending⟩
      have written : s.writeTimestamp? other moment timerFirst = some next := moved
      rcases timeSide_writeTimestamp? written with ⟨same, again, after⟩
      obtain rfl := Option.some.inj (found.symm.trans again)
      refine ⟨timerFirst, ?_⟩
      have timestamps : next.timestamps = _ := congrArg Prod.snd after
      rw [timestamps, ← TimestampTask.appendDone_appending appending]
      exact List.getElem?_set_self inside
  | _ => exact begins.elim

private theorem new?_eq_none_iff {address : SocketAddress} {storage : Storage} :
    new? config address storage = none ↔
      ∃ count, config.maxConnections = some count ∧ mostPermits < count := by
  unfold new?
  cases config.maxConnections with
  | none => simp
  | some count => simp

/-- **What a loaded configuration lets happen.** A service is made of it unless the connections are
more than can be counted. Whatever happens to the service then, its timestamp tasks have the
configured interval, which is not zero, and wait for instants that the clock has; one is dead only
if the clock has no instant an interval from now, and one that starts a wait dies of it exactly if
that is so. -/
theorem fails_only_out_of_range {arguments : List Bytes}
    {contentsOf : Path → Except IoError Bytes}
    (loaded : Config.load arguments contentsOf = .ok config) (address : SocketAddress)
    (storage : Storage) :
    (new? config address storage = none ↔
      ∃ count, config.maxConnections = some count ∧ mostPermits < count) ∧
    ∀ start s, new? config address storage = some start → start.Reachable s →
      (∀ t ∈ s.timestamps, ∃ seconds, 0 < seconds ∧ config.timestampInterval = some seconds ∧
        t.interval = seconds * 1000 ∧
        (∀ deadline, t.phase = .waiting deadline → deadline ≤ TimestampTask.lastInstant) ∧
        (t.phase = .dead → TimestampTask.lastInstant < s.now + t.interval)) ∧
      ∀ task t move next, s.timestamps[task]? = some t → BeginsWait task t move →
        s.flag.triggered = false → s.step move = some next →
        ∃ after, next.timestamps[task]? = some after ∧
          (after.phase = .dead ↔ TimestampTask.lastInstant < s.now + t.interval) := by
  refine ⟨new?_eq_none_iff, ?_⟩
  intro start s begun reached
  have timely : s.Timely config := (timely_of_new begun).reachable reached
  constructor
  · intro t member
    rcases timely.interval t member with ⟨seconds, configured, interval⟩
    have inTime := timely.inTime t member
    exact ⟨seconds, Config.interval_pos_of_load loaded configured, configured, interval,
      inTime.waits, inTime.dies⟩
  · intro task t move next found begins unset moved
    rcases step_beginsWait found begins moved with ⟨timerFirst, after⟩
    rw [unset] at after
    exact ⟨_, after, TimestampTask.phase_waitAnew_eq_dead⟩

/-- The most permits, and the longest interval that can be waited for when the clock has run for an
hour. -/
theorem greatest_numbers_in_range :
    let arguments := ["--max-connections=2305843009213693951",
      "--timestamp-interval=9223372036854772207"].map Bytes.ofString
    ∃ config start s t, Config.load arguments (fun _ => .error (.bare .notFound)) = .ok config ∧
      new? config (.loopback 9) (.ofTree ⟨[]⟩ []) = some start ∧ start.Reachable s ∧
      s.now = 3600000 ∧ s.timestamps[0]? = some t ∧ t.phase ≠ .dead := by
  intro arguments
  let config : Config := { Config.default with
    maxConnections := some 2305843009213693951, timestampInterval := some 9223372036854772207 }
  have loaded : Config.load arguments (fun _ => .error (.bare .notFound)) = .ok config := by
    decide +kernel
  have begun : new? config (.loopback 9) (.ofTree ⟨[]⟩ []) = some _ := rfl
  have every := (fails_only_out_of_range loaded (.loopback 9) (.ofTree ⟨[]⟩ [])).2 _ _ begun
    (.step .run (.step (.pass 3600000) .refl rfl) rfl)
  rcases every.2 0 _ (.pollTimestamp 0 false) _ rfl ⟨rfl, rfl⟩ rfl rfl with ⟨t, found, dies⟩
  refine ⟨config, _, _, t, loaded, begun,
    .step (.pollTimestamp 0 false) (.step .run (.step (.pass 3600000) .refl rfl) rfl) rfl, ?_,
    found,
    ?_⟩
  · decide +kernel
  · rw [Ne, dies]
    decide

/-- **A loaded configuration can be out of range**, so that no service is made of it, or so that the
timestamp task of the service dies at once. -/
theorem loaded_out_of_range :
    let load argument := Config.load [Bytes.ofString argument] fun _ => .error (.bare .notFound)
    (∃ config, load "--max-connections=2305843009213693952" = .ok config ∧
      new? config (.loopback 9) (.ofTree ⟨[]⟩ []) = none) ∧
    ∃ config start s, load "--timestamp-interval=18446744073709551615" = .ok config ∧
      new? config (.loopback 9) (.ofTree ⟨[]⟩ []) = some start ∧ start.Reachable s ∧
      s.flag.triggered = false ∧ s.timestamps.map (·.phase) = [.dead] := by
  intro load
  refine ⟨⟨{ Config.default with maxConnections := some 2305843009213693952 }, ?_, ?_⟩, ?_⟩
  · decide +kernel
  · rfl
  · refine ⟨{ Config.default with timestampInterval := some 18446744073709551615 }, _, _, ?_, rfl,
      .step (.pollTimestamp 0 false) (.step .run .refl rfl) rfl, rfl, rfl⟩
    decide +kernel

end Service

end PacketLog
