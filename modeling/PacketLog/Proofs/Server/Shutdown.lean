import Mathlib
import PacketLog.Proofs.Server.History
import PacketLog.Proofs.Server.Standing
import PacketLog.Proofs.Storage.Unlinking

/-! # Shutting down for good

The teardown drains the registry, waits for the handlers it found there, takes the timestamp task
and waits for it, and removes the file. The flag is set before it begins, so that no timestamp task
is started behind its back, and a drained registry refuses handlers, so that none is added to those
it waits for. How far it has come tells who may still be at work (`Standing.Prepared`); every step
keeps this true (`Standing.Step.orderly`). Hence nothing is left that could write to the log when
somebody is told that the teardown is done, and nothing ever will be (`Service.shutdown_is_final`).
-/

namespace PacketLog

/-- Whether the acceptor has closed its listener for good. -/
def Acceptor.isAway : Acceptor → Bool
  | .tearingDown _ | .returned _ => true
  | _ => false

namespace Standing

/-- No handler drives a session. -/
def Deserted (t : Standing) : Prop := ∀ seat ∈ t.seats, seat.stage ≠ .serving

/-- A timestamp task to wait for is the one that was started last. -/
def Latest (t : Standing) (waited : Option Nat) : Prop :=
  ∀ task, task + 1 = t.timestamps.length → waited = some task

/-- The timestamp task that was started last has come to an end. -/
def LatestDone (t : Standing) : Prop :=
  ∀ task timestamp, task + 1 = t.timestamps.length → t.timestamps[task]? = some timestamp →
    timestamp.isDone

/-- Who may still be at work when the teardown has come so far: before it begins, anybody; while it
waits for handlers, those it waits for; then no handler, and at last no timestamp task either. -/
def Prepared (t : Standing) : Teardown → Prop
  | .notStarted => t.registry.closed = false ∧ t.Latest t.slot
  | .joiningHandlers awaited _ => (∀ task seat, t.seats[task]? = some seat →
      seat.stage = .serving → task ∈ awaited) ∧ t.Latest t.slot
  | .joiningTimestamps waited => t.Deserted ∧ t.Latest waited
  | .removing | .done => t.Deserted ∧ t.LatestDone

/-- What every step keeps true: the roster is sound, only a session that is over is left by its
handler, whoever waits for the teardown has set the flag, a teardown that has begun has closed the
registry, nobody is at work who should not be, and nobody is told that the teardown is done before
it is. -/
structure Orderly (t : Standing) : Prop where
  roster : t.roster.Sound
  finished : ∀ seat ∈ t.seats, seat.stage ≠ .serving → seat.finished
  asked : t.Awaited ∨ t.teardown ≠ .notStarted → t.flag
  closed : t.teardown ≠ .notStarted → t.registry.closed
  prepared : t.Prepared t.teardown
  told : .returned ∈ t.callers ∨ (∃ result, t.acceptor = .returned result) → t.teardown = .done

variable {t next : Standing}

private theorem Step.finished (step : Step t next) (orderly : t.Orderly) :
    ∀ seat ∈ next.seats, seat.stage ≠ .serving → seat.finished := by
  cases step with
  | startTimestamps starts => cases starts <;> exact orderly.finished
  | run idle starts => cases starts <;> exact orderly.finished
  | enroll accepting offered =>
      intro seat member left
      obtain member | member := List.mem_append.mp member
      · exact orderly.finished seat member left
      · obtain rfl := List.mem_singleton.mp member
        exact absurd rfl left
  | work found serving going =>
      intro seat member left
      obtain member | rfl := List.mem_or_eq_of_mem_set member
      · exact orderly.finished seat member left
      · exact absurd serving left
  | leave found serving finished =>
      intro seat member left
      obtain member | rfl := List.mem_or_eq_of_mem_set member
      · exact orderly.finished seat member left
      · exact finished
  | @endTask task before found leaving =>
      intro seat member left
      obtain member | rfl := List.mem_or_eq_of_mem_set member
      · exact orderly.finished seat member left
      · have gone : before.stage ≠ .serving := fun serving => nomatch leaving.symm.trans serving
        exact orderly.finished before (List.mem_of_getElem? found) gone
  | _ => exact orderly.finished

private theorem Step.asked (step : Step t next) (orderly : t.Orderly) :
    next.Awaited ∨ next.teardown ≠ .notStarted → next.flag := by
  -- The acceptor gets on, but does not start to wait for the teardown.
  have busy : ∀ {after : Standing}, after.callers = t.callers → after.teardown = t.teardown →
      after.acceptor.isAway = false → after.Awaited ∨ after.teardown ≠ .notStarted → t.flag := by
    intro after callers teardown here asked
    refine orderly.asked (asked.imp (fun awaited => ?_) (teardown ▸ ·))
    refine awaited.imp (callers ▸ ·) fun ⟨result, tearing⟩ => ?_
    rw [tearing] at here
    exact nomatch here
  have begun : t.teardown ≠ .notStarted → t.flag := fun begun => orderly.asked (.inr begun)
  cases step with
  | trigger | call | closeListener => exact fun _ => rfl
  | returnCaller waiting done => exact fun _ => begun (done ▸ nofun)
  | startTimestamps starts => cases starts <;> exact orderly.asked
  | run idle starts => cases starts <;> exact busy rfl rfl rfl
  | checkFlag checking =>
      refine busy rfl rfl ?_
      dsimp only
      split <;> rfl
  | acquire | enroll | refuse | retry | pause | fail | resume | giveUpWaiting | giveUpPermit =>
      exact busy rfl rfl rfl
  | finishRun waiting done => exact fun _ => begun (done ▸ nofun)
  | beginTeardown awaited notStarted => exact fun _ => orderly.asked (.inl awaited)
  | joinHandler joining found ended => exact fun _ => begun (joining ▸ nofun)
  | takeTimestamps joined => exact fun _ => begun (joined ▸ nofun)
  | joinTimestamps joining ended => exact fun _ => begun (joining ▸ nofun)
  | _ => exact orderly.asked

private theorem Step.closed (step : Step t next) (orderly : t.Orderly) :
    next.teardown ≠ .notStarted → next.registry.closed := by
  cases step with
  | startTimestamps starts => cases starts <;> exact orderly.closed
  | run idle starts => cases starts <;> exact orderly.closed
  | enroll accepting offered =>
      intro begun
      have opened := (Registry.offer?_eq_some_iff.mp offered).1
      rw [Registry.closed_lock, orderly.closed begun] at opened
      exact nomatch opened
  | refuse accepting refused =>
      intro begun
      exact Registry.closed_lock.trans (orderly.closed begun)
  | beginTeardown awaited notStarted => exact fun _ => rfl
  | joinHandler joining found ended => exact fun _ => orderly.closed (joining ▸ nofun)
  | takeTimestamps joined => exact fun _ => orderly.closed (joined ▸ nofun)
  | joinTimestamps joining ended => exact fun _ => orderly.closed (joining ▸ nofun)
  | _ => exact orderly.closed

private theorem Step.told (step : Step t next) (orderly : t.Orderly) :
    .returned ∈ next.callers ∨ (∃ result, next.acceptor = .returned result) →
      next.teardown = .done := by
  -- The acceptor gets on, but does not return.
  have busy : ∀ {after : Standing}, after.callers = t.callers → after.teardown = t.teardown →
      after.acceptor.isAway = false →
      .returned ∈ after.callers ∨ (∃ result, after.acceptor = .returned result) →
      after.teardown = .done := by
    intro after callers teardown here told
    refine teardown.trans (orderly.told (told.imp (callers ▸ ·) fun ⟨result, returned⟩ => ?_))
    rw [returned] at here
    exact nomatch here
  cases step with
  | call =>
      intro told
      refine orderly.told (told.imp_left fun member => ?_)
      exact (List.mem_append.mp member).resolve_right (by simp)
  | returnCaller waiting done => exact fun _ => done
  | startTimestamps starts => cases starts <;> exact orderly.told
  | run idle starts => cases starts <;> exact busy rfl rfl rfl
  | checkFlag checking =>
      refine busy rfl rfl ?_
      dsimp only
      split <;> rfl
  | acquire | enroll | refuse | retry | pause | fail | resume | giveUpWaiting | giveUpPermit =>
      exact busy rfl rfl rfl
  | closeListener leaving =>
      exact fun told => orderly.told (told.imp_right fun ⟨_, returned⟩ => nomatch returned)
  | finishRun waiting done => exact fun _ => done
  | beginTeardown awaited notStarted =>
      exact fun told => nomatch notStarted.symm.trans (orderly.told told)
  | joinHandler joining found ended =>
      exact fun told => nomatch joining.symm.trans (orderly.told told)
  | takeTimestamps joined => exact fun told => nomatch joined.symm.trans (orderly.told told)
  | joinTimestamps joining ended =>
      exact fun told => nomatch joining.symm.trans (orderly.told told)
  | _ => exact orderly.told

/-- Nobody new is at work, and timestamp tasks that have come to an end stay so. -/
theorem Prepared.mono {phase : Teardown} (prepared : t.Prepared phase)
    (closed : next.registry.closed = t.registry.closed) (slot : next.slot = t.slot)
    (serving : ∀ (task : Nat) (seat : Seat), next.seats[task]? = some seat → seat.stage = .serving →
      ∃ before : Seat, t.seats[task]? = some before ∧ before.stage = .serving)
    (count : next.timestamps.length = t.timestamps.length)
    (done : ∀ (task : Nat) (timestamp : TimestampTask), next.timestamps[task]? = some timestamp →
      ∃ before : TimestampTask, t.timestamps[task]? = some before ∧
        (before.isDone → timestamp.isDone)) :
    next.Prepared phase := by
  have deserted : t.Deserted → next.Deserted := by
    intro deserted seat member stage
    obtain ⟨task, found⟩ := List.mem_iff_getElem?.mp member
    obtain ⟨before, place, same⟩ := serving task seat found stage
    exact deserted before (List.mem_of_getElem? place) same
  have latest : ∀ {waited}, t.Latest waited → next.Latest waited := by
    intro waited latest task last
    exact latest task (count ▸ last)
  have latestDone : t.LatestDone → next.LatestDone := by
    intro latestDone task timestamp last found
    obtain ⟨before, place, stays⟩ := done task timestamp found
    exact stays (latestDone task before (count ▸ last) place)
  cases phase with
  | notStarted => exact ⟨closed.trans prepared.1, slot ▸ latest prepared.2⟩
  | joiningHandlers awaited count =>
      refine ⟨fun task seat found stage => ?_, slot ▸ latest prepared.2⟩
      obtain ⟨before, place, same⟩ := serving task seat found stage
      exact prepared.1 task before place same
  | joiningTimestamps waited => exact ⟨deserted prepared.1, latest prepared.2⟩
  | removing => exact ⟨deserted prepared.1, latestDone prepared.2⟩
  | done => exact ⟨deserted prepared.1, latestDone prepared.2⟩

/-- A handler that comes to stand otherwise does not come back to its session. -/
theorem Prepared.setSeat {phase : Teardown} {task : Nat} {before seat : Seat}
    (prepared : t.Prepared phase) (found : t.seats[task]? = some before)
    (forth : seat.stage = .serving → before.stage = .serving) :
    (t.setSeat task seat).Prepared phase := by
  refine prepared.mono rfl rfl ?_ rfl fun _ timestamp place => ⟨timestamp, place, id⟩
  intro other after place serving
  by_cases here : task = other
  · subst here
    obtain ⟨inside, _⟩ := List.getElem?_eq_some_iff.mp found
    rw [Standing.setSeat, List.getElem?_set_self inside] at place
    obtain rfl := Option.some.inj place
    exact ⟨before, found, forth serving⟩
  · rw [Standing.setSeat, List.getElem?_set_ne here] at place
    exact ⟨after, place, serving⟩

private theorem Orderly.mem_registered (orderly : t.Orderly) (opened : t.registry.closed = false)
    {task : Nat} {seat : Seat} (found : t.seats[task]? = some seat)
    (serving : seat.stage = .serving) : task ∈ t.registered := by
  have holds : t.roster.Holds task seat.guard := by
    refine ⟨?_, by rw [Seat.guard, serving]; rfl⟩
    rw [Standing.roster, List.getElem?_map, found]
    rfl
  have entry : t.registry.lock.entry? seat.key = some ⟨seat.peer, task⟩ :=
    (orderly.roster.entry?_lock_iff opened).mpr ⟨seat.guard, holds, rfl, rfl⟩
  exact List.mem_map.mpr ⟨_, Registry.mem_entries_iff.mpr ⟨_, entry⟩, rfl⟩

private theorem Step.prepared (step : Step t next) (orderly : t.Orderly) :
    next.Prepared next.teardown := by
  have prepared := orderly.prepared
  have started : ∀ {after : Standing}, t.Starts after → after.Prepared after.teardown := by
    intro after starts
    cases starts with
    | not => exact prepared
    | started early =>
        have notStarted : t.teardown = .notStarted := by
          refine Decidable.byContradiction fun begun => ?_
          exact nomatch early.symm.trans (orderly.asked (.inr begun))
        simp only [notStarted] at prepared ⊢
        refine ⟨prepared.1, fun task last => ?_⟩
        rw [List.length_append, List.length_singleton] at last
        exact congrArg some (Nat.succ.inj last).symm
  cases step with
  | startTimestamps starts => exact started starts
  | run idle starts =>
      have now := started starts
      exact now
  | enroll accepting offered =>
      have opened := (Registry.offer?_eq_some_iff.mp offered).1
      have notStarted : t.teardown = .notStarted := by
        refine Decidable.byContradiction fun begun => ?_
        rw [Registry.closed_lock, orderly.closed begun] at opened
        exact nomatch opened
      simp only [notStarted] at prepared ⊢
      refine ⟨?_, prepared.2⟩
      rw [Registry.closed_lock, Registry.closed_register, opened]
  | refuse accepting refused =>
      exact prepared.mono Registry.closed_lock rfl
        (fun _ seat place serving => ⟨seat, place, serving⟩)
        rfl fun _ timestamp place => ⟨timestamp, place, id⟩
  | work found serving going => exact prepared.setSeat found fun _ => serving
  | leave found serving finished => exact prepared.setSeat found fun stage => nomatch stage
  | endTask found leaving => exact prepared.setSeat found fun stage => nomatch stage
  | @getOn task timestamp after found running =>
      refine prepared.mono rfl rfl (fun _ seat place serving => ⟨seat, place, serving⟩)
        List.length_set ?_
      intro other later place
      by_cases here : task = other
      · subst here
        exact ⟨timestamp, found, fun done => nomatch running.symm.trans done⟩
      · rw [List.getElem?_set_ne here] at place
        exact ⟨later, place, id⟩
  | beginTeardown awaited notStarted =>
      simp only [notStarted] at prepared
      exact ⟨fun task seat found serving => orderly.mem_registered prepared.1 found serving,
        prepared.2⟩
  | @joinHandler task count rest ended joining found stage =>
      rw [joining] at prepared
      refine ⟨fun other seat place serving => ?_, prepared.2⟩
      obtain rfl | member := List.mem_cons.mp (prepared.1 other seat place serving)
      · obtain rfl := Option.some.inj (found.symm.trans place)
        exact nomatch stage.symm.trans serving
      · exact member
  | takeTimestamps joined =>
      rw [joined] at prepared
      refine ⟨fun seat member serving => ?_, prepared.2⟩
      obtain ⟨task, found⟩ := List.mem_iff_getElem?.mp member
      exact nomatch prepared.1 task seat found serving
  | joinTimestamps joining ended =>
      rw [joining] at prepared
      refine ⟨prepared.1, fun task timestamp last found => ?_⟩
      obtain ⟨before, place, done⟩ := ended task (prepared.2 task last)
      obtain rfl := Option.some.inj (place.symm.trans found)
      exact done
  | _ => exact prepared

/-- **One step** keeps everything in order. -/
theorem Step.orderly (step : Step t next) (orderly : t.Orderly) : next.Orderly where
  roster := orderly.roster.of_steps step.roster
  finished := step.finished orderly
  asked := step.asked orderly
  closed := step.closed orderly
  prepared := step.prepared orderly
  told := step.told orderly

/-- The end of the teardown keeps order. -/
theorem Finishes.orderly (finishes : t.Finishes next) (orderly : t.Orderly) : next.Orderly := by
  obtain ⟨removing, rfl⟩ := finishes
  have begun : t.teardown ≠ .notStarted := removing ▸ nofun
  have prepared := orderly.prepared
  rw [removing] at prepared
  exact {
    roster := orderly.roster
    finished := orderly.finished
    asked := fun _ => orderly.asked (.inr begun)
    closed := fun _ => orderly.closed begun
    prepared := prepared
    told := fun _ => rfl }

/-! ## When all is over -/

/-- All is over: the teardown is done, no handler drives a session, none is let in, and every
timestamp task has come to an end. -/
structure Final (t : Standing) : Prop where
  flag : t.flag
  closed : t.registry.closed
  done : t.teardown = .done
  deserted : t.Deserted
  stopped : ∀ timestamp ∈ t.timestamps, timestamp.isDone

/-- When the teardown is done, all is over, unless timestamps were started more than once. -/
theorem Orderly.final (orderly : t.Orderly) (done : t.teardown = .done)
    (once : t.timestamps.length ≤ 1) : t.Final := by
  have begun : t.teardown ≠ .notStarted := done ▸ nofun
  have prepared := orderly.prepared
  rw [done] at prepared
  refine ⟨orderly.asked (.inr begun), orderly.closed begun, done, prepared.1, ?_⟩
  intro timestamp member
  obtain ⟨task, found⟩ := List.mem_iff_getElem?.mp member
  obtain ⟨inside, _⟩ := List.getElem?_eq_some_iff.mp found
  have last : task + 1 = t.timestamps.length := by omega
  exact prepared.2 task timestamp last found

/-- When all is over, it stays so, and no handler is added. -/
theorem Step.final (step : Step t next) (final : t.Final) :
    next.Final ∧ next.seats.length = t.seats.length := by
  obtain ⟨flag, closed, done, deserted, stopped⟩ := final
  have notServing : ∀ {task : Nat} {seat : Seat}, t.seats[task]? = some seat →
      seat.stage ≠ .serving :=
    fun found => deserted _ (List.mem_of_getElem? found)
  have notStarted : ∀ {after : Standing}, t.Starts after → after = t := by
    intro after starts
    cases starts with
    | not => rfl
    | started early => exact nomatch early.symm.trans flag
  cases step with
  | trigger | call | closeListener => exact ⟨⟨rfl, closed, done, deserted, stopped⟩, rfl⟩
  | startTimestamps starts =>
      rw [notStarted starts]
      exact ⟨⟨flag, closed, done, deserted, stopped⟩, rfl⟩
  | run idle starts =>
      rw [notStarted starts]
      exact ⟨⟨flag, closed, done, deserted, stopped⟩, rfl⟩
  | enroll accepting offered =>
      have opened := (Registry.offer?_eq_some_iff.mp offered).1
      rw [Registry.closed_lock, closed] at opened
      exact nomatch opened
  | refuse accepting refused =>
      exact ⟨⟨flag, Registry.closed_lock.trans closed, done, deserted, stopped⟩, rfl⟩
  | work found serving going => exact absurd serving (notServing found)
  | leave found serving finished => exact absurd serving (notServing found)
  | endTask found leaving =>
      refine ⟨⟨flag, closed, done, fun seat member => ?_, stopped⟩, List.length_set⟩
      obtain member | rfl := List.mem_or_eq_of_mem_set member
      · exact deserted seat member
      · exact nofun
  | getOn found running =>
      exact nomatch running.symm.trans (stopped _ (List.mem_of_getElem? found))
  | beginTeardown awaited notStarted => exact nomatch notStarted.symm.trans done
  | joinHandler joining => exact nomatch joining.symm.trans done
  | takeTimestamps joined => exact nomatch joined.symm.trans done
  | joinTimestamps joining => exact nomatch joining.symm.trans done
  | _ => exact ⟨⟨flag, closed, done, deserted, stopped⟩, rfl⟩

private theorem Step.done (step : Step t next) (done : next.teardown = .done) :
    t.teardown = .done := by
  cases step with
  | startTimestamps starts => cases starts <;> exact done
  | run idle starts => cases starts <;> exact done
  | beginTeardown | joinHandler | takeTimestamps | joinTimestamps => exact nomatch done
  | _ => exact done

private theorem Step.length_timestamps_le (step : Step t next) :
    t.timestamps.length ≤ next.timestamps.length := by
  have started : ∀ {after : Standing}, t.Starts after →
      t.timestamps.length ≤ after.timestamps.length := by
    intro after starts
    cases starts with
    | not => exact Nat.le_refl _
    | started early => simp
  cases step with
  | startTimestamps starts => exact started starts
  | run idle starts =>
      have more := started starts
      exact more
  | getOn found running => exact Nat.le_of_eq List.length_set.symm
  | _ => exact Nat.le_refl _

end Standing

namespace Service

variable {start s next : Service} {past : List Occurrence}

/-- A service that has not been started is in order, and its teardown has not begun. -/
theorem orderly_of_new {config : Config} {address : SocketAddress} {storage : Storage}
    (begun : new? config address storage = some start) :
    start.standing.Orderly ∧ start.teardown = .notStarted := by
  rw [new?] at begun
  split at begun
  · exact nomatch begun
  · obtain rfl := Option.some.inj begun
    refine ⟨?_, rfl⟩
    exact {
      roster := Roster.sound_empty
      finished := nofun
      asked := by
        rintro ((member | ⟨_, tearing⟩) | begun)
        · exact nomatch member
        · exact nomatch tearing
        · exact absurd rfl begun
      closed := fun begun => absurd rfl begun
      prepared := ⟨rfl, nofun⟩
      told := by
        rintro (member | ⟨_, returned⟩)
        · exact nomatch member
        · exact nomatch returned }

/-- Every move keeps order. -/
theorem orderly_of_step {move : Move} (moved : s.step move = some next)
    (orderly : s.standing.Orderly) : next.standing.Orderly := by
  obtain step | ⟨_, finishes, _⟩ := step_standing moved
  · exact step.orderly orderly
  · exact finishes.orderly orderly

/-- **All services are in order.** -/
theorem History.orderly (history : start.History past s) (orderly : start.standing.Orderly) :
    s.standing.Orderly := by
  induction history with
  | refl => exact orderly
  | step move _ moved ih => exact orderly_of_step moved ih

/-! ## Nothing more is written -/

private theorem serving?_of_final (final : s.standing.Final) (task : Nat) :
    s.serving? task = none := by
  cases served : s.serving? task with
  | none => rfl
  | some c =>
      obtain ⟨found, serving, _⟩ := seat_of_serving? served
      exact absurd serving (final.deserted _ (List.mem_of_getElem? (seat_of_connection found)))

/-- **When all is over, a move is quiet.** It does nothing to a session or to the log, and all stays
over. -/
theorem quiet_of_final {move : Move} (final : s.standing.Final) (moved : s.step move = some next) :
    s.occurrence move = .quiet ∧ next.storage = s.storage ∧ next.standing.Final ∧
      next.connections.length = s.connections.length := by
  have finalNext : next.standing.Final ∧ next.connections.length = s.connections.length := by
    obtain step | ⟨_, finishes, _⟩ := step_standing moved
    · obtain ⟨finalNext, count⟩ := step.final final
      rw [standing, standing, List.length_map, List.length_map] at count
      exact ⟨finalNext, count⟩
    · cases finishes.1.symm.trans final.done
  have unserved : ∀ {task : Nat} {work : Connection → Option Service},
      (s.serving? task).bind work = some next → s.occurrence move = .quiet := by
    intro task work moved
    rw [serving?_of_final final] at moved
    cases moved
  have quiet : s.occurrence move = .quiet := by
    cases move with
    | receive task bytes => exact unserved moved
    | failReceive task e => exact unserved moved
    | append task => exact unserved moved
    | snapshot task => exact unserved moved
    | send task count => exact unserved moved
    | failSend task e => exact unserved moved
    | heedClose task => exact unserved moved
    | writeTimestamp task moment timerFirst =>
        have written : s.writeTimestamp? task moment timerFirst = some next := moved
        obtain ⟨timestamp, found, written⟩ := Option.bind_eq_some_iff.mp written
        have stopped := final.stopped timestamp (List.mem_of_getElem? found)
        split at written
        · rename_i appending
          rw [TimestampTask.isDone, appending] at stopped
          cases stopped
        · cases written
    | removeFile =>
        have finishes := (finishes_removeFile? moved).1
        cases finishes.1.symm.trans final.done
    | _ => rfl
  have occurs := (step_occurs moved).2
  rw [quiet] at occurs
  exact ⟨quiet, occurs.2, finalNext⟩

/-- When all is over, nothing more is written, whatever else occurs. -/
theorem History.quiet (history : start.History past s) (final : start.standing.Final) :
    (∀ occurrence ∈ past, occurrence = .quiet) ∧ s.storage = start.storage ∧ s.standing.Final ∧
      s.connections.length = start.connections.length := by
  induction history with
  | refl => exact ⟨fun _ member => absurd member List.not_mem_nil, rfl, final, rfl⟩
  | step move _ moved ih =>
      obtain ⟨quiet, storage, finalHere, count⟩ := ih
      obtain ⟨quietNow, storageNow, finalNow, countNow⟩ := quiet_of_final finalHere moved
      refine ⟨fun occurrence member => ?_, storageNow.trans storage, finalNow, countNow.trans count⟩
      obtain member | member := List.mem_append.mp member
      · exact quiet occurrence member
      · exact (List.mem_singleton.mp member).trans quietNow

/-- **The file is removed once.** When the teardown is done, the file was removed at one moment, and
nothing was written since. -/
theorem History.removal (history : start.History past s) (orderly : start.standing.Orderly)
    (notStarted : start.teardown = .notStarted) (done : s.teardown = .done)
    (once : s.timestamps.length ≤ 1) :
    ∃ earlier later before, past = earlier ++ .removal :: later ∧ start.History earlier before ∧
      s.storage = (before.log.remove before.storage).2 ∧
      ∀ occurrence ∈ later, occurrence = .quiet := by
  induction history with
  | refl => exact nomatch notStarted.symm.trans done
  | @step past s next move before moved ih =>
      obtain step | ⟨rfl, finishes, storage⟩ := step_standing moved
      · have doneBefore : s.teardown = .done := step.done done
        have onceBefore := Nat.le_trans step.length_timestamps_le once
        obtain ⟨earlier, later, moment, rfl, reached, storage, quiet⟩ := ih doneBefore onceBefore
        have final := (before.orderly orderly).final doneBefore onceBefore
        obtain ⟨quietNow, storageNow, _⟩ := quiet_of_final final moved
        refine ⟨earlier, later ++ [s.occurrence move], moment, ?_, reached,
          storageNow.trans storage, ?_⟩
        · rw [List.append_assoc]
          rfl
        · intro occurrence member
          obtain member | member := List.mem_append.mp member
          · exact quiet occurrence member
          · exact (List.mem_singleton.mp member).trans quietNow
      · exact ⟨past, [], s, rfl, before, storage, fun _ member => absurd member List.not_mem_nil⟩

/-- **Shutdown is final.** A service runs from its beginning, with any number of connections that
end well or badly, anybody asking for shutdown, and timestamps started once at most, however late
that is tried again. When anybody who asked for shutdown is told that it is complete, or the
acceptor returns, every session is over and its connection let go of, every timestamp task has come
to an end, the registry refuses handlers, and the file was removed, once, with nothing written
since; if removing it succeeded, it is absent. After that no session begins, nothing is written and
the file does not come back, whatever else occurs. -/
theorem shutdown_is_final {config : Config} {address : SocketAddress} {storage : Storage}
    (begun : new? config address storage = some start) (history : start.History past s)
    (told : .returned ∈ s.callers ∨ ∃ result, s.acceptor = .returned result)
    (once : s.timestamps.length ≤ 1) :
    (∀ c ∈ s.connections, c.isOver ∧ c.stage ≠ .serving) ∧
      (∀ timestamp ∈ s.timestamps, timestamp.isDone) ∧
      s.registry.offer? = none ∧
      (∃ earlier later before, past = earlier ++ .removal :: later ∧
        start.History earlier before ∧
        s.storage = (before.log.remove before.storage).2 ∧
        (∀ occurrence ∈ later, occurrence = .quiet) ∧
        ((before.log.remove before.storage).1.isOk → s.log.Absent s.storage)) ∧
      ∀ later after, s.History later after →
        (∀ occurrence ∈ later, occurrence = .quiet) ∧ after.storage = s.storage ∧
        after.connections.length = s.connections.length ∧ after.registry.offer? = none := by
  obtain ⟨orderlyStart, notStarted⟩ := orderly_of_new begun
  have orderly := history.orderly orderlyStart
  have done : s.teardown = .done := orderly.told told
  have final := orderly.final done once
  refine ⟨?_, final.stopped, Registry.offer?_eq_none_iff.mpr final.closed, ?_, ?_⟩
  · intro c member
    have seat : c.seat ∈ s.standing.seats := List.mem_map_of_mem member
    have gone : c.stage ≠ .serving := final.deserted c.seat seat
    exact ⟨orderly.finished c.seat seat gone, gone⟩
  · obtain ⟨earlier, later, before, split, reached, removed, quiet⟩ :=
      history.removal orderlyStart notStarted done once
    refine ⟨earlier, later, before, split, reached, removed, quiet, fun succeeded => ?_⟩
    have same : s.log = before.log := history.log_eq.trans reached.log_eq.symm
    rw [same, removed]
    have outcome : before.log.Removes before.storage (before.log.remove before.storage) :=
      SharedLog.removes
    generalize before.log.remove before.storage = removal at outcome succeeded
    cases outcome with
    | unlinked _ _ _ _ absent => exact absent
    | absent absent => exact absent
    | failed => exact nomatch succeeded
  · intro later after further
    obtain ⟨quiet, storage, finalAfter, count⟩ := further.quiet final
    exact ⟨quiet, storage, count, Registry.offer?_eq_none_iff.mpr finalAfter.closed⟩

/-- A timestamp is being written and one of two handlers has broken down when somebody asks for
shutdown; then timestamps are started once more, and one more connection comes in. -/
theorem shutdown_amid_work :
    let config : Config :=
      ⟨.loopback 9, false, [47, 108], some 1, 8, 4, 16, some 2, "info", none⟩
    let moves : List Move :=
      [.run, .checkFlag, .acquire, .accept (.loopback 1), .receive 0 [97, 10, 98], .append 0,
        .pollTimestamp 0 false, .checkFlag, .acquire, .accept (.loopback 2), .crash 1, .leave 1,
        .endTask 1, .checkFlag, .acquire, .pass 1000, .pollTimestamp 0 false, .callShutdown,
        .startTimestamps, .beginTeardown, .accept (.loopback 3), .snapshot 0, .heedClose 0,
        .leave 0, .endTask 0, .joinHandler, .writeTimestamp 0 ⟨0, 0, 0⟩ false, .joinHandler,
        .joinTimestamp, .removeFile, .returnCaller 0]
    ∃ start past s, new? config (.loopback 9) (.ofTree ⟨[]⟩ []) = some start ∧
      start.play moves = some (past, s) ∧ s.connections.length = 2 ∧
      (∀ c ∈ s.connections, c.isOver ∧ c.stage ≠ .serving) ∧
      ∀ later after, s.History later after → after.storage = s.storage := by
  intro config moves
  obtain ⟨start, begun⟩ : ∃ start, new? config (.loopback 9) (.ofTree ⟨[]⟩ []) = some start :=
    ⟨_, rfl⟩
  have outcome : ((new? config (.loopback 9) (.ofTree ⟨[]⟩ [])).bind fun start =>
      (start.play moves).map fun played => (played.2.callers, played.2.timestamps.length,
        played.2.connections.length)) = some ([.returned], 1, 2) := by cbv
  rw [begun, Option.bind_some, Option.map_eq_some_iff] at outcome
  obtain ⟨⟨past, s⟩, played, same⟩ := outcome
  simp only [Prod.mk.injEq] at same
  obtain ⟨callers, timestamps, connections⟩ := same
  obtain ⟨finished, _, _, _, quiet⟩ := shutdown_is_final begun (history_of_play played)
    (.inl (callers ▸ List.mem_cons_self)) (Nat.le_of_eq timestamps)
  exact ⟨start, past, s, begun, played, connections, finished,
    fun later after further => (quiet later after further).2.1⟩

end Service

end PacketLog
