import Mathlib
import PacketLog.Proofs.Process.StartFailures
import PacketLog.Proofs.Server.Waiting

/-! # Shutdown comes to its end

The teardown asks every handler that it waits for to close, and none of them is ever asked to go on
(`Service.Lives.asked`). So once its flag is set a service needs nothing from outside any more: when
it can get no further by itself, it has returned, and so has everybody who waited for it, or there
is something to be done with its file (`Service.returns_or_has_errands`). A process that was
launched and gets a signal therefore ends (`Launch.ends_after_a_signal`). -/

namespace PacketLog

namespace Standing

variable {t next : Standing}

/-- The flag stays set. -/
theorem Step.flag (step : Step t next) (set : t.flag) : next.flag := by
  cases step with
  | startTimestamps starts => cases starts <;> exact set
  | run idle starts => cases starts <;> exact set
  | trigger | call | closeListener => rfl
  | _ => exact set

/-- An acceptor that was started may have returned, but is not idle again. -/
theorem Step.started (step : Step t next) (started : t.acceptor ≠ .idle) :
    next.acceptor ≠ .idle := by
  cases step with
  | startTimestamps starts => cases starts <;> exact started
  | run idle starts => exact absurd idle started
  | checkFlag checking =>
      dsimp only
      split <;> simp
  | acquire | enroll | refuse | retry | pause | fail | resume | giveUpWaiting | giveUpPermit |
    closeListener | finishRun => simp
  | _ => exact started

end Standing

namespace Service

variable {start s next : Service} {move : Move} {task : Nat}

/-! ## Who is asked to close -/

/-- Which handlers were asked to close. -/
def closings (s : Service) : List Bool := s.connections.map Connection.closing

/-- The handlers that the teardown waits for were asked to close. -/
def Asked (s : Service) : Prop :=
  ∀ awaited count, s.teardown = .joiningHandlers awaited count →
    ∀ task ∈ awaited, s.closings[task]? = some true

private theorem closings_modify (task : Nat) {f : Connection → Connection}
    (same : ∀ c, (f c).closing = c.closing) :
    (s.connections.modify task f).map Connection.closing = s.closings :=
  map_modify same

/-- A handler that comes is asked nothing, and nobody but the teardown as it begins asks a handler
to close. -/
theorem closings_step (later : move ≠ .beginTeardown) (moved : s.step move = some next) :
    s.closings <+: next.closings := by
  have same (kept : next.closings = s.closings) : s.closings <+: next.closings :=
    kept ▸ List.prefix_rfl
  cases move with
  | beginTeardown => exact absurd rfl later
  | accept peer =>
      grind [step, accept?, dispatch, lockRegistry, returnPermit, note, closings,
        List.prefix_append, List.prefix_refl]
  | append task =>
      obtain ⟨c, -, moved⟩ := Option.bind_eq_some_iff.mp moved
      split at moved
      · obtain rfl := Option.some.inj moved
        exact same (closings_modify task fun _ => rfl)
      · cases moved
  | receive | failReceive | snapshot | send | failSend | heedClose | crash | leave | endTask =>
      grind [step, Option.bind_eq_some_iff, receive?, failReceive?, snapshot?, send?, failSend?,
        heedClose?, crash?, leave?, endTask?, setSession, returnPermit, closings, closings_modify]
  | pollTimestamp | writeTimestamp =>
      exact same (congrArg (·.2.2.2.1.map Connection.closing) (besideTimestamps_step rfl moved))
  | joinHandler | joinTimestamp | removeFile =>
      grind [step, Option.bind_eq_some_iff, joinHandler?, joinTimestamp?, removeFile?,
        fileRemoved, note, closings]
  | _ =>
      grind [step, checkFlag?, acquire?, failAccept?, resume?, heedFlag?, closeListener?,
        finishRun?, returnCaller?, catchSignal?, callShutdown, trigger, run?, startTimestamps,
        requestShutdown, returnPermit, note, pass, closings]

/-- The teardown does not begin to wait for a handler later on. -/
theorem awaited_step {awaited : List Nat} {count : Nat} (later : move ≠ .beginTeardown)
    (moved : s.step move = some next) (joining : next.teardown = .joiningHandlers awaited count) :
    ∃ before count, s.teardown = .joiningHandlers before count ∧ awaited ⊆ before := by
  have same (kept : next.teardown = s.teardown) :
      ∃ before count, s.teardown = .joiningHandlers before count ∧ awaited ⊆ before :=
    ⟨awaited, count, kept ▸ joining, fun _ => id⟩
  cases move with
  | beginTeardown => exact absurd rfl later
  | checkFlag | acquire | accept | failAccept | resume | heedFlag =>
      exact same (congrArg (·.2.2.2.2.2.2.1) (besideAcceptor_step rfl moved))
  | receive | failReceive | append | snapshot | send | failSend | heedClose | crash | leave |
    endTask => exact same (congrArg (·.2.2.2.2.2.2.1) (besideHandlers_step rfl moved))
  | pollTimestamp | writeTimestamp =>
      exact same (congrArg (·.2.2.2.2.2.2.2.2.1) (besideTimestamps_step rfl moved))
  | joinHandler | joinTimestamp | removeFile =>
      grind [step, Option.bind_eq_some_iff, joinHandler?, joinTimestamp?, removeFile?,
        fileRemoved, note, List.subset_cons_self]
  | _ =>
      refine same ?_
      grind [step, closeListener?, finishRun?, returnCaller?, catchSignal?, callShutdown, trigger,
        run?, startTimestamps, requestShutdown, note, pass]

/-- Whoever is asked to close was asked then. -/
private theorem closings_askToClose {tasks : List Nat} (member : task ∈ tasks)
    (inside : task < s.connections.length) : (s.askToClose tasks).closings[task]? = some true := by
  suffices asked : ∀ connections : List Connection, task < connections.length →
      task ∈ tasks ∨ (connections.map Connection.closing)[task]? = some true →
      ((tasks.foldl (fun cs task => cs.modify task ({ · with closing := true })) connections).map
        Connection.closing)[task]? = some true from asked s.connections inside (.inl member)
  clear member inside
  induction tasks with
  | nil => exact fun _ _ asked => asked.resolve_left List.not_mem_nil
  | cons first tasks ih =>
      intro connections inside asked
      refine ih _ (by rwa [List.length_modify]) ?_
      by_cases here : first = task
      · subst here
        exact .inr (by simp [inside])
      · refine asked.imp (fun member => ?_) fun already => ?_
        · exact (List.mem_cons.mp member).resolve_left fun same => here same.symm
        · simpa [List.getElem?_modify_ne _ _ here] using already

/-- **One move.** The teardown waits only for handlers that were asked to close. -/
theorem Asked.step (asked : s.Asked) (orderly : s.standing.Orderly)
    (moved : s.step move = some next) : next.Asked := by
  intro awaited count joining task member
  by_cases begins : move = .beginTeardown
  · subst begins
    have moved : s.beginTeardown? = some next := moved
    unfold beginTeardown? at moved
    split at moved
    · obtain rfl := Option.some.inj moved
      obtain ⟨rfl, -⟩ := Teardown.joiningHandlers.inj joining
      have inside := orderly.lt_of_mem_registered member
      rw [standing, List.length_map] at inside
      exact closings_askToClose (s := s.lockRegistry) member inside
    · cases moved
  · obtain ⟨before, earlier, waited, fewer⟩ := awaited_step begins moved joining
    have was := asked before earlier waited task (fewer member)
    obtain ⟨more, same⟩ := closings_step begins moved
    rw [← same, List.getElem?_append_left (List.getElem?_eq_some_iff.mp was).1]
    exact was

/-- A report asks nobody to close, and nobody else is waited for. -/
theorem closings_report? {report : Report} (told : s.report? report = some next) :
    next.closings = s.closings ∧ (next.teardown = s.teardown ∨ next.teardown = .done) := by
  cases report with
  | appended task result | snapshotTaken task result =>
      obtain ⟨c, -, told⟩ := Option.bind_eq_some_iff.mp told
      split at told
      · obtain rfl := Option.some.inj told
        exact ⟨closings_modify task fun _ => rfl, .inl rfl⟩
      · exact nomatch told
  | recordAppended task record timerFirst result =>
      obtain ⟨t, -, told⟩ := Option.bind_eq_some_iff.mp told
      split at told
      · obtain rfl := Option.some.inj told
        have beside := besideTimestamps_recordAppended (s := s) task t record timerFirst result
        exact ⟨congrArg (·.2.2.2.1.map Connection.closing) beside,
          .inl (congrArg (·.2.2.2.2.2.2.2.2.1) beside)⟩
      · exact nomatch told
  | removed result =>
      rw [report?] at told
      split at told
      · obtain rfl := Option.some.inj told
        exact ⟨rfl, .inr rfl⟩
      · exact nomatch told

/-- Among others, too, the teardown waits only for handlers that were asked to close. -/
theorem Lives.asked {config : Config} {address : SocketAddress} {storage : Storage}
    (begun : new? config address storage = some start) (lives : start.Lives s) : s.Asked := by
  obtain ⟨orderly, notStarted⟩ := orderly_of_new begun
  induction lives with
  | refl => exact fun _ _ joining => nomatch notStarted.symm.trans joining
  | move move before moved ih => exact ih.step (before.orderly orderly) moved
  | told report before told ih =>
      obtain ⟨closings, kept | done⟩ := closings_report? told
      · exact fun awaited count joining => closings ▸ ih awaited count (kept ▸ joining)
      · exact fun _ _ joining => nomatch done.symm.trans joining
  | changed storage before ih => exact ih

/-- Among others, too, shutdown is not called off. -/
theorem Lives.flag (lives : start.Lives s) (set : start.flag.triggered) : s.flag.triggered := by
  refine lives.keeps (P := fun t => t.flag = true) set (fun _ _ step set => step.flag set) ?_
  rintro _ _ ⟨-, rfl⟩ set
  exact set

/-- Among others, too, an acceptor that was started is not idle again. -/
theorem Lives.started (lives : start.Lives s) (started : start.acceptor ≠ .idle) :
    s.acceptor ≠ .idle := by
  refine lives.keeps (P := fun t => t.acceptor ≠ .idle) started
    (fun _ _ step started => step.started started) ?_
  rintro _ _ ⟨-, rfl⟩ started
  exact started

/-! ## What is left to wait for -/

/-- A handler that was asked to close, and can get no further by itself, has ended, or something is
to be done with the file. -/
theorem ended_of_asked {c : Connection} (still : StillFor quietMoves s)
    (found : s.connections[task]? = some c) (closing : c.closing = true) :
    c.stage = .ended ∨ s.errands ≠ [] := by
  refine or_iff_not_imp_left.mpr fun goesOn => ?_
  obtain ⟨demand, wanted⟩ | ⟨errand, wanted⟩ := waits_of_goesOn still found goesOn
  · obtain ⟨there, served, phase⟩ := handlerDemand?_eq_some.mp wanted
    obtain ⟨again, -, -⟩ := seat_of_serving? served
    obtain rfl := Option.some.inj (found.symm.trans again)
    have inside := (List.getElem?_eq_some_iff.mp found).1
    have stuck := still (.heedClose task) (by simp [quietMoves, inside])
    obtain ⟨reading, -⟩ | ⟨first, left, rest, replying, -⟩ := phase
    · simp [Service.step, heedClose?, served, closing, reading] at stuck
    · simp [Service.step, heedClose?, served, closing, replying] at stuck
  · exact List.ne_nil_of_mem (mem_errands_iff.mpr (.inl ⟨task, wanted⟩))

/-- **Shutdown comes to its end.** A service that was started and asked for shutdown needs nothing
from outside: when it can get no further by itself, something is to be done with its file, or it has
returned, and so has everybody who waited for its teardown. -/
theorem returns_or_has_errands {config : Config} {address : SocketAddress} {storage : Storage}
    (begun : new? config address storage = some start) (lives : start.Lives s)
    (set : s.flag.triggered) (started : s.acceptor ≠ .idle)
    (still : StillFor quietMoves s) :
    s.errands ≠ [] ∨ (∃ result, s.acceptor = .returned result) ∧ .waiting ∉ s.callers := by
  obtain ⟨orderly, -, -⟩ := lives_in_order begun lives
  have done_of_awaited (awaited : s.isAwaited) : s.errands ≠ [] ∨ s.teardown = .done := by
    refine or_iff_not_imp_right.mpr fun goesOn => ?_
    obtain ⟨tasks, count, task, c, joining, member, found, goesOn⟩ | errands :=
      waits_of_teardown orderly (lives.present begun) still awaited goesOn
    · have closing := lives.asked begun tasks count joining task member
      rw [closings, List.getElem?_map, found] at closing
      exact (ended_of_asked still found (Option.some.inj closing)).resolve_left goesOn
    · exact errands
  have returned : s.errands ≠ [] ∨ ∃ result, s.acceptor = .returned result := by
    cases acceptor : s.acceptor with
    | idle => exact absurd acceptor started
    | checking =>
        have stuck := still .checkFlag (by simp [quietMoves])
        simp [Service.step, checkFlag?, acceptor] at stuck
    | awaitingPermit | accepting | backingOff =>
        have stuck := still .heedFlag (by simp [quietMoves])
        simp [Service.step, heedFlag?, acceptor, set] at stuck
    | leaving result =>
        have stuck := still .closeListener (by simp [quietMoves])
        simp [Service.step, closeListener?, acceptor] at stuck
    | tearingDown result =>
        refine (done_of_awaited (by simp [isAwaited, acceptor])).imp_right fun done => ?_
        have stuck := still .finishRun (by simp [quietMoves])
        simp [Service.step, finishRun?, acceptor, done] at stuck
    | returned result => exact .inr ⟨result, rfl⟩
  obtain errands | ⟨result, acceptor⟩ := returned
  · exact .inl errands
  refine .inr ⟨⟨result, acceptor⟩, fun waiting => ?_⟩
  have done : s.teardown = .done := orderly.told (.inr ⟨result, acceptor⟩)
  obtain ⟨caller, found⟩ := List.mem_iff_getElem?.mp waiting
  have inside := (List.getElem?_eq_some_iff.mp found).1
  have stuck := still (.returnCaller caller) (by simp [quietMoves, inside])
  simp [Service.step, returnCaller?, found, done] at stuck

/-! ## Until a signal -/

/-- Once a signal has come, or none was listened for any more, the flag is set. -/
theorem triggered_catchSignal? (signal : Signal) :
    ((s.catchSignal? signal).getD s).flag.triggered = true ∧
      s.Reachable ((s.catchSignal? signal).getD s) := by
  cases caught : s.catchSignal? signal with
  | none => exact ⟨by grind [catchSignal?], .refl⟩
  | some next =>
      refine ⟨?_, Reachable.refl.step (.catchSignal signal) caught⟩
      unfold catchSignal? at caught
      split at caught
      · cases caught
      · obtain rfl := Option.some.inj caught
        rfl

private theorem runUntil_eq {signal : Signal} {moment : Moment} {journal : Journal}
    {last : Service} {result : Except IoError Unit}
    (ends : (((s.settle moment).catchSignal? signal).getD (s.settle moment)).settle moment = last)
    (returned : last.acceptor = .returned result) :
    runUntil signal moment s journal =
      (if result.isOk then 0 else failureCode,
        journal.writeAll moment last.storage last.notices) := by
  unfold runUntil
  dsimp only
  rw [ends, returned]
  cases result <;> rfl

/-- **A service that runs until a signal returns**, and so does everybody who waited for its
teardown; what it noted is shown, and the exit code says whether accepting connections failed. -/
theorem runUntil_returns {arguments : List Bytes} {contentsOf : Path → Except IoError Bytes}
    {config : Config} {address : SocketAddress} {storage : Storage}
    (loaded : Config.load arguments contentsOf = .ok config)
    (begun : new? config address storage = some start) (lives : start.Lives s)
    (started : s.acceptor ≠ .idle) (signal : Signal) (moment : Moment) (journal : Journal) :
    ∃ last result, s.Reachable last ∧ last.acceptor = .returned result ∧
      .waiting ∉ last.callers ∧ last.teardown = .done ∧
      runUntil signal moment s journal =
        (if result.isOk then 0 else failureCode,
          journal.writeAll moment last.storage last.notices) := by
  let settled := s.settle moment
  let heeded := (settled.catchSignal? signal).getD settled
  let last := heeded.settle moment
  have settles : s.Reachable settled := reachable_settle moment
  obtain ⟨set, heeds⟩ := triggered_catchSignal? (s := settled) signal
  have ends : heeded.Reachable last := reachable_settle moment
  have before : start.Lives heeded := lives.trans (settles.trans heeds).lives
  have runs : start.Lives last := before.trans ends.lives
  have rests : last.Rests := rests_settle (before.paced (paced_of_new loaded begun)) moment
  have row : s.Reachable last := (settles.trans heeds).trans ends
  obtain ⟨⟨result, returned⟩, told⟩ := (returns_or_has_errands begun runs (ends.lives.flag set)
    (row.lives.started started) rests.still).resolve_left (not_not_intro rests.idle)
  refine ⟨last, result, row, returned, told,
    (lives_in_order begun runs).1.told (.inr ⟨result, returned⟩), ?_⟩
  exact runUntil_eq rfl returned

end Service

/-- **A process that was launched ends after a signal**, whichever it is: its service returns, and
all that waited for the teardown. -/
theorem Launch.ends_after_a_signal {around : Surroundings} {service : Service} {journal : Journal}
    (served : (launch around).stage = .serving service journal) (signal : Signal)
    (moment : Moment) :
    ∃ last result, service.Reachable last ∧ last.acceptor = .returned result ∧
      .waiting ∉ last.callers ∧ last.teardown = .done ∧
      runUntil signal moment service journal =
        (if result.isOk then 0 else failureCode,
          journal.writeAll moment last.storage last.notices) := by
  cases loaded : Config.load around.arguments around.storage.contentsOf with
  | error e =>
      rw [launch_unconfigured loaded] at served
      obtain ⟨-, -, code, exited, -⟩ := exits_unconfigured around.storage e
      exact nomatch exited.symm.trans served
  | ok config =>
      cases journaled : Journal.open? (Journal.chooseFilter around.filter config.logLevel).1
          config.logFile around.storage with
      | error e =>
          rw [launch_unopened loaded journaled] at served
          exact nomatch served
      | ok opened =>
          rw [launch_of_opened loaded journaled] at served
          obtain ⟨address, fresh, begun, rfl, -⟩ := served_bind served
          have runs : fresh.Reachable (fresh.run?.getD fresh) := by
            cases ran : fresh.run? with
            | none => exact .refl
            | some next => exact Service.Reachable.refl.step .run ran
          have checking := (Service.follows_of_new begun).1
          exact Service.runUntil_returns loaded begun runs.lives (by simp [checking]) signal moment
            journal

end PacketLog
