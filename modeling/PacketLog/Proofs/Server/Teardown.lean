import Mathlib
import PacketLog.Proofs.Server.Frames
import PacketLog.Proofs.Server.Shutdown

/-! # One teardown for all who ask

Anybody may set the flag, any number of times, and anybody may ask for shutdown and wait for the
teardown: before it begins, while it goes on, or long after. `Proceeding` lists what all this
amounts to, and `Service.Chronicle` what has been done in a run of a service, while others do as
they like with the files. What each move does is told once (`Service.step_proceeds`). So the phase
of the teardown tells which of its stages have been carried out (`Teardown.Carried`): each of them
once and in order, and all of them before anybody is told that the teardown is done
(`Service.teardown_runs_once`). -/

namespace PacketLog

/-- What is done about the shutdown of a service: somebody sets the flag, and is told whether it was
not set before, or a stage of the teardown is carried out. -/
inductive Proceeding
  | asked (first : Bool)
  | drained (tasks : List Nat)
  | joined (task : Nat)
  | tookTimestamps (task : Option Nat)
  | joinedTimestamps
  | removed
  deriving DecidableEq

namespace Proceeding

/-- The answer that somebody gets who sets the flag. -/
def answer? : Proceeding → Option Bool
  | .asked first => some first
  | _ => none

/-- The answers of all who have set the flag, in order. -/
def answers (past : List Proceeding) : List Bool := past.filterMap answer?

/-- Whether a stage of the teardown is carried out. -/
def isStage : Proceeding → Bool
  | .asked _ => false
  | _ => true

/-- The stages of the teardown that have been carried out, in order. -/
def stages (past : List Proceeding) : List Proceeding := past.filter isStage

/-- The stages of a whole teardown: the registry is drained, the handlers that were found there are
joined one after another, the timestamp task is taken and joined, and the file is removed. -/
def wholeTeardown (tasks : List Nat) (waited : Option Nat) : List Proceeding :=
  .drained tasks :: tasks.map .joined ++ [.tookTimestamps waited, .joinedTimestamps, .removed]

private theorem answers_append (past later : List Proceeding) :
    answers (past ++ later) = answers past ++ answers later :=
  List.filterMap_append

private theorem stages_append (past later : List Proceeding) :
    stages (past ++ later) = stages past ++ stages later :=
  List.filter_append _ _

end Proceeding

open Proceeding

/-- The answers of those who have set a flag: the first was told that it was not set before, and
nobody else was. -/
def ShutdownFlag.Answered (flag : ShutdownFlag) (answers : List Bool) : Prop :=
  if flag.triggered then ∃ others, answers = true :: List.replicate others false else answers = []

/-- The stages that have been carried out when the teardown is in some phase. -/
def Teardown.Carried (stages : List Proceeding) : Teardown → Prop
  | .notStarted => stages = []
  | .joiningHandlers awaited _ => ∃ done, (done ++ awaited).Nodup ∧
      stages = .drained (done ++ awaited) :: done.map .joined
  | .joiningTimestamps waited => ∃ tasks, tasks.Nodup ∧
      stages = .drained tasks :: tasks.map .joined ++ [.tookTimestamps waited]
  | .removing => ∃ tasks waited, tasks.Nodup ∧
      stages = .drained tasks :: tasks.map .joined ++ [.tookTimestamps waited, .joinedTimestamps]
  | .done => ∃ tasks waited, tasks.Nodup ∧ stages = wholeTeardown tasks waited

private theorem Teardown.Carried.isPrefix {phase : Teardown} {stages : List Proceeding}
    (carried : phase.Carried stages) :
    ∃ tasks waited, tasks.Nodup ∧ stages <+: wholeTeardown tasks waited := by
  cases phase with
  | notStarted =>
      obtain rfl : stages = [] := carried
      exact ⟨[], none, List.nodup_nil, List.nil_prefix⟩
  | joiningHandlers awaited count =>
      rcases carried with ⟨done, nodup, rfl⟩
      refine ⟨done ++ awaited, none, nodup, ?_⟩
      rw [wholeTeardown, List.map_append, ← List.cons_append, List.append_assoc]
      exact List.prefix_append _ _
  | joiningTimestamps waited =>
      rcases carried with ⟨tasks, nodup, rfl⟩
      exact ⟨tasks, waited, nodup, (List.prefix_append_right_inj _).mpr (by simp)⟩
  | removing =>
      rcases carried with ⟨tasks, waited, nodup, rfl⟩
      exact ⟨tasks, waited, nodup, (List.prefix_append_right_inj _).mpr (by simp)⟩
  | done =>
      rcases carried with ⟨tasks, waited, nodup, rfl⟩
      exact ⟨tasks, waited, nodup, List.prefix_rfl⟩

namespace Service

variable {start s next after : Service} {past later : List Proceeding}

/-- What a move is about to do about the shutdown. -/
def proceeding? (s : Service) : Move → Option Proceeding
  | .trigger | .catchSignal _ | .callShutdown | .closeListener => some (.asked s.trigger.1)
  | .beginTeardown => some (.drained s.standing.registered)
  | .joinHandler =>
      match s.teardown with
      | .joiningHandlers (task :: _) _ => some (.joined task)
      | _ => some (.tookTimestamps s.slot)
  | .joinTimestamp => some .joinedTimestamps
  | .removeFile => some .removed
  | _ => none

/-- What has been done about the shutdown on the way from one state of a service to another. Between
the moves anybody may do anything to the files. -/
inductive Chronicle (start : Service) : List Proceeding → Service → Prop
  | refl : Chronicle start [] start
  | step {past : List Proceeding} {s next : Service} (move : Move) (before : Chronicle start past s)
      (moved : s.step move = some next) : Chronicle start (past ++ (s.proceeding? move).toList) next
  | meddle {past : List Proceeding} {s : Service} (storage : Storage)
      (before : Chronicle start past s) : Chronicle start past { s with storage }

/-! ## What a move does -/

/-- What is done with the flag and the teardown. -/
inductive Proceeds (s next : Service) : Option Proceeding → Prop
  | nothing (flag : next.flag = s.flag) (teardown : next.teardown = s.teardown) :
      Proceeds s next none
  | asked (flag : next.flag = s.flag.trigger.2) (teardown : next.teardown = s.teardown) :
      Proceeds s next (some (.asked s.flag.trigger.1))
  | drained {count : Nat} (flag : next.flag = s.flag) (notStarted : s.teardown = .notStarted)
      (teardown : next.teardown = .joiningHandlers s.standing.registered count) :
      Proceeds s next (some (.drained s.standing.registered))
  | joined {task count : Nat} {rest : List Nat} (flag : next.flag = s.flag)
      (joining : s.teardown = .joiningHandlers (task :: rest) count)
      (teardown : next.teardown = .joiningHandlers rest count) :
      Proceeds s next (some (.joined task))
  | tookTimestamps {count : Nat} (flag : next.flag = s.flag)
      (joined : s.teardown = .joiningHandlers [] count)
      (teardown : next.teardown = .joiningTimestamps s.slot) :
      Proceeds s next (some (.tookTimestamps s.slot))
  | joinedTimestamps {waited : Option Nat} (flag : next.flag = s.flag)
      (joining : s.teardown = .joiningTimestamps waited) (teardown : next.teardown = .removing) :
      Proceeds s next (some .joinedTimestamps)
  | removed (flag : next.flag = s.flag) (removing : s.teardown = .removing)
      (teardown : next.teardown = .done) : Proceeds s next (some .removed)

/-- The part of a service that the shutdown goes by. -/
def shutdownSide (s : Service) : ShutdownFlag × Teardown := (s.flag, s.teardown)

private theorem proceeds_of_shutdownSide (same : next.shutdownSide = s.shutdownSide) :
    s.Proceeds next none := by
  simp only [shutdownSide, Prod.mk.injEq] at same
  exact .nothing same.1 same.2

private theorem shutdownSide_startTimestamps : s.startTimestamps.shutdownSide = s.shutdownSide := by
  unfold startTimestamps
  split
  · rfl
  · split <;> rfl

private theorem shutdownSide_requestShutdown :
    s.requestShutdown.shutdownSide = (s.flag.trigger.2, s.teardown) := by
  unfold requestShutdown
  dsimp only
  split <;> rfl

private theorem proceeds_joinHandler? (moved : s.joinHandler? = some next) :
    s.Proceeds next (s.proceeding? .joinHandler) := by
  unfold joinHandler? at moved
  rw [proceeding?]
  split at moved
  · rename_i task rest count joining
    rcases Option.bind_eq_some_iff.mp moved with ⟨c, found, moved⟩
    rw [joining]
    split at moved
    · obtain rfl := Option.some.inj moved
      split <;> exact .joined rfl joining rfl
    · exact nomatch moved
  · rename_i count joined
    obtain rfl := Option.some.inj moved
    rw [joined]
    exact .tookTimestamps rfl joined rfl
  · exact nomatch moved

private theorem proceeds_joinTimestamp? (moved : s.joinTimestamp? = some next) :
    s.Proceeds next (some .joinedTimestamps) := by
  unfold joinTimestamp? at moved
  split at moved
  · rename_i joining
    obtain rfl := Option.some.inj moved
    exact .joinedTimestamps rfl joining rfl
  · rename_i task joining
    rcases Option.bind_eq_some_iff.mp moved with ⟨timestamp, found, moved⟩
    split at moved
    · obtain rfl := Option.some.inj moved
      split <;> exact .joinedTimestamps rfl joining rfl
    · exact nomatch moved
  · exact nomatch moved

/-- **One move.** What it does with the flag and the teardown is what it is about to do. -/
theorem step_proceeds {move : Move} (moved : s.step move = some next) :
    s.Proceeds next (s.proceeding? move) := by
  cases move with
  | trigger =>
      obtain rfl := Option.some.inj moved
      exact .asked rfl rfl
  | callShutdown =>
      obtain rfl := Option.some.inj moved
      have same := shutdownSide_requestShutdown (s := s)
      exact .asked (congrArg Prod.fst same) (congrArg Prod.snd same)
  | catchSignal signal =>
      change s.catchSignal? signal = some next at moved
      unfold catchSignal? at moved
      split at moved
      · exact nomatch moved
      · obtain rfl := Option.some.inj moved
        exact .asked rfl rfl
  | closeListener =>
      change s.closeListener? = some next at moved
      unfold closeListener? at moved
      split at moved
      · obtain rfl := Option.some.inj moved
        have same := shutdownSide_requestShutdown (s := s)
        exact .asked (congrArg Prod.fst same) (congrArg Prod.snd same)
      · exact nomatch moved
  | returnCaller caller =>
      change s.returnCaller? caller = some next at moved
      unfold returnCaller? at moved
      split at moved
      · obtain rfl := Option.some.inj moved
        exact .nothing rfl rfl
      · exact nomatch moved
  | finishRun =>
      change s.finishRun? = some next at moved
      unfold finishRun? at moved
      split at moved
      · obtain rfl := Option.some.inj moved
        exact .nothing rfl rfl
      · exact nomatch moved
  | beginTeardown =>
      change s.beginTeardown? = some next at moved
      unfold beginTeardown? at moved
      split at moved
      · rename_i told
        obtain rfl := Option.some.inj moved
        exact .drained rfl told.2 rfl
      · exact nomatch moved
  | joinHandler => exact proceeds_joinHandler? moved
  | joinTimestamp => exact proceeds_joinTimestamp? moved
  | removeFile =>
      change s.removeFile? = some next at moved
      unfold removeFile? at moved
      split at moved
      · rename_i removing
        obtain rfl := Option.some.inj moved
        exact .removed rfl removing rfl
      · exact nomatch moved
  | pass duration =>
      obtain rfl := Option.some.inj moved
      exact .nothing rfl rfl
  | startTimestamps =>
      obtain rfl := Option.some.inj moved
      exact proceeds_of_shutdownSide shutdownSide_startTimestamps
  | run =>
      change s.run? = some next at moved
      unfold run? at moved
      split at moved
      · obtain rfl := Option.some.inj moved
        have same := shutdownSide_startTimestamps (s := s.note (.listening s.address))
        exact proceeds_of_shutdownSide same
      · exact nomatch moved
  | checkFlag | acquire | accept | failAccept | resume | heedFlag =>
      have same := besideAcceptor_step rfl moved
      exact proceeds_of_shutdownSide (by simp_all [besideAcceptor, shutdownSide])
  | receive | failReceive | append | snapshot | send | failSend | heedClose | crash | leave |
    endTask =>
      have same := besideHandlers_step rfl moved
      exact proceeds_of_shutdownSide (by simp_all [besideHandlers, shutdownSide])
  | pollTimestamp | writeTimestamp =>
      have same := besideTimestamps_step rfl moved
      exact proceeds_of_shutdownSide (by simp_all [besideTimestamps, shutdownSide])

/-! ## What a run does -/

/-- Only the one who sets the flag is told that it was not set before. -/
theorem Proceeds.answered {proceeding : Option Proceeding} {before : List Bool}
    (proceeds : s.Proceeds next proceeding) (answered : s.flag.Answered before) :
    next.flag.Answered (before ++ answers proceeding.toList) := by
  cases proceeds with
  | asked flag _ =>
      rw [flag]
      unfold ShutdownFlag.Answered at answered ⊢
      cases triggered : s.flag.triggered with
      | false =>
          rw [triggered] at answered
          obtain rfl : before = [] := answered
          exact ⟨0, by simp [answers, answer?, ShutdownFlag.trigger, triggered]⟩
      | true =>
          rw [triggered] at answered
          rcases answered with ⟨others, rfl⟩
          refine ⟨others + 1, ?_⟩
          simp [answers, answer?, ShutdownFlag.trigger, triggered, List.replicate_succ']
  | nothing flag | drained flag | joined flag | tookTimestamps flag | joinedTimestamps flag
  | removed flag =>
      rw [flag]
      exact (List.append_nil before).symm ▸ answered

/-- Nobody takes the flag back. -/
theorem Proceeds.triggered {proceeding : Option Proceeding} (proceeds : s.Proceeds next proceeding)
    (triggered : s.flag.triggered) : next.flag.triggered := by
  cases proceeds with
  | asked flag _ =>
      rw [flag]
      rfl
  | nothing flag | drained flag | joined flag | tookTimestamps flag | joinedTimestamps flag
  | removed flag =>
      rw [flag]
      exact triggered

/-- Each stage comes after those before it. -/
theorem Proceeds.carried {proceeding : Option Proceeding} {before : List Proceeding}
    (proceeds : s.Proceeds next proceeding) (orderly : s.standing.Orderly)
    (carried : s.teardown.Carried before) :
    next.teardown.Carried (before ++ stages proceeding.toList) := by
  cases proceeds with
  | nothing _ teardown | asked _ teardown =>
      rw [teardown]
      exact (List.append_nil before).symm ▸ carried
  | drained _ notStarted teardown =>
      have opened := orderly.prepared
      rw [notStarted] at carried
      obtain rfl : before = [] := carried
      have start : s.standing.teardown = .notStarted := notStarted
      rw [start] at opened
      rw [teardown]
      exact ⟨[], orderly.roster.nodup_tasks_lock opened.1, rfl⟩
  | @joined task count rest _ joining teardown =>
      rw [joining] at carried
      rcases carried with ⟨done, nodup, rfl⟩
      rw [teardown]
      refine ⟨done ++ [task], ?_, ?_⟩
      · rwa [List.append_assoc]
      · simp [stages, isStage]
  | tookTimestamps _ joined teardown =>
      rw [joined] at carried
      rcases carried with ⟨done, nodup, rfl⟩
      rw [List.append_nil] at nodup ⊢
      rw [teardown]
      exact ⟨done, nodup, rfl⟩
  | @joinedTimestamps waited _ joining teardown =>
      rw [joining] at carried
      rcases carried with ⟨tasks, nodup, rfl⟩
      rw [teardown]
      exact ⟨tasks, waited, nodup, by simp [stages, isStage]⟩
  | removed _ removing teardown =>
      rw [removing] at carried
      rcases carried with ⟨tasks, waited, nodup, rfl⟩
      rw [teardown]
      exact ⟨tasks, waited, nodup, by simp [stages, isStage, wholeTeardown]⟩

/-- When the teardown is done, it stays done, and no stage is carried out again. -/
theorem Proceeds.done {proceeding : Option Proceeding} (proceeds : s.Proceeds next proceeding)
    (done : s.teardown = .done) : next.teardown = .done ∧ stages proceeding.toList = [] := by
  cases proceeds with
  | nothing _ teardown | asked _ teardown => exact ⟨teardown.trans done, rfl⟩
  | drained _ notStarted => exact nomatch notStarted.symm.trans done
  | joined _ joining => exact nomatch joining.symm.trans done
  | tookTimestamps _ joined => exact nomatch joined.symm.trans done
  | joinedTimestamps _ joining => exact nomatch joining.symm.trans done
  | removed _ removing => exact nomatch removing.symm.trans done

namespace Chronicle

private theorem orderly (chronicle : start.Chronicle past s) (orderly : start.standing.Orderly) :
    s.standing.Orderly := by
  induction chronicle with
  | refl => exact orderly
  | step move _ moved ih => exact orderly_of_step moved ih
  | meddle storage _ ih => exact ih

/-- **All answers.** -/
theorem answered (chronicle : start.Chronicle past s) (unset : start.flag.Answered []) :
    s.flag.Answered (answers past) := by
  induction chronicle with
  | refl => exact unset
  | step move _ moved ih =>
      rw [answers_append]
      exact (step_proceeds moved).answered ih
  | meddle storage _ ih => exact ih

private theorem triggered (chronicle : start.Chronicle past s) (triggered : start.flag.triggered) :
    s.flag.triggered := by
  induction chronicle with
  | refl => exact triggered
  | step move _ moved ih => exact (step_proceeds moved).triggered ih
  | meddle storage _ ih => exact ih

/-- **All stages.** -/
theorem carried (chronicle : start.Chronicle past s) (orderly : start.standing.Orderly)
    (notStarted : start.teardown = .notStarted) : s.teardown.Carried (stages past) := by
  induction chronicle with
  | refl =>
      rw [notStarted]
      rfl
  | step move before moved ih =>
      rw [stages_append]
      exact (step_proceeds moved).carried (before.orderly orderly) ih
  | meddle storage _ ih => exact ih

private theorem done (chronicle : start.Chronicle past s) (done : start.teardown = .done) :
    s.teardown = .done ∧ stages past = [] := by
  induction chronicle with
  | refl => exact ⟨done, rfl⟩
  | step move _ moved ih =>
      have still := (step_proceeds moved).done ih.1
      rw [stages_append, ih.2]
      exact still
  | meddle storage _ ih => exact ih

end Chronicle

/-- Whatever can be reached has a chronicle. -/
theorem Reachable.chronicle (reached : start.Reachable s) : ∃ past, start.Chronicle past s := by
  induction reached with
  | refl => exact ⟨[], .refl⟩
  | step move _ moved ih =>
      rcases ih with ⟨past, before⟩
      exact ⟨_, before.step move moved⟩

/-! ## The file afterwards -/

/-- When the teardown is done, no move takes a file away from the path of the log. -/
theorem fills_of_done {move : Move} {location : Location} {stored : Bytes}
    (done : s.teardown = .done) (moved : s.step move = some next) (calm : s.storage.Undisturbed)
    (kept : s.storage.Keeps s.log.path location stored) :
    ∃ more, Storage.Fills s.storage next.storage s.log.path location (stored ++ more) := by
  cases step_operates moved with
  | none same =>
      refine ⟨[], ?_⟩
      rw [List.append_nil, same]
      exact .refl kept
  | @append data _ answered =>
      have fills := SharedLog.fills_appendAsync kept calm data
      rwa [answered] at fills
  | remove stage _ => exact nomatch stage.symm.trans done

/-- When the teardown is done, no moves take a file away from the path of the log, however many. -/
theorem Reachable.fills {location : Location} {stored : Bytes} (reached : s.Reachable next)
    (done : s.teardown = .done) (calm : s.storage.Undisturbed)
    (kept : s.storage.Keeps s.log.path location stored) :
    ∃ more, Storage.Fills s.storage next.storage s.log.path location (stored ++ more) := by
  suffices stays : next.teardown = .done ∧ next.log = s.log ∧
      ∃ more, Storage.Fills s.storage next.storage s.log.path location (stored ++ more) from
    stays.2.2
  induction reached with
  | refl =>
      refine ⟨done, rfl, [], ?_⟩
      rw [List.append_nil]
      exact .refl kept
  | @step middle last move before moved ih =>
      rcases ih with ⟨doneMiddle, log, more, fills⟩
      have logLast : last.log = middle.log := (History.refl.step move moved).log_eq
      rw [← log] at fills
      rcases fills_of_done doneMiddle moved (calm.of_plan_suffix fills.plan) fills.kept with
        ⟨further, added⟩
      rw [List.append_assoc] at added
      refine ⟨((step_proceeds moved).done doneMiddle).1, logLast.trans log, more ++ further, ?_⟩
      rw [← log]
      exact fills.trans added

/-- **The teardown runs once.** Anybody sets the flag, any number of times, by a signal, through a
handle or on the way to ask for shutdown, anybody asks for shutdown and waits, before the teardown,
during it or after it, and between the moves others do as they like with the files. If the flag is
set, exactly one of those who have set it was told that it was not set before, the first, and the
flag stays set. What has been carried out is a beginning of one teardown, in which every handler
that the registry held is joined once, then the timestamp task, and then the file is removed. When
anybody who asked for shutdown goes on, the acceptor included, all of it has been carried out, and
nothing of it is ever carried out again. So a file that comes to the path afterwards is not removed,
whatever the service does. -/
theorem teardown_runs_once {config : Config} {address : SocketAddress} {storage : Storage}
    (begun : new? config address storage = some start) (chronicle : start.Chronicle past s) :
    (if s.flag.triggered then ∃ others, answers past = true :: List.replicate others false
      else answers past = []) ∧
    (s.flag.triggered → ∀ later after, s.Chronicle later after → after.flag.triggered) ∧
    (∃ tasks waited, tasks.Nodup ∧ stages past <+: wholeTeardown tasks waited) ∧
    (.returned ∈ s.callers ∨ (∃ result, s.acceptor = .returned result) →
      (∃ tasks waited, tasks.Nodup ∧ stages past = wholeTeardown tasks waited) ∧
      ∀ later after, s.Chronicle later after → stages later = [] ∧
        ∀ last location stored, after.Reachable last → after.storage.Undisturbed →
          after.storage.Keeps after.log.path location stored →
          ∃ more, last.storage.Keeps after.log.path location (stored ++ more)) := by
  rcases orderly_of_new begun with ⟨orderly, notStarted⟩
  have carried := chronicle.carried orderly notStarted
  have unset : start.flag.Answered [] := by
    rw [new?] at begun
    split at begun
    · cases begun
    · obtain rfl := Option.some.inj begun
      exact rfl
  refine ⟨chronicle.answered unset, fun set later after further => further.triggered set, ?_, ?_⟩
  · exact carried.isPrefix
  · intro told
    have done : s.teardown = .done := (chronicle.orderly orderly).told told
    rw [done] at carried
    refine ⟨carried, fun later after further => ?_⟩
    rcases further.done done with ⟨doneAfter, none⟩
    refine ⟨none, fun last location stored reached calm kept => ?_⟩
    rcases reached.fills doneAfter calm kept with ⟨more, fills⟩
    exact ⟨more, fills.kept⟩

/-- A flag that is set through a handle, one caller before the teardown and one during it: when the
first has been told that the teardown is done, somebody puts a file in the place of the log. -/
theorem file_in_the_place_of_the_log :
    let config : Config :=
      ⟨.loopback 9, false, [47, 108], some 1, 8, 4, 16, some 2, "info", none⟩
    let moves : List Move :=
      [.run, .checkFlag, .acquire, .accept (.loopback 1), .trigger, .callShutdown, .checkFlag,
        .closeListener, .beginTeardown, .callShutdown, .heedClose 0, .leave 0, .endTask 0,
        .joinHandler, .joinHandler, .pollTimestamp 0 false, .joinTimestamp, .removeFile,
        .returnCaller 0]
    let replaced : Storage := .ofTree ⟨[([[108]], .file [120])]⟩ []
    ∃ start past occurrences s, new? config (.loopback 9) (.ofTree ⟨[]⟩ []) = some start ∧
      start.play moves = some (occurrences, s) ∧ start.Chronicle past s ∧
      s.callers = [.returned, .waiting] ∧
      (∃ others, answers past = true :: List.replicate others false) ∧
      (∃ tasks waited, stages past = wholeTeardown tasks waited) ∧
      ∀ last, { s with storage := replaced }.Reachable last →
        ∃ more, last.storage.Keeps [47, 108] [[108]] ([120] ++ more) := by
  intro config moves replaced
  rcases Option.isSome_iff_exists.mp (rfl : (new? config (.loopback 9) (.ofTree ⟨[]⟩ [])).isSome)
    with ⟨start, begun⟩
  have outcome : ((new? config (.loopback 9) (.ofTree ⟨[]⟩ [])).bind fun start =>
      (start.play moves).map fun played =>
        (played.2.callers, played.2.flag.triggered, played.2.config.dataFile)) =
      some ([.returned, .waiting], true, [47, 108]) := by cbv
  rw [begun, Option.bind_some, Option.map_eq_some_iff] at outcome
  rcases outcome with ⟨⟨occurrences, s⟩, played, same⟩
  simp only [Prod.mk.injEq] at same
  rcases same with ⟨callers, triggered, path⟩
  rcases (reachable_iff_history.mpr ⟨_, history_of_play played⟩).chronicle with ⟨past, chronicle⟩
  rcases teardown_runs_once begun chronicle with ⟨answered, _, _, told⟩
  rw [if_pos triggered] at answered
  rcases told (.inl (callers ▸ List.mem_cons_self)) with ⟨⟨tasks, waited, _, whole⟩, afterwards⟩
  refine ⟨start, past, occurrences, s, begun, played, chronicle, callers, answered,
    ⟨tasks, waited, whole⟩, ?_⟩
  intro last reached
  have log : { s with storage := replaced }.log.path = [47, 108] := path
  have found : replaced.Keeps [47, 108] [[108]] [120] := by
    change replaced.tree.lookupExisting replaced.cwd [47, 108] = .ok ([[108]], .file [120])
    cbv
  have calm : replaced.Undisturbed := fun _ planned => absurd planned List.not_mem_nil
  have kept := (afterwards [] _ (.meddle replaced .refl)).2 last [[108]] [120] reached calm
  rw [log] at kept
  exact kept found

end Service

end PacketLog
