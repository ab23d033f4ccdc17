import PacketLog.Proofs.Server.Frames
import PacketLog.Proofs.Server.History
import PacketLog.Proofs.Storage.Twins

/-! # Services that differ in where they are

Whether a service is in the background, and what its files are, matters to no move but an operation
on the log (`Service.step_elsewhere`). Two services are twins when nothing else differs and their
storages are twins to the log (`Service.Twins`): the same moves are possible, amount to the same,
and lead to twins again (`Service.Twins.step`, `Service.Twins.play`). -/

namespace PacketLog

/-- Whether a move is an operation on the log. -/
def Move.usesLog : Move → Bool
  | .append _ | .snapshot _ | .writeTimestamp _ _ _ | .removeFile => true
  | _ => false

namespace Service

/-- The same service with other files, in the background or not. -/
def elsewhere (s : Service) (daemon : Bool) (storage : Storage) : Service :=
  { s with config := { s.config with daemon }, storage }

variable {s next : Service} (daemon : Bool) (storage : Storage)

private theorem startTimestamps_elsewhere :
    (s.elsewhere daemon storage).startTimestamps = s.startTimestamps.elsewhere daemon storage := by
  rcases s with ⟨⟨_, _, _, interval⟩, _, _, ⟨triggered⟩⟩
  cases interval with
  | none => rfl
  | some seconds => cases triggered <;> rfl

/-- A service starts the same wherever its files are. -/
theorem run_elsewhere :
    (s.elsewhere daemon storage).run? = s.run?.map (·.elsewhere daemon storage) := by
  have same : (s.elsewhere daemon storage).acceptor = s.acceptor := rfl
  have started := @startTimestamps_elsewhere (s.note (.listening s.address)) daemon storage
  cases acceptor : s.acceptor with
  | idle =>
      rw [run?, run?, same, acceptor]
      exact congrArg (fun s : Service => some { s with acceptor := .checking }) started
  | _ =>
      rw [run?, run?, same, acceptor]
      rfl

/-- A service that begins elsewhere. -/
theorem new?_elsewhere {config : Config} {address : SocketAddress} {files : Storage} :
    new? { config with daemon } address storage =
      (new? config address files).map (·.elsewhere daemon storage) := by
  rw [new?, new?, apply_ite (Option.map _)]
  rfl

private theorem dispatch_elsewhere (peer : SocketAddress) :
    (s.elsewhere daemon storage).dispatch peer = (s.dispatch peer).elsewhere daemon storage := by
  have same : (s.elsewhere daemon storage).lockRegistry.registry = s.lockRegistry.registry := rfl
  unfold dispatch
  dsimp only
  rw [same]
  cases s.lockRegistry.registry.offer? <;> rfl

private theorem setTimestamp_elsewhere (task : Nat) (t : TimestampTask) :
    (s.elsewhere daemon storage).setTimestamp task t =
      (s.setTimestamp task t).elsewhere daemon storage := by
  unfold setTimestamp
  dsimp only
  split <;> rfl

/-- What comes of a connection or a task that both services find. -/
private theorem bind_elsewhere {α : Type} {found : Option α} {f g : α → Option Service}
    (same : ∀ a, g a = (f a).map (·.elsewhere daemon storage)) :
    found.bind g = (found.bind f).map (·.elsewhere daemon storage) := by
  rw [Option.map_bind]
  exact congrArg _ (funext same)

variable {move : Move}

private theorem acceptor_elsewhere (part : move.part? = some .acceptor) :
    (s.elsewhere daemon storage).step move = (s.step move).map (·.elsewhere daemon storage) := by
  -- with its parts at hand, either service computes the move
  rcases s with ⟨_, _, _, ⟨triggered⟩, _, _, permits, acceptor⟩
  cases move with
  | checkFlag | resume => cases acceptor <;> rfl
  | acquire =>
      cases acceptor with
      | awaitingPermit => rcases permits with _ | _ | _ <;> rfl
      | _ => rfl
  | accept peer =>
      cases acceptor with
      | accepting =>
          exact congrArg (fun s : Service => some { s with acceptor := .checking })
            (dispatch_elsewhere _ _ peer)
      | _ => rfl
  | failAccept e =>
      cases acceptor with
      | accepting =>
          simp only [step, failAccept?, elsewhere]
          cases AcceptVerdict.of e <;> rfl
      | _ => rfl
  | heedFlag => cases triggered <;> cases acceptor <;> rfl
  | _ => cases part

private theorem handler_elsewhere (plain : move.usesLog = false)
    (part : move.part? = some .handler) :
    (s.elsewhere daemon storage).step move = (s.step move).map (·.elsewhere daemon storage) := by
  cases move with
  | append | snapshot => cases plain
  | receive task bytes =>
      apply bind_elsewhere
      intro c
      cases c.session.phase with
      | reading =>
          dsimp only
          split <;> rfl
      | _ => rfl
  | send task count =>
      apply bind_elsewhere
      intro c
      cases c.session.phase with
      | replying left rest =>
          dsimp only
          split <;> rfl
      | _ => rfl
  | failReceive task e =>
      apply bind_elsewhere
      intro c
      cases c.session.phase <;> rfl
  | failSend task e =>
      apply bind_elsewhere
      intro c
      cases c.session.phase with
      | replying left rest => cases left <;> rfl
      | _ => rfl
  | heedClose task =>
      apply bind_elsewhere
      intro c
      cases c.closing <;> cases c.session.phase <;> rfl
  | crash task =>
      apply bind_elsewhere
      intro c
      rfl
  | leave task | endTask task =>
      apply bind_elsewhere
      intro c
      rw [apply_ite (Option.map _)]
      rfl
  | _ => cases part

private theorem joinHandler_elsewhere :
    (s.elsewhere daemon storage).joinHandler? =
      s.joinHandler?.map (·.elsewhere daemon storage) := by
  rcases s with ⟨_, _, _, _, _, _, _, _, _, _, _, teardown⟩
  cases teardown with
  | joiningHandlers awaited count =>
      cases awaited with
      | nil => rfl
      | cons task rest =>
          apply bind_elsewhere
          intro c
          rw [apply_ite (Option.map _)]
          cases c.crashed <;> rfl
  | _ => rfl

private theorem joinTimestamp_elsewhere :
    (s.elsewhere daemon storage).joinTimestamp? =
      s.joinTimestamp?.map (·.elsewhere daemon storage) := by
  rcases s with ⟨_, _, _, _, _, _, _, _, _, _, _, teardown⟩
  cases teardown with
  | joiningTimestamps awaited =>
      cases awaited with
      | none => rfl
      | some task =>
          apply bind_elsewhere
          intro t
          cases t.isDone with
          | false => rfl
          | true => by_cases dead : t.phase = .dead <;> simp only [dead, ↓reduceIte] <;> rfl
  | _ => rfl

/-- **A move is the same elsewhere**, unless it is an operation on the log. -/
theorem step_elsewhere (plain : move.usesLog = false) :
    (s.elsewhere daemon storage).step move = (s.step move).map (·.elsewhere daemon storage) := by
  have ofAcceptor := @acceptor_elsewhere s daemon storage move
  have ofHandler := @handler_elsewhere s daemon storage move plain
  cases move with
  | checkFlag | acquire | accept | failAccept | resume | heedFlag => exact ofAcceptor rfl
  | receive | failReceive | append | snapshot | send | failSend | heedClose | crash | leave
  | endTask => exact ofHandler rfl
  | writeTimestamp | removeFile => cases plain
  | trigger | pass => rfl
  | catchSignal | callShutdown =>
      rcases s with ⟨_, _, _, ⟨triggered⟩⟩
      cases triggered <;> rfl
  | returnCaller | beginTeardown =>
      simp only [step, returnCaller?, beginTeardown?]
      rw [apply_ite (Option.map _)]
      rfl
  | run => exact run_elsewhere _ _
  | startTimestamps => exact congrArg some (startTimestamps_elsewhere _ _)
  | closeListener =>
      rcases s with ⟨_, _, _, ⟨triggered⟩, _, _, _, acceptor⟩
      cases triggered <;> cases acceptor <;> rfl
  | finishRun =>
      rcases s with ⟨_, _, _, _, _, _, _, acceptor, _, _, _, teardown⟩
      cases acceptor <;> cases teardown <;> rfl
  | pollTimestamp task timerFirst =>
      apply bind_elsewhere
      intro t
      cases t.phase with
      | starting | waiting =>
          rw [Option.map_some, ← setTimestamp_elsewhere]
          rfl
      | _ => rfl
  | joinHandler => exact joinHandler_elsewhere _ _
  | joinTimestamp => exact joinTimestamp_elsewhere _ _

/-- Only an operation on the log changes the files. -/
theorem storage_step (plain : move.usesLog = false) (moved : s.step move = some next) :
    next.storage = s.storage := by
  -- the service is itself elsewhere, so that its move ends with the files it began with
  have same : s.step move = (s.step move).map (·.elsewhere s.config.daemon s.storage) :=
    step_elsewhere _ _ plain
  rw [moved, Option.map_some] at same
  have files := congrArg Service.storage (Option.some.inj same)
  exact files

/-! ## Twins -/

/-- Services that differ at most in their files, which are twins to the log, and in whether they are
in the background, which is known of the second. -/
inductive Twins (daemon : Bool) (apart : Option Location) (first : Service) : Service → Prop
  | elsewhere {storage : Storage} (files : first.storage.Twins first.log.path apart storage) :
      Twins daemon apart first (first.elsewhere daemon storage)

namespace Twins

variable {daemon : Bool} {apart : Option Location} {first second : Service}
  (twins : Twins daemon apart first second)
include twins

/-- **A move** amounts to the same. -/
theorem occurrence_eq (move : Move) : second.occurrence move = first.occurrence move := by
  rcases twins with @⟨storage, files⟩
  cases move with
  | append task =>
      have same : (first.elsewhere daemon storage).phase? task = first.phase? task := rfl
      rw [occurrence, occurrence, same]
      cases first.phase? task with
      | none => rfl
      | some phase =>
          cases phase with
          | appending packet rest =>
              exact congrArg (fun r => Occurrence.session task (.appended packet r))
                (files.appendAsync packet).1
          | _ => rfl
  | snapshot task =>
      exact congrArg (fun r => Occurrence.session task (.snapshotTaken r)) files.snapshot_eq
  | writeTimestamp task moment timerFirst =>
      exact congrArg (Occurrence.timestamp task moment.record) (files.appendAsync _).1
  | _ => rfl

/-! ### Operations on the log -/

private theorem append? (task : Nat) :
    Option.Rel (Twins daemon apart) (first.append? task) (second.append? task) := by
  rcases twins with @⟨other, files⟩
  change Option.Rel _ ((first.serving? task).bind _) ((first.serving? task).bind _)
  cases first.serving? task with
  | none => exact .none
  | some c =>
      rw [Option.bind_some, Option.bind_some]
      cases c.session.phase with
      | appending packet rest =>
          rcases files.appendAsync packet with ⟨same, after⟩
          have there : (first.elsewhere daemon other).log.appendAsync packet
            (first.elsewhere daemon other).storage = first.log.appendAsync packet other := rfl
          dsimp only
          rw [there, same]
          cases (first.log.appendAsync packet first.storage).1 <;> exact .some (.elsewhere after)
      | _ => exact .none

private theorem snapshot? (task : Nat) :
    Option.Rel (Twins daemon apart) (first.snapshot? task) (second.snapshot? task) := by
  rcases twins with @⟨other, files⟩
  change Option.Rel _ ((first.serving? task).bind _) ((first.serving? task).bind _)
  cases first.serving? task with
  | none => exact .none
  | some c =>
      rw [Option.bind_some, Option.bind_some]
      cases c.session.phase with
      | snapshotting rest =>
          have there : (first.elsewhere daemon other).log.snapshot
            (first.elsewhere daemon other).storage = first.log.snapshot other := rfl
          dsimp only
          rw [there, files.snapshot_eq]
          exact .some (.elsewhere files)
      | _ => exact .none

private theorem setTimestamp (task : Nat) (t : TimestampTask) :
    Twins daemon apart (first.setTimestamp task t) (second.setTimestamp task t) := by
  rcases twins with @⟨other, files⟩
  unfold Service.setTimestamp
  dsimp only
  split <;> exact .elsewhere files

private theorem writeTimestamp? (task : Nat) (moment : Moment) (timerFirst : Bool) :
    Option.Rel (Twins daemon apart) (first.writeTimestamp? task moment timerFirst)
      (second.writeTimestamp? task moment timerFirst) := by
  rcases twins with @⟨other, files⟩
  change Option.Rel _ (first.timestamps[task]?.bind _) (first.timestamps[task]?.bind _)
  cases first.timestamps[task]? with
  | none => exact .none
  | some t =>
      rw [Option.bind_some, Option.bind_some]
      cases t.phase with
      | appending =>
          rcases files.appendAsync moment.record with ⟨same, after⟩
          have there : (first.elsewhere daemon other).log.appendAsync moment.record
            (first.elsewhere daemon other).storage =
              first.log.appendAsync moment.record other := rfl
          dsimp only
          rw [there, same]
          apply Option.Rel.some
          cases (first.log.appendAsync moment.record first.storage).1 <;>
            exact setTimestamp (.elsewhere after) task _
      | _ => exact .none

private theorem removeFile? : Option.Rel
    (Twins daemon apart) first.removeFile? second.removeFile? := by
  rcases twins with @⟨other, files⟩
  have stage : (first.elsewhere daemon other).teardown = first.teardown := rfl
  have there : (first.elsewhere daemon other).log.remove (first.elsewhere daemon other).storage =
    first.log.remove other := rfl
  rcases files.remove with ⟨same, after⟩
  unfold Service.removeFile?
  dsimp only
  rw [stage, there, same]
  cases first.teardown with
  | removing => exact .some (.elsewhere after)
  | _ => exact .none

/-! ### Moves -/

/-- **One move** is possible for both twins or for neither, and leads to twins. -/
theorem step (move : Move) :
    Option.Rel (Twins daemon apart) (first.step move) (second.step move) := by
  cases logged : move.usesLog with
  | true =>
      cases move with
      | append task => exact twins.append? task
      | snapshot task => exact twins.snapshot? task
      | writeTimestamp task moment timerFirst => exact twins.writeTimestamp? task moment timerFirst
      | removeFile => exact twins.removeFile?
      | _ => exact nomatch logged
  | false =>
      rcases twins with @⟨other, files⟩
      rw [step_elsewhere _ _ logged]
      cases moved : first.step move with
      | none => exact .none
      | some next =>
          have after : next.storage.Twins next.log.path apart other := by
            rw [storage_step logged moved, Service.log, (step_occurs moved).1]
            exact files
          exact .some (.elsewhere after)

/-- **A row of moves** amounts to the same, and leads to twins. -/
theorem play (moves : List Move) :
    Option.Rel (fun here there => there.1 = here.1 ∧ Twins daemon apart here.2 there.2)
      (first.play moves) (second.play moves) := by
  induction moves generalizing first second with
  | nil => exact .some ⟨rfl, twins⟩
  | cons move later ih =>
      have moved := twins.step move
      have amounts := twins.occurrence_eq move
      rw [Service.play, Service.play]
      generalize first.step move = here at moved
      generalize second.step move = there at moved
      cases moved with
      | none => exact .none
      | @some next other after =>
          have rest := ih after
          dsimp only
          rw [amounts]
          generalize next.play later = here at rest
          generalize other.play later = there at rest
          cases rest with
          | none => exact .none
          | some ends => exact .some ⟨congrArg (first.occurrence move :: ·) ends.1, ends.2⟩

end Twins

end Service

end PacketLog
