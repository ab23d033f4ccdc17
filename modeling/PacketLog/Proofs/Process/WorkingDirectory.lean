import PacketLog.Process.Launch
import PacketLog.Proofs.Server.History

/-! # Where a process works

The path of the log is kept as it was configured, and no operation on the log changes the working
directory. So the log of a process is what its path leads to from the directory that the process is
in when its service starts: the directory that it was launched in, or the root once it has gone into
the background (`Launch.serves_in`), as long as it runs (`Launch.works_in`).
-/

namespace PacketLog

/-! ## The working directory -/

namespace Storage

variable {s : Storage}

private theorem cwd_extend (location : Location) (data : Bytes) :
    (s.extend location data).cwd = s.cwd := by
  rw [extend]
  split <;> rfl

private theorem cwd_suffer (mishap : Mishap) : (s.suffer mishap).cwd = s.cwd := by
  cases mishap with
  | removal =>
      rw [suffer]
      split <;> rfl
  | directory =>
      simp only [suffer]
      split <;> rfl
  | crash => rfl

private theorem cwd_write (location : Location) (data : Bytes) :
    (s.write location data).2.cwd = s.cwd := by
  rw [write]
  split
  · rfl
  · cases s.plan with
    | nil => exact cwd_extend location data
    | cons turn plan =>
        cases turn with
        | whole => exact cwd_extend location data
        | upTo limit => exact cwd_extend location _
        | fail error => rfl
        | wholeThen mishap =>
            cases mishap with
            | crash => exact cwd_extend location data
            | removal => exact (cwd_suffer .removal).trans (cwd_extend location data)
            | directory => exact (cwd_suffer .directory).trans (cwd_extend location data)

private theorem cwd_writeCalls (location : Location) (data : Bytes) (calls : Nat) :
    (s.writeCalls location data calls).2.cwd = s.cwd := by
  induction calls generalizing s data with
  | zero => rfl
  | succ calls ih =>
      have same := @cwd_write s location data
      rw [writeCalls]
      split
      · rfl
      · generalize s.write location data = written at same
        rcases written with ⟨outcome, next⟩
        cases outcome with
        | accepted count =>
            cases count with
            | zero => exact same
            | succ count => exact (ih _).trans same
        | failed error =>
            dsimp only
            split
            · exact (ih data).trans same
            · exact same
        | crashed => exact same

end Storage

namespace SharedLog

variable {log : SharedLog} {s : Storage}

private theorem cwd_appendAsync (data : Bytes) : (log.appendAsync data s).2.cwd = s.cwd := by
  have same : (log.append data s).2.cwd = s.cwd := by
    rw [append]
    split
    · rfl
    · rename_i tree location _ _
      have same := @Storage.cwd_writeCalls (s.withTree tree) location data
        ((s.withTree tree).plan.length + 1)
      rw [Storage.writeAll]
      generalize (s.withTree tree).writeCalls location data _ = written at same
      rcases written with ⟨outcome, next⟩
      cases outcome <;> exact same
  exact same

private theorem cwd_remove : (log.remove s).2.cwd = s.cwd := by
  rw [remove]
  split <;> rfl

end SharedLog

namespace Service

variable {s next : Service}

private theorem cwd_step {move : Move} (moved : s.step move = some next) :
    next.storage.cwd = s.storage.cwd := by
  cases step_operates moved with
  | none same => exact congrArg Storage.cwd same
  | @append data _ answered =>
      have same := @SharedLog.cwd_appendAsync s.log s.storage data
      rwa [answered] at same
  | remove _ removed => exact (congrArg Storage.cwd removed).trans SharedLog.cwd_remove

/-- **A service stays where it is**, and its log is the same path all the time. -/
theorem Reachable.stays {start : Service} (reached : start.Reachable s) :
    s.storage.cwd = start.storage.cwd ∧ s.log = start.log := by
  induction reached with
  | refl => exact ⟨rfl, rfl⟩
  | step move _ moved ih =>
      rcases ih with ⟨cwd, log⟩
      exact ⟨(cwd_step moved).trans cwd, (History.refl.step move moved).log_eq.trans log⟩

/-- A service starts with the configured path, and changes no file. -/
theorem log_of_new? {config : Config} {address : SocketAddress} {storage : Storage}
    (begun : new? config address storage = some s) :
    (s.run?.getD s).log = ⟨config.dataFile⟩ ∧ (s.run?.getD s).storage = storage := by
  have fresh : s.config = config ∧ s.storage = storage := by
    unfold new? at begun
    split at begun
    · exact nomatch begun
    · obtain rfl := Option.some.inj begun
      exact ⟨rfl, rfl⟩
  rcases fresh with ⟨rfl, rfl⟩
  cases ran : s.run? with
  | none => exact ⟨rfl, rfl⟩
  | some next =>
      have same := logSide_run? ran
      simp only [logSide, Prod.mk.injEq] at same
      exact ⟨congrArg (fun config : Config => (⟨config.dataFile⟩ : SharedLog)) same.1, same.2.1⟩

end Service

/-! ## Where a process works -/

/-- The directory that a process works in: the root, if it is in the background, and otherwise the
one that it was launched in. -/
def Config.directory (config : Config) (launched : Location) : Location :=
  if config.daemon then [] else launched

namespace Journal

variable {journal : Journal} {moment : Moment} {s : Storage}

/-- Whoever writes to the journal stays in the working directory. -/
theorem cwd_write (notice : Notice) : (journal.write moment s notice).cwd = s.cwd := by
  rw [write]
  split
  · split
    · exact Storage.cwd_extend _ _
    · rfl
  · rfl

/-- What opening a journal does. -/
theorem open?_ok {filter : Filter} {path : Option Path} {next : Storage}
    (opened : open? filter path s = .ok (journal, next)) :
    path = none ∧ journal.file = none ∧ next = s ∨
    ∃ name tree location entry, path = some name ∧
      s.tree.lookupOrCreate s.cwd name = .ok (tree, location, entry) ∧
      journal.file = some location ∧ next = s.withTree tree := by
  cases path with
  | none =>
      obtain ⟨rfl, rfl⟩ := Prod.mk.inj (Except.ok.inj opened)
      exact .inl ⟨rfl, rfl, rfl⟩
  | some name =>
      rw [open?] at opened
      cases looked : Storage.onPath name (s.tree.lookupOrCreate s.cwd name) with
      | error e =>
          rw [looked] at opened
          exact nomatch opened
      | ok found =>
          rw [looked] at opened
          obtain ⟨rfl, rfl⟩ := Prod.mk.inj (Except.ok.inj opened)
          have made := (Storage.onPath_eq_ok_iff.mp looked).2
          exact .inr ⟨name, _, _, _, rfl, made, rfl, rfl⟩

/-- Whoever opens the journal stays in the working directory. -/
theorem cwd_open? {filter : Filter} {path : Option Path} {next : Storage}
    (opened : open? filter path s = .ok (journal, next)) : next.cwd = s.cwd := by
  rcases open?_ok opened with ⟨_, _, rfl⟩ | ⟨_, _, _, _, _, _, _, rfl⟩
  · rfl
  · rfl

end Journal

namespace Launch

variable {around : Surroundings} {config : Config} {address : SocketAddress}
  {journal kept : Journal} {storage : Storage} {complaints : List String}
  {calls : List Detach.Call} {service : Service}

private theorem serves_in_start
    (served : (start around config address journal storage complaints calls).stage =
      .serving service kept) :
    service.log = ⟨config.dataFile⟩ ∧ service.storage.cwd = storage.cwd := by
  unfold start at served
  split at served
  · exact nomatch served
  · split at served
    · exact nomatch served
    · rename_i begun
      split at served
      · exact nomatch served
      · obtain ⟨rfl, rfl⟩ := Stage.serving.inj served
        rcases Service.log_of_new? begun with ⟨log, files⟩
        exact ⟨log, congrArg Storage.cwd files⟩

private theorem serves_in_bind
    (served : (bind around config journal storage complaints).stage = .serving service kept) :
    service.log = ⟨config.dataFile⟩ ∧ service.storage.cwd = config.directory storage.cwd := by
  unfold bind at served
  dsimp only at served
  split at served
  · exact nomatch served
  · rw [Config.directory]
    split at served
    · rename_i daemon
      unfold detach at served
      dsimp only at served
      rw [if_pos daemon]
      split at served
      · exact nomatch served
      · exact nomatch served
      · exact serves_in_start served
    · rename_i foreground
      rw [if_neg foreground]
      rcases serves_in_start served with ⟨log, cwd⟩
      exact ⟨log, cwd.trans (Journal.cwd_write _)⟩

/-- **Where a process works.** -/
theorem serves_in (served : (launch around).stage = .serving service kept) :
    ∃ config, Config.load around.arguments around.storage.contentsOf = .ok config ∧
      service.log = ⟨config.dataFile⟩ ∧
      service.storage.cwd = config.directory around.storage.cwd := by
  unfold launch at served
  cases loaded : Config.load around.arguments around.storage.contentsOf with
  | error e =>
      rw [loaded] at served
      cases e with
      | usage e =>
          dsimp only [unconfigured] at served
          split at served <;> exact nomatch served
      | _ => exact nomatch served
  | ok config =>
      rw [loaded] at served
      dsimp only at served
      split at served
      · exact nomatch served
      · rename_i opened
        rcases serves_in_bind served with ⟨log, cwd⟩
        exact ⟨config, rfl, log, cwd.trans (congrArg config.directory (Journal.cwd_open? opened))⟩

/-- A process works there as long as it runs. -/
theorem works_in {last : Service}
    (loaded : Config.load around.arguments around.storage.contentsOf = .ok config)
    (served : (launch around).stage = .serving service kept) (reached : service.Reachable last) :
    last.log = ⟨config.dataFile⟩ ∧ last.storage.cwd = config.directory around.storage.cwd := by
  rcases serves_in served with ⟨other, same, log, cwd⟩
  obtain rfl := Except.ok.inj (loaded.symm.trans same)
  rcases reached.stays with ⟨stays, path⟩
  exact ⟨path.trans log, stays.trans cwd⟩

end Launch

end PacketLog
