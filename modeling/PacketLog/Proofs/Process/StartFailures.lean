import PacketLog.Proofs.Process.Background
import PacketLog.Proofs.Server.Departure
import PacketLog.Proofs.Storage.OnePlace

/-! # Failing to start

A launch writes to one file only, that of its journal (`Launch.writtenIn_bind`), whatever it comes
to. So it leaves alone what the path of the log leads to, unless the journal is kept there, and a
launch that fails has never touched the data file: neither one that fails before the process could
go into the background, nor one that fails there. A service that was started begins in the loop of
its acceptor and has a long way to go to the removal of the file
(`Launch.failing_to_start_spares_the_data_file`).
-/

namespace PacketLog

namespace Journal

variable {journal : Journal} {s next : Storage}

/-- The journal is not kept where a path leads to from a directory. -/
def StandsApart (journal : Journal) (tree : FileTree) (directory : Location) (path : Path) :
    Prop :=
  ∀ location entry, tree.lookupExisting directory path = .ok (location, entry) →
    journal.file ≠ some location

private theorem writtenIn_open? {filter : Filter} {path : Option Path}
    (opened : open? filter path s = .ok (journal, next)) :
    s.tree.WrittenIn journal.file next.tree := by
  rcases open?_ok opened with ⟨_, none, rfl⟩ | ⟨name, tree, location, entry, _, made, here, rfl⟩
  · exact .refl _
  · rw [here]
    exact .lookupOrCreate made

/-- The file of an open journal is there. -/
theorem present_of_open? {filter : Filter} {path : Option Path} {location : Location}
    (opened : open? filter path s = .ok (journal, next)) (here : journal.file = some location) :
    next.tree.get? location ≠ none := by
  rcases open?_ok opened with ⟨_, none, _⟩ | ⟨name, tree, place, entry, _, made, file, rfl⟩
  · exact nomatch none.symm.trans here
  · obtain rfl := Option.some.inj (file.symm.trans here)
    have stored := (FileTree.get?_of_lookupOrCreate made).2.1
    exact fun gone => nomatch stored.symm.trans gone

private theorem writtenIn_write (moment : Moment) (notice : Notice) :
    s.tree.WrittenIn journal.file (journal.write moment s notice).tree := by
  rw [write]
  split
  · rename_i location here
    split
    · rw [Storage.extend]
      split
      · rename_i contents stored
        have named : location ≠ [] := by
          rintro rfl
          cases stored
        rw [here]
        apply FileTree.WrittenIn.file named
        rw [FileTree.DeadEnd, stored]
        simp
      · exact .refl _
    · exact .refl _
  · exact .refl _

private theorem writtenIn_writeAll (moment : Moment) (notices : List Notice) :
    s.tree.WrittenIn journal.file (journal.writeAll moment s notices).tree := by
  induction notices generalizing s with
  | nil => exact .refl _
  | cons notice rest ih => exact (writtenIn_write moment notice).trans ih

end Journal

/-- A service that has just been started is in the loop of its acceptor. -/
theorem Service.follows_of_new {config : Config} {address : SocketAddress} {storage : Storage}
    {s : Service} (begun : new? config address storage = some s) :
    (s.run?.getD s).acceptor = .checking ∧ (s.run?.getD s).Follows [] := by
  unfold new? at begun
  split at begun
  · exact nomatch begun
  · obtain rfl := Option.some.inj begun
    refine ⟨rfl, follows_of_checking rfl ?_ ?_⟩
    · simp only [run?, Option.getD_some, startTimestamps]
      split <;> rfl
    · simp only [run?, Option.getD_some, startTimestamps]
      split <;> rfl

namespace Launch

variable {around : Surroundings} {config : Config} {address : SocketAddress}
  {journal kept : Journal} {storage : Storage} {complaints : List String}
  {calls : List Detach.Call} {service : Service}

/-- A launch that has ended with a failure. -/
def Fails (launched : Launch) : Prop :=
  ∃ code, launched.stage = .exited code ∧ code ≠ 0

private theorem fails_failed (detail : String) : (failed storage complaints calls detail).Fails :=
  ⟨failureCode, rfl, nofun⟩

/-! ## What a launch does to the files -/

private theorem storage_of_start :
    (start around config address journal storage complaints calls).storage = storage := by
  unfold start
  split
  · rfl
  · split
    · rfl
    · split <;> rfl

private theorem writtenIn_detach :
    storage.tree.WrittenIn journal.file
      (detach around config address journal storage complaints).storage.tree := by
  unfold detach
  dsimp only
  split
  · exact Journal.writtenIn_writeAll _ _
  · exact Journal.writtenIn_writeAll _ _
  · rw [storage_of_start]
    exact Journal.writtenIn_writeAll around.moment _

/-- **A launch writes to its journal only.** -/
theorem writtenIn_bind :
    storage.tree.WrittenIn journal.file
      (bind around config journal storage complaints).storage.tree := by
  unfold bind
  dsimp only
  split
  · exact (Journal.writtenIn_write _ _).trans (Journal.writtenIn_write _ _)
  · split
    · exact (Journal.writtenIn_write _ _).trans writtenIn_detach
    · rw [storage_of_start]
      exact Journal.writtenIn_write _ _

/-- What the journal stands apart from is seen as it was before the journal was opened. -/
theorem seen_bind {filter : Filter} {path : Option Path} {directory : Location} {file : Path}
    {before : Storage} (journaled : Journal.open? filter path before = .ok (journal, storage))
    (apart : journal.StandsApart storage.tree directory file) :
    (bind around config journal storage complaints).storage.tree.seen? directory file =
      before.tree.seen? directory file := by
  have later := @writtenIn_bind around config journal storage complaints
  apply ((Journal.writtenIn_open? journaled).trans later).seen_eq
  intro location entry found
  exact later.apart_of_present (fun _ => Journal.present_of_open? journaled) apart found

/-! ## What a launch comes to -/

/-- A process that is where it is going to stay fails with its first late step that does. -/
theorem fails_start {step : LateStep} {e : IoError} (late : around.lateError? step = some e) :
    (start around config address journal storage complaints calls).Fails := by
  unfold start
  split
  · exact fails_failed _
  · rename_i runs
    split
    · exact ⟨crashCode, rfl, nofun⟩
    · split
      · exact fails_failed _
      · rename_i none
        rw [Option.orElse_eq_orElse, Option.orElse_eq_or, Option.or_eq_none_iff] at none
        cases step with
        | runtime => exact nomatch runs.symm.trans late
        | signals => exact nomatch none.1.symm.trans late
        | listener => exact nomatch none.2.symm.trans late

private theorem served_start
    (served : (start around config address journal storage complaints calls).stage =
      .serving service kept) :
    ∃ fresh, Service.new? config address storage = some fresh ∧ service = fresh.run?.getD fresh ∧
      kept = journal := by
  unfold start at served
  split at served
  · exact nomatch served
  · split at served
    · exact nomatch served
    · rename_i fresh begun
      split at served
      · exact nomatch served
      · obtain ⟨rfl, rfl⟩ := Stage.serving.inj served
        exact ⟨fresh, begun, rfl, rfl⟩

/-- A launch that serves has started a service on the files that it leaves. -/
theorem served_bind
    (served : (bind around config journal storage complaints).stage = .serving service kept) :
    ∃ address fresh,
      Service.new? config address (bind around config journal storage complaints).storage =
        some fresh ∧ service = fresh.run?.getD fresh ∧ kept = journal := by
  unfold bind at served ⊢
  dsimp only at served ⊢
  split at served
  · exact nomatch served
  · rename_i address _
    split at served
    · rename_i daemon
      rw [if_pos daemon]
      unfold detach at served ⊢
      dsimp only at served ⊢
      split at served
      · exact nomatch served
      · exact nomatch served
      · dsimp only
        rw [storage_of_start]
        exact ⟨address, served_start served⟩
    · rename_i foreground
      rw [if_neg foreground, storage_of_start]
      exact ⟨address, served_start served⟩

/-- Without a configuration a launch ends at once. -/
theorem launch_unconfigured {e : ConfigError}
    (refused : Config.load around.arguments around.storage.contentsOf = .error e) :
    launch around = unconfigured around.storage e := by
  rw [launch, refused]

/-- Without its journal a launch fails. -/
theorem launch_unopened {e : IoError}
    (loaded : Config.load around.arguments around.storage.contentsOf = .ok config)
    (refused : Journal.open? (Journal.chooseFilter around.filter config.logLevel).1 config.logFile
      around.storage = .error e) :
    launch around = failed around.storage
      (Journal.chooseFilter around.filter config.logLevel).2 [] e.detail := by
  rw [launch, loaded]
  dsimp only
  rw [refused]

/-- With a configuration and a journal a launch goes on to its address. -/
theorem launch_of_opened {opened : Storage}
    (loaded : Config.load around.arguments around.storage.contentsOf = .ok config)
    (journaled : Journal.open? (Journal.chooseFilter around.filter config.logLevel).1 config.logFile
      around.storage = .ok (journal, opened)) :
    launch around = bind around config journal opened
      (Journal.chooseFilter around.filter config.logLevel).2 := by
  rw [launch, loaded]
  dsimp only
  rw [journaled]

/-- A process without a configuration ends with success only if it was asked something. -/
theorem exits_unconfigured (storage : Storage) (e : ConfigError) :
    (unconfigured storage e).calls = [] ∧ (unconfigured storage e).storage = storage ∧
      ∃ code, (unconfigured storage e).stage = .exited code ∧
        (code = 0 ↔ e = .usage .help ∨ e = .usage .version) := by
  cases e with
  | usage e =>
      rw [unconfigured]
      cases e with
      | help | version => exact ⟨rfl, rfl, 0, rfl, by simp⟩
      | _ => exact ⟨rfl, rfl, 2, rfl, by simp⟩
  | _ => exact ⟨rfl, rfl, failureCode, rfl, by simp [failureCode]⟩

private theorem fails_bind {e : IoError} (unbound : around.bind config.listen = .error e) :
    (bind around config journal storage complaints).calls = [] ∧
      (bind around config journal storage complaints).Fails := by
  rw [bind, unbound]
  exact ⟨rfl, fails_failed _⟩

private theorem fails_detach {e : IoError} (bound : around.bind config.listen = .ok address)
    (daemon : config.daemon) (failed : (Detach.run around.host).2 = .failed e) :
    (bind around config journal storage complaints).Fails := by
  rw [bind, bound]
  dsimp only
  rw [if_pos daemon, detach]
  rcases ran : Detach.run around.host with ⟨made, outcome⟩
  rw [ran] at failed
  obtain rfl : outcome = .failed e := failed
  exact fails_failed _

private theorem fails_late {step : LateStep} {e : IoError}
    (bound : around.bind config.listen = .ok address)
    (detached : config.daemon → (Detach.run around.host).2 = .detached)
    (late : around.lateError? step = some e) :
    (bind around config journal storage complaints).Fails := by
  rw [bind, bound]
  dsimp only
  split
  · rename_i daemon
    rw [detach]
    have gone := detached daemon
    rcases ran : Detach.run around.host with ⟨made, outcome⟩
    rw [ran] at gone
    obtain rfl : outcome = .detached := gone
    exact fails_start late
  · exact fails_start late

/-- **Failing to start touches nothing.** Without a configuration, a journal or an address a process
ends at once and has not forked, and it ends with a failure unless it was asked for help or the
version. It also ends with a failure if it cannot go into the background, or if one of the steps
fails that come after this. Whatever a launch comes to, the path of the log leads from every
directory to where it led before and finds what was there, unless the journal is kept in that
place. So no start that fails creates, changes or removes the data file. A service that was started
is in the loop of its acceptor; as long as nobody calls for its shutdown from outside, the file is
removed only after the acceptor has left this loop and closed the listener, and the teardown has
gone through its stages. Wherever the file is found in the meantime, it stays until then. -/
theorem failing_to_start_spares_the_data_file (around : Surroundings) :
    let launched := launch around
    (∀ e, Config.load around.arguments around.storage.contentsOf = .error e →
      launched.calls = [] ∧ launched.storage = around.storage ∧
      ∃ code, launched.stage = .exited code ∧
        (code = 0 ↔ e = .usage .help ∨ e = .usage .version)) ∧
    ∀ config, Config.load around.arguments around.storage.contentsOf = .ok config →
      let filter := (Journal.chooseFilter around.filter config.logLevel).1
      (∀ e, Journal.open? filter config.logFile around.storage = .error e →
        launched.calls = [] ∧ launched.storage = around.storage ∧ launched.Fails) ∧
      ∀ journal opened,
        Journal.open? filter config.logFile around.storage = .ok (journal, opened) →
        (∀ directory, journal.StandsApart opened.tree directory config.dataFile →
          launched.storage.tree.seen? directory config.dataFile =
            around.storage.tree.seen? directory config.dataFile) ∧
        (∀ e, around.bind config.listen = .error e → launched.calls = [] ∧ launched.Fails) ∧
        (∀ address, around.bind config.listen = .ok address →
          (∀ e, config.daemon → (Detach.run around.host).2 = .failed e → launched.Fails) ∧
          ∀ step e, (config.daemon → (Detach.run around.host).2 = .detached) →
            around.lateError? step = some e → launched.Fails) ∧
        ∀ service kept, launched.stage = .serving service kept →
          service.storage = launched.storage ∧ service.log = ⟨config.dataFile⟩ ∧
          service.acceptor = .checking ∧
          (∀ moves past last, .callShutdown ∉ moves →
            service.play (moves ++ [.removeFile]) = some (past, last) →
            Service.Passed moves
              [.closeListener, .beginTeardown, .joinHandler, .joinTimestamp] ∧
            ∃ before middle, service.play moves = some (before, middle) ∧
              middle.acceptor.isAway) ∧
          ∀ s moves past last location stored, service.Reachable s →
            s.play moves = some (past, last) → .removeFile ∉ moves → s.storage.Undisturbed →
            s.storage.Keeps config.dataFile location stored →
            ∃ more, last.storage.Keeps config.dataFile location (stored ++ more) := by
  intro launched
  refine ⟨?unconfigured, ?configured⟩
  case unconfigured =>
    intro e refused
    have ends : launched = _ := launch_unconfigured refused
    rw [ends]
    exact exits_unconfigured around.storage e
  case configured =>
    intro config loaded filter
    refine ⟨?unopened, ?opened⟩
    case unopened =>
      intro e refused
      have ends : launched = _ := launch_unopened loaded refused
      rw [ends]
      exact ⟨rfl, rfl, fails_failed _⟩
    case opened =>
      intro journal opened journaled
      have goes : launched = _ := launch_of_opened loaded journaled
      rw [goes]
      refine ⟨fun directory apart => seen_bind journaled apart, fun e => fails_bind, ?bound,
        ?serves⟩
      case bound =>
        intro address bound
        exact ⟨fun e => fails_detach bound, fun step e => fails_late bound⟩
      case serves =>
        intro service kept served
        rcases served_bind served with ⟨address, fresh, begun, rfl, -⟩
        rcases Service.log_of_new? begun with ⟨log, files⟩
        rcases Service.follows_of_new begun with ⟨checking, follows⟩
        refine ⟨files, log, checking, fun moves past last => follows.removal, ?_⟩
        intro s moves past last location stored reached played stays calm keeps
        have path : s.log.path = config.dataFile :=
          congrArg SharedLog.path (reached.stays.2.trans log)
        rw [← path] at keeps ⊢
        exact Service.keeps_until_removal played stays calm keeps

/-- Next to a data file from before, a process is launched three times: its address is in use, its
signals cannot be listened for once it is in the background, and at last it is started, without a
journal in a file, and shut down by a signal. -/
theorem file_from_before :
    let kept := Bytes.ofString "kept\n"
    let srv : Location := [Bytes.ofString "srv"]
    let place : Location := Bytes.ofString "log" :: srv
    let storage := Storage.ofTree ⟨[(srv, .directory), (place, .file kept)]⟩ srv
    let plain := smooth ["--data-file=/srv/log", "--timestamp-interval=0"] storage
    let unbound := { smooth ["--data-file=/srv/log", "--log-file=journal"] storage with
      bind := fun _ => .error (.os Errno.addressInUse) }
    let unheard := { smooth ["--data-file=/srv/log", "--log-file=journal", "--daemon"] storage with
      lateError? := fun step => if step = .signals then some (.os Errno.tooManyFiles) else none }
    let shutdown : List Move :=
      [.catchSignal .terminate, .checkFlag, .closeListener, .beginTeardown, .joinHandler,
        .joinTimestamp]
    let seen (launched : Launch) := launched.storage.tree.seen? [] (Bytes.ofString "/srv/log")
    (launch unbound).calls = [] ∧ (launch unbound).Fails ∧
      seen (launch unbound) = some (place, .file kept) ∧
    (launch unheard).Fails ∧ seen (launch unheard) = some (place, .file kept) ∧
    ∃ service journal, (launch plain).stage = .serving service journal ∧
      Service.Passed shutdown [.closeListener, .beginTeardown, .joinHandler, .joinTimestamp] ∧
      (service.play (shutdown ++ [.removeFile])).map (·.2.storage.tree.get? place) =
        some none := by
  intro kept srv place storage plain unbound unheard shutdown seen
  let journalPlace : Location := Bytes.ofString "journal" :: srv
  let opened := storage.withTree (storage.tree.insert journalPlace (.file []))
  let config : Config := { Config.default with dataFile := Bytes.ofString "/srv/log" }
  let journaling : Config := { config with logFile := some (Bytes.ofString "journal") }
  have loaded : Config.load unbound.arguments storage.contentsOf = .ok journaling := by
    decide +kernel
  have inBackground : Config.load unheard.arguments storage.contentsOf =
      .ok { journaling with daemon := true } := by
    decide +kernel
  have untimed : Config.load plain.arguments plain.storage.contentsOf =
      .ok { config with timestampInterval := none } := by
    decide +kernel
  have journaled : ∀ filter, Journal.open? filter journaling.logFile storage =
      .ok (⟨filter, some journalPlace⟩, opened) := by
    intro filter
    simp only [journaling, opened, journalPlace, storage, place, srv]
    cbv
  have found : opened.tree.lookupExisting [] config.dataFile = .ok (place, .file kept) := by
    simp only [config, opened, journalPlace, storage, place, srv, kept]
    cbv
  have before : storage.tree.seen? [] config.dataFile = some (place, .file kept) := by
    simp only [config, storage, place, srv, kept]
    cbv
  have different : journalPlace ≠ place := by decide +kernel
  have apart : ∀ filter, Journal.StandsApart ⟨filter, some journalPlace⟩ opened.tree []
      config.dataFile := by
    intro filter location entry same
    obtain ⟨rfl, _⟩ := Prod.mk.inj (Except.ok.inj (found.symm.trans same))
    exact fun here => different (Option.some.inj here)
  rcases (failing_to_start_spares_the_data_file unbound).2 _ loaded with ⟨_, first⟩
  rcases first _ _ (journaled _) with ⟨spared, refused, _⟩
  rcases refused _ rfl with ⟨unforked, failed⟩
  rcases (failing_to_start_spares_the_data_file unheard).2 _ inBackground with ⟨_, second⟩
  rcases second _ _ (journaled _) with ⟨sparedToo, _, late, _⟩
  refine ⟨unforked, failed, (spared [] (apart _)).trans before,
    (late _ rfl).2 .signals _ (fun _ => rfl) rfl, (sparedToo [] (apart _)).trans before, ?_⟩
  have served : ∃ service journal, (launch plain).stage = .serving service journal := by
    rw [launch, untimed]
    exact ⟨_, _, rfl⟩
  rcases served with ⟨service, journal, served⟩
  have ends : (service.play (shutdown ++ [.removeFile])).map (·.2.storage.tree.get? place) =
      some none := by
    rw [launch, untimed] at served
    obtain ⟨rfl, _⟩ := Stage.serving.inj served
    cbv
  rcases (failing_to_start_spares_the_data_file plain).2 _ untimed with ⟨_, third⟩
  rcases third _ _ rfl with ⟨_, _, _, runs⟩
  rcases runs service journal served with ⟨_, _, _, removal, _⟩
  rcases Option.map_eq_some_iff.mp ends with ⟨⟨past, last⟩, played, _⟩
  have own : .callShutdown ∉ shutdown := by simp [shutdown]
  exact ⟨service, journal, served, (removal shutdown past last own played).1, ends⟩

end Launch

end PacketLog
