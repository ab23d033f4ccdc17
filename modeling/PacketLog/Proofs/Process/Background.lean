import PacketLog.Proofs.Process.WorkingDirectory
import PacketLog.Proofs.Server.Twins

/-! # Going into the background

A process that goes into the background notes so in its journal and works in the root directory from
then on. Neither matters to its service if the journal is not kept in the data file and the path of
the log leads to the same place from the root: two launches that differ in nothing else begin with
twins, which mirror each other as long as they run (`Launch.background_mirrors_foreground`). A
relative path leads somewhere else (`Launch.background_leaves_relative_log`).
-/

namespace PacketLog

/-- A process that is detached has made all the calls. -/
theorem Detach.calls_of_detached {host : Host} {calls made : List Call}
    (detached : make host calls = (made, .detached)) : made = calls := by
  induction calls generalizing host made with
  | nil => exact (Prod.mk.inj detached).1.symm
  | cons call rest ih =>
      rw [make] at detached
      split at detached
      · exact nomatch (Prod.mk.inj detached).2
      · split at detached
        · exact nomatch (Prod.mk.inj detached).2
        · obtain ⟨rfl, outcome⟩ := Prod.mk.inj detached
          exact congrArg (call :: ·) (ih (Prod.ext rfl outcome))

/-- The journal is not kept in the data file. -/
def Config.KeepsApart (config : Config) (s : Storage) : Prop :=
  ∀ path tree location kept entry, config.logFile = some path →
    s.tree.lookupOrCreate s.cwd path = .ok (tree, location, kept) →
    tree.lookupExisting s.cwd config.dataFile ≠ .ok (location, entry)

namespace Journal

variable {journal : Journal} {path : Path} {first second : Storage}

private theorem twins_write (twins : first.Twins path journal.file second) (moment : Moment)
    (notice : Notice) :
    first.Twins path journal.file (journal.write moment second notice) := by
  rw [write]
  split
  · rename_i here
    split
    · exact twins.extend_apart here _
    · exact twins
  · exact twins

private theorem twins_writeAll (twins : first.Twins path journal.file second) (moment : Moment)
    (notices : List Notice) :
    first.Twins path journal.file (journal.writeAll moment second notices) := by
  induction notices generalizing second with
  | nil => exact twins
  | cons notice rest ih => exact ih (twins_write twins moment notice)

/-- Where the journal was opened, its file stands apart. -/
theorem twins_open? {filter : Filter} {config : Config} {s next : Storage}
    (opened : open? filter config.logFile s = .ok (journal, next)) (calm : s.Undisturbed)
    (apart : config.KeepsApart s) : next.Twins config.dataFile journal.file next := by
  rcases open?_ok opened with ⟨_, none, rfl⟩ | ⟨path, tree, location, entry, kept, made, here, rfl⟩
  · rw [none]
    exact ⟨.refl _, fun _ _ => rfl, rfl, calm, nofun, nofun⟩
  · rw [here]
    refine ⟨.refl _, fun _ _ => rfl, rfl, calm, ?_, ?_⟩
    · rintro _ ⟨⟩
      exact ⟨entry, (FileTree.get?_of_lookupOrCreate made).2⟩
    · rintro _ other found ⟨⟩
      exact apart path tree location entry other kept made found

end Journal

namespace Service

/-- A service in the background mirrors one in the foreground of a process that was launched in a
directory: they differ in nothing but the configured mode and the files. The files differ at most in
the contents of one that stands apart, and the log of both is what its path leads to from that
directory. -/
structure Mirrors (directory : Location) (apart : Option Location) (fore back : Service) :
    Prop where
  rest : back = fore.elsewhere true back.storage
  files : FileTree.Twins apart fore.storage.tree back.storage.tree
  place : back.storage.tree.lookupExisting back.storage.cwd back.log.path =
    fore.storage.tree.lookupExisting directory fore.log.path

end Service

/-- Two launches that come equally far: their processes end with the same code, or they serve and
keep the same journal, and whatever row of moves the services make, it amounts to the same, with the
one mirroring the other afterwards. -/
inductive Stage.Mirrors (directory : Location) : Stage → Stage → Prop
  | exited (code : Nat) : Mirrors directory (.exited code) (.exited code)
  | serving {fore back : Service} {journal : Journal}
      (plays : ∀ moves, Option.Rel
        (fun here there => there.1 = here.1 ∧ here.2.Mirrors directory journal.file there.2)
        (fore.play moves) (back.play moves)) :
      Mirrors directory (.serving fore journal) (.serving back journal)

namespace Launch

variable {around : Surroundings} {arguments : List Bytes} {config : Config}
  {address : SocketAddress} {journal : Journal} {storage other : Storage}
  {complaints : List String} {calls : List Detach.Call} {fore back : Service}

/-- Twins mirror each other as long as they run. -/
theorem mirrors_of_twins (twins : fore.Twins true journal.file back) :
    Stage.Mirrors fore.storage.cwd (.serving fore journal) (.serving back journal) := by
  apply Stage.Mirrors.serving
  intro moves
  have same := twins.play moves
  have stays : ∀ past last, fore.play moves = some (past, last) →
      last.storage.cwd = fore.storage.cwd := fun past last played =>
    (Service.reachable_iff_history.mpr ⟨past, Service.history_of_play played⟩).stays.1
  generalize fore.play moves = here at same stays
  generalize back.play moves = there at same
  cases same with
  | none => exact .none
  | @some ends endsToo after =>
      refine .some ⟨after.1, ?_⟩
      rcases ends with ⟨past, last⟩
      rcases endsToo with ⟨pastToo, lastToo⟩
      rw [← stays past last rfl]
      rcases after.2 with @⟨storage, files⟩
      exact ⟨rfl, files.tree, files.lookupExisting_eq⟩

private theorem calls_of_start :
    (start around config address journal storage complaints calls).calls = calls := by
  unfold start
  split
  · rfl
  · split
    · rfl
    · split <;> rfl

private theorem mirrors_start (twins : storage.Twins config.dataFile journal.file other) :
    (start { around with arguments } { config with daemon := false } address journal storage
      complaints []).stage.Mirrors storage.cwd
    (start around { config with daemon := true } address journal other [] calls).stage := by
  have begun := @Service.new?_elsewhere true other { config with daemon := false } address storage
  unfold start
  dsimp only
  cases around.lateError? .runtime with
  | some e => exact .exited _
  | none =>
      dsimp only at begun ⊢
      rw [begun]
      cases new : Service.new? { config with daemon := false } address storage with
      | none => exact .exited _
      | some service =>
          dsimp only [Option.map_some]
          cases around.lateError? .signals <|> around.lateError? .listener with
          | some e => exact .exited _
          | none =>
              rcases Service.log_of_new? new with ⟨log, files⟩
              dsimp only
              rw [Service.run_elsewhere, Option.getD_map]
              generalize service.run?.getD service = started at log files
              rw [← files] at twins ⊢
              apply mirrors_of_twins
              apply Service.Twins.elsewhere
              rw [log]
              exact twins

private theorem mirrors_bind (detached : (Detach.run around.host).2 = .detached)
    (origin : config.dataFile.LeadsAlike storage.cwd [])
    (twins : storage.Twins config.dataFile journal.file storage) :
    let fore := bind { around with arguments } { config with daemon := false } journal storage
      complaints
    let back := bind around { config with daemon := true } journal storage complaints
    fore.stage.Mirrors storage.cwd back.stage ∧ fore.calls = [] ∧
      (back.calls = [] ∨ back.calls = Detach.calls) := by
  unfold bind
  dsimp only
  cases around.bind config.listen with
  | error e => exact ⟨.exited _, rfl, .inl rfl⟩
  | ok address =>
      -- what is noted on the way concerns the file of the journal only
      have noted : ∀ first notice notices,
          (journal.write around.moment storage first).Twins config.dataFile journal.file
            { journal.writeAll around.moment (journal.write around.moment storage notice) notices with
              cwd := [] } := by
        intro first notice notices
        have started := Journal.twins_write twins around.moment notice
        have later := (Journal.twins_writeAll started around.moment notices).inRoot origin
        exact (Journal.twins_write later.symm around.moment first).symm
      rcases ran : Detach.run around.host with ⟨made, outcome⟩
      rw [ran] at detached
      obtain rfl : outcome = .detached := detached
      dsimp only
      rw [if_neg Bool.false_ne_true, if_pos rfl, detach]
      dsimp only
      rw [ran]
      dsimp only
      refine ⟨?_, calls_of_start, .inr (calls_of_start.trans (Detach.calls_of_detached ran))⟩
      rw [← Journal.cwd_write]
      exact mirrors_start (noted _ _ _)

/-- **Going into the background.** A process keeps the path of its log as it was configured. In the
background it works in the root directory, and otherwise in the directory that it was launched in.
So the log is the same file in both cases if the path leads to the same place from both directories,
as it does if it is absolute or the process was launched in the root directory. In that case, as
long as the process is detached at all, the journal is not kept in the data file and nobody else
interferes with the files, going into the background changes nothing else: the launch comes equally
far, and the service in the background mirrors the one in the foreground whatever moves they make.
-/
theorem background_mirrors_foreground
    (background : Config.load around.arguments around.storage.contentsOf =
      .ok { config with daemon := true })
    (foreground : Config.load arguments around.storage.contentsOf =
      .ok { config with daemon := false }) :
    let back := launch around
    let fore := launch { around with arguments }
    (∀ service last kept, back.stage = .serving service kept → service.Reachable last →
      last.log = ⟨config.dataFile⟩ ∧ last.storage.cwd = []) ∧
    (∀ service last kept, fore.stage = .serving service kept → service.Reachable last →
      last.log = ⟨config.dataFile⟩ ∧ last.storage.cwd = around.storage.cwd) ∧
    (config.dataFile.isAbsolute ∨ around.storage.cwd = [] →
      config.dataFile.LeadsAlike around.storage.cwd []) ∧
    (config.dataFile.LeadsAlike around.storage.cwd [] → (Detach.run around.host).2 = .detached →
      config.KeepsApart around.storage → around.storage.Undisturbed →
      fore.stage.Mirrors around.storage.cwd back.stage ∧ fore.calls = [] ∧
        (back.calls = [] ∨ back.calls = Detach.calls)) := by
  refine ⟨?_, ?_, Path.leadsAlike_of_rooted, ?_⟩
  · intro service last kept served reached
    exact works_in background served reached
  · intro service last kept served reached
    exact works_in foreground served reached
  · intro origin detached apart calm
    unfold launch
    dsimp only
    rw [background, foreground]
    dsimp only
    cases opened : Journal.open? (Journal.chooseFilter around.filter config.logLevel).1 config.logFile
      around.storage with
    | error e => exact ⟨.exited _, rfl, .inl rfl⟩
    | ok kept =>
        rcases kept with ⟨journal, storage⟩
        have cwd := Journal.cwd_open? opened
        dsimp only
        rw [← cwd] at origin ⊢
        exact mirrors_bind detached origin (Journal.twins_open? opened calm apart)

/-- Surroundings in which nothing fails. -/
def smooth (arguments : List String) (storage : Storage) : Surroundings :=
  { arguments := arguments.map Bytes.ofString, filter := none, storage
    bind := .ok, lateError? := fun _ => none, host := ⟨[], [], [], []⟩, moment := ⟨0, 0, 0⟩ }

/-- A process is launched in a directory, with an absolute path for its log. -/
theorem absolute_log_in_the_background :
    let storage := Storage.ofTree ⟨[([Bytes.ofString "srv"], .directory)]⟩ [Bytes.ofString "srv"]
    let fore := smooth ["--data-file=/srv/log"] storage
    let back := smooth ["--data-file=/srv/log", "--daemon"] storage
    (launch fore).stage.Mirrors [Bytes.ofString "srv"] (launch back).stage ∧
      ∃ service journal, (launch back).stage = .serving service journal ∧
        service.log = ⟨Bytes.ofString "/srv/log"⟩ ∧ service.storage.cwd = [] := by
  intro storage fore back
  let config : Config := { Config.default with dataFile := Bytes.ofString "/srv/log" }
  have loaded : Config.load fore.arguments fore.storage.contentsOf = .ok config := by
    decide +kernel
  have background : Config.load back.arguments back.storage.contentsOf =
      .ok { config with daemon := true } := by
    decide +kernel
  have served : ∃ service journal, (launch back).stage = .serving service journal := by
    rw [launch, background]
    exact ⟨_, _, rfl⟩
  have absolute : config.dataFile.isAbsolute := by decide +kernel
  rcases background_mirrors_foreground background loaded with ⟨works, _, origin, mirrors⟩
  refine ⟨(mirrors (origin (.inl absolute)) rfl nofun nofun).1, ?_⟩
  rcases served with ⟨service, journal, served⟩
  exact ⟨service, journal, served, works _ _ _ served .refl⟩

/-- **In the background the log is another file**, if its path is relative: the one that it names in
the root directory. The file that was there in the beginning is not shown, and stays when the
service is over. -/
theorem background_leaves_relative_log :
    let kept := Bytes.ofString "kept\n"
    let place : Location := [Bytes.ofString "log", Bytes.ofString "srv"]
    let storage := Storage.ofTree
      ⟨[([Bytes.ofString "srv"], .directory), (place, .file kept)]⟩ [Bytes.ofString "srv"]
    let fore := smooth ["--data-file=log", "--timestamp-interval=0"] storage
    let back := smooth ["--data-file=log", "--timestamp-interval=0", "--daemon"] storage
    let shutdown : List Move := [.callShutdown, .beginTeardown, .joinHandler, .joinTimestamp,
      .removeFile]
    (∃ service journal, (launch fore).stage = .serving service journal ∧
      service.log.snapshot service.storage = .ok kept ∧
      (service.play shutdown).map (·.2.storage.tree.get? place) = some none) ∧
    ∃ service journal, (launch back).stage = .serving service journal ∧
      service.log.snapshot service.storage = .ok [] ∧
      (service.play shutdown).map (·.2.storage.tree.get? place) = some (some (.file kept)) := by
  intro kept place storage fore back shutdown
  let config : Config := { Config.default with
    dataFile := Bytes.ofString "log", timestampInterval := none }
  constructor
  · have loaded : Config.load fore.arguments fore.storage.contentsOf = .ok config := by
      decide +kernel
    rw [launch, loaded]
    exact ⟨_, _, rfl, by cbv⟩
  · have loaded : Config.load back.arguments back.storage.contentsOf =
        .ok { config with daemon := true } := by
      decide +kernel
    rw [launch, loaded]
    exact ⟨_, _, rfl, by cbv⟩

end Launch

end PacketLog
