import Mathlib
import PacketLog.Config.Load

/-! # Settings in layers

What is given on the command line prevails over the configuration file, and what the file has over
the default (`Prevails`). A configuration that was loaded follows its layers in every setting
(`Config.Follows`) and is valid (`Config.Valid`); there is one whenever the command line and the
file can be read, the address that prevails is one, and the values that prevail are valid
(`Config.load_follows_layers`).

The level of the journal is the exception. If it is given as what is also the default, the command
line counts as silent, and the file prevails over it (`Config.given_level_gives_way`).
-/

namespace PacketLog

/-- The value of a setting in three layers. -/
inductive Prevails {α : Type} (given fromFile : Option α) (default : α) : α → Prop
  | given {value : α} (present : given = some value) : Prevails given fromFile default value
  | fromFile {value : α} (absent : given = none) (present : fromFile = some value) :
      Prevails given fromFile default value
  | default (absent : given = none) (missing : fromFile = none) :
      Prevails given fromFile default default

/-- What prevails is what is given, else what the file says, else the default. -/
theorem prevails_iff {α : Type} {given fromFile : Option α} {default value : α} :
    Prevails given fromFile default value ↔ given.getD (fromFile.getD default) = value := by
  constructor
  · intro prevails
    cases prevails with
    | given present => rw [present, Option.getD_some]
    | fromFile absent present => rw [absent, present, Option.getD_none, Option.getD_some]
    | default absent missing => rw [absent, missing, Option.getD_none, Option.getD_none]
  · rintro rfl
    cases given with
    | some value => exact .given rfl
    | none =>
        cases fromFile with
        | some value => exact .fromFile rfl rfl
        | none => exact .default rfl rfl

/-- A setting without a default is absent unless a layer has it. -/
theorem prevails_map_iff {α : Type} {given fromFile value : Option α} :
    Prevails (given.map some) (fromFile.map some) none value ↔ (given <|> fromFile) = value := by
  rw [prevails_iff]
  cases given <;> cases fromFile <;> rfl

namespace Config

/-- Every setting follows its layers. Only the file sets the sizes of buffers, and each layer can
make the service a daemon. -/
structure Follows (options : Options) (file : FileSettings) (c : Config) : Prop where
  listen : ∃ text, SocketAddress.parse? text = some c.listen ∧
    Prevails options.listen (file.server.bind (·.listen)) Default.listen text
  daemon : c.daemon ↔ options.daemon ∨ file.server.bind (·.daemon) = some true
  dataFile : Prevails options.dataFile (file.log.bind (·.dataFile)) Default.dataFile c.dataFile
  timestampInterval : ∃ seconds, c.timestampInterval = interval? seconds ∧
    Prevails options.timestampInterval (file.log.bind (·.timestampInterval))
      Default.timestampInterval seconds
  maxPacketSize : Prevails options.maxPacketSize (file.packet.bind (·.maxSize))
    Default.maxPacketSize c.maxPacketSize
  initialCapacity : Prevails none (file.packet.bind (·.initialCapacity)) Default.initialCapacity
    c.initialCapacity
  readSize : Prevails none (file.packet.bind (·.readSize)) Default.readSize c.readSize
  maxConnections : Prevails (options.maxConnections.map some)
    ((file.server.bind (·.maxConnections)).map some) none c.maxConnections
  -- A level that is given as the default counts as not given.
  logLevel : Prevails (options.logLevel.filter (· ≠ Default.logLevel))
    (file.logging.bind (·.level)) Default.logLevel c.logLevel
  logFile : Prevails (options.logFile.map some) ((file.logging.bind (·.file)).map some) none
    c.logFile

/-- Settings the service can be given. -/
structure Valid (c : Config) : Prop where
  packetSize : 0 < c.maxPacketSize
  buffer : 0 < c.initialCapacity
  read : 0 < c.readSize
  fits : c.initialCapacity ≤ c.maxPacketSize
  connections : c.maxConnections ≠ some 0

private theorem check_eq_ok_iff {c checked : Config} :
    c.check = .ok checked ↔ c = checked ∧ checked.Valid := by
  unfold check
  constructor
  · intro passed
    split_ifs at passed with noPacket noBuffer large noConnections
    obtain rfl := Except.ok.inj passed
    obtain ⟨buffer, read⟩ := not_or.mp noBuffer
    exact ⟨rfl, Nat.pos_of_ne_zero noPacket, Nat.pos_of_ne_zero buffer,
      Nat.pos_of_ne_zero read, Nat.le_of_not_lt large, noConnections⟩
  · rintro ⟨rfl, valid⟩
    rw [if_neg (Nat.ne_of_gt valid.packetSize),
      if_neg (not_or.mpr ⟨Nat.ne_of_gt valid.buffer, Nat.ne_of_gt valid.read⟩),
      if_neg (Nat.not_lt.mpr valid.fits), if_neg valid.connections]

private theorem chosenLevel_eq (options : Options) (file : Option String) :
    chosenLevel options (file.getD Default.logLevel) =
      (options.logLevel.filter (· ≠ Default.logLevel)).getD (file.getD Default.logLevel) := by
  unfold chosenLevel
  cases given : options.logLevel with
  | none => rfl
  | some level => by_cases same : level = Default.logLevel <;> simp [same, Option.filter_some]

private theorem daemon_iff (given : Bool) (fromFile : Option Bool) :
    (given || fromFile.getD false) = true ↔ given = true ∨ fromFile = some true := by
  cases fromFile <;> simp

/-- **Resolving** two layers gives the configuration that follows them, if it is valid. -/
theorem resolve_eq_ok_iff {options : Options} {file : FileSettings} {c : Config} :
    resolve options file = .ok c ↔ c.Follows options file ∧ c.Valid := by
  rw [resolve, FileSettings.complete_eq]
  unfold Options.overlay
  constructor
  · intro resolved
    dsimp only at resolved
    split at resolved
    · exact nomatch resolved
    · rename_i address parsed
      rw [check_eq_ok_iff] at resolved
      obtain ⟨rfl, valid⟩ := resolved
      refine ⟨?_, valid⟩
      exact {
        listen := ⟨_, parsed, prevails_iff.mpr rfl⟩
        daemon := daemon_iff _ _
        dataFile := prevails_iff.mpr rfl
        timestampInterval := ⟨_, rfl, prevails_iff.mpr rfl⟩
        maxPacketSize := prevails_iff.mpr rfl
        initialCapacity := prevails_iff.mpr rfl
        readSize := prevails_iff.mpr rfl
        maxConnections := prevails_map_iff.mpr rfl
        logLevel := prevails_iff.mpr (chosenLevel_eq _ _).symm
        logFile := prevails_map_iff.mpr rfl }
  · rintro ⟨follows, valid⟩
    rcases follows.listen with ⟨text, parsed, listen⟩
    rcases follows.timestampInterval with ⟨seconds, interval, layers⟩
    have daemon : (options.daemon || (file.server.bind (·.daemon)).getD false) = c.daemon :=
      Bool.eq_iff_iff.mpr ((daemon_iff _ _).trans follows.daemon.symm)
    have level : chosenLevel options ((file.logging.bind (·.level)).getD Default.logLevel) =
        c.logLevel :=
      (chosenLevel_eq _ _).trans (prevails_iff.mp follows.logLevel)
    simp only [prevails_iff.mp listen, parsed, check_eq_ok_iff]
    refine ⟨?_, valid⟩
    rw [prevails_iff.mp layers, ← interval, daemon, level]
    cases c
    rw [Config.mk.injEq]
    exact ⟨rfl, rfl, prevails_iff.mp follows.dataFile, rfl, prevails_iff.mp follows.maxPacketSize,
      prevails_iff.mp follows.initialCapacity, prevails_iff.mp follows.readSize,
      prevails_map_iff.mp follows.maxConnections, rfl, prevails_map_iff.mp follows.logFile⟩

end Config

/-- To name an error otherwise changes nothing about success. -/
theorem mapError_eq_ok_iff {ε ε' α : Type} {f : ε → ε'} {result : Except ε α} {value : α} :
    result.mapError f = .ok value ↔ result = .ok value := by
  cases result <;> simp [Except.mapError]

/-- What a command line has of a configuration file: what the file gives that it names. -/
def Options.Finds (options : Options) (contentsOf : Path → Except IoError Bytes)
    (file : FileSettings) : Prop :=
  match options.config with
  | none => file = .empty
  | some path => FileSettings.ofContents path (contentsOf path) = .ok file

namespace Config

private theorem load_eq_ok_iff {arguments : List Bytes} {contentsOf : Path → Except IoError Bytes}
    {c : Config} : load arguments contentsOf = .ok c ↔
      ∃ options file, Options.parse arguments = .ok options ∧ options.Finds contentsOf file ∧
        resolve options file = .ok c := by
  cases parsed : Options.parse arguments with
  | error e =>
      rw [load_of_refused parsed]
      exact ⟨nofun, fun ⟨_, _, same, _⟩ => nomatch same⟩
  | ok options =>
      rw [load_of_parsed parsed]
      simp only [Except.ok.injEq, exists_and_left, exists_eq_left']
      unfold Options.Finds
      cases options.config with
      | none =>
          change (resolve options .empty).mapError ConfigError.invalid = .ok c ↔ _
          simp only [mapError_eq_ok_iff, exists_eq_left]
      | some path =>
          dsimp only [Option.elim_some]
          cases FileSettings.ofContents path (contentsOf path) with
          | error e => exact ⟨nofun, fun ⟨_, same, _⟩ => nomatch same⟩
          | ok file =>
              change (resolve options file).mapError ConfigError.invalid = .ok c ↔ _
              simp only [mapError_eq_ok_iff, Except.ok.injEq, exists_eq_left']

/-- An interval that is there is not zero. -/
theorem interval_pos_of_load {arguments : List Bytes} {contentsOf : Path → Except IoError Bytes}
    {c : Config} (loaded : load arguments contentsOf = .ok c) {seconds : Nat}
    (configured : c.timestampInterval = some seconds) : 0 < seconds := by
  rcases load_eq_ok_iff.mp loaded with ⟨_, _, _, _, resolved⟩
  rcases (resolve_eq_ok_iff.mp resolved).1.timestampInterval with ⟨given, interval, _⟩
  rw [configured, interval?] at interval
  split_ifs at interval with zero
  obtain rfl := Option.some.inj interval
  exact Nat.pos_of_ne_zero zero

/-- A configuration that is loaded is valid. -/
theorem valid_of_load {arguments : List Bytes} {contentsOf : Path → Except IoError Bytes}
    {c : Config} (loaded : load arguments contentsOf = .ok c) : c.Valid := by
  rcases load_eq_ok_iff.mp loaded with ⟨_, _, _, _, resolved⟩
  exact (resolve_eq_ok_iff.mp resolved).2

/-- **Loading a configuration.** There is one exactly if the command line can be read, and the file
can that it may name, and what follows the command line, the file and the defaults, in this order,
is valid. That is then the configuration. -/
theorem load_follows_layers (arguments : List Bytes) (contentsOf : Path → Except IoError Bytes)
    (c : Config) : load arguments contentsOf = .ok c ↔
      ∃ options file, Options.parse arguments = .ok options ∧ options.Finds contentsOf file ∧
        c.Follows options file ∧ c.Valid := by
  rw [load_eq_ok_iff]
  simp only [resolve_eq_ok_iff]

/-- **A level that is given gives way** to the one of the file, if it is also the default. -/
theorem given_level_gives_way :
    let arguments := ["--config", "c.toml", "--log-level", "info"].map Bytes.ofString
    let contents := Bytes.ofString "[logging]\nlevel = \"debug\"\n"
    (Options.parse arguments).map (·.logLevel) = .ok (some "info") ∧
      load arguments (fun _ => .ok contents) = .ok { Config.default with logLevel := "debug" } := by
  decide +kernel

end Config

end PacketLog
