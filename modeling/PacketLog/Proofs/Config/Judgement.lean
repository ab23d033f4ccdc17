import PacketLog.Proofs.Config.Given
import PacketLog.Proofs.Config.Layers

/-! # What is judged

Only values that came out of the layers are judged (`Judged`), and the first fault of them in a
fixed order is reported (`Judged.First`, `Options.overlay_verdict`). What the command line overrides
is not looked at in the file, however wrong it is there (`Options.overlay_congr`).
-/

namespace PacketLog

/-- The values that are judged. -/
structure Judged where
  listen : String
  maxPacketSize : Nat
  initialCapacity : Nat
  readSize : Nat
  maxConnections : Option Nat

/-- The place of a fault in the order in which they are looked for. -/
def InvalidSetting.rank : InvalidSetting → Nat
  | listenAddress _ => 0
  | noPacketSize => 1
  | noBuffer => 2
  | bufferTooLarge _ _ => 3
  | noConnections => 4

namespace Judged

/-- The values come out of the layers. Only the file sets the sizes of buffers. -/
structure Resolves (options : Options) (file : FileSettings) (j : Judged) : Prop where
  listen : Prevails options.listen (file.server.bind (·.listen)) Default.listen j.listen
  maxPacketSize : Prevails options.maxPacketSize (file.packet.bind (·.maxSize))
    Default.maxPacketSize j.maxPacketSize
  initialCapacity : Prevails none (file.packet.bind (·.initialCapacity)) Default.initialCapacity
    j.initialCapacity
  readSize : Prevails none (file.packet.bind (·.readSize)) Default.readSize j.readSize
  maxConnections : Prevails (options.maxConnections.map some)
    ((file.server.bind (·.maxConnections)).map some) none j.maxConnections

/-- Values without a fault. -/
structure Sound (j : Judged) : Prop where
  listen : (SocketAddress.parse? j.listen).isSome
  packetSize : j.maxPacketSize ≠ 0
  buffer : j.initialCapacity ≠ 0
  read : j.readSize ≠ 0
  fits : j.initialCapacity ≤ j.maxPacketSize
  connections : j.maxConnections ≠ some 0

/-- The faults of some values. -/
inductive Breaks (j : Judged) : InvalidSetting → Prop
  | listenAddress (unread : SocketAddress.parse? j.listen = none) :
      Breaks j (.listenAddress j.listen)
  | noPacketSize (zero : j.maxPacketSize = 0) : Breaks j .noPacketSize
  | noBuffer (zero : j.initialCapacity = 0 ∨ j.readSize = 0) : Breaks j .noBuffer
  | bufferTooLarge (large : j.maxPacketSize < j.initialCapacity) :
      Breaks j (.bufferTooLarge j.initialCapacity j.maxPacketSize)
  | noConnections (zero : j.maxConnections = some 0) : Breaks j .noConnections

/-- The fault that is found first. -/
structure First (j : Judged) (e : InvalidSetting) : Prop where
  breaks : j.Breaks e
  first : ∀ other, j.Breaks other → e.rank ≤ other.rank

private theorem sound_iff {j : Judged} : j.Sound ↔ ∀ e, ¬j.Breaks e := by
  constructor
  · intro sound e breaks
    cases breaks with
    | listenAddress unread => exact absurd sound.listen (by rw [unread]; decide)
    | noPacketSize zero => exact sound.packetSize zero
    | noBuffer zero => exact zero.elim sound.buffer sound.read
    | bufferTooLarge large => exact absurd sound.fits (Nat.not_le.mpr large)
    | noConnections zero => exact sound.connections zero
  · intro whole
    refine ⟨?_, ?_, ?_, ?_, ?_, ?_⟩
    · exact Option.isSome_iff_ne_none.mpr fun unread => whole _ (.listenAddress unread)
    · exact fun zero => whole _ (.noPacketSize zero)
    · exact fun zero => whole _ (.noBuffer (.inl zero))
    · exact fun zero => whole _ (.noBuffer (.inr zero))
    · exact Nat.le_of_not_lt fun large => whole _ (.bufferTooLarge large)
    · exact fun zero => whole _ (.noConnections zero)

/-- No two faults are found first. -/
theorem First.unique {j : Judged} {e e' : InvalidSetting} (here : j.First e) (there : j.First e') :
    e = e' := by
  have same := Nat.le_antisymm (here.first e' there.breaks) (there.first e here.breaks)
  cases here.breaks <;> cases there.breaks <;> first | rfl | simp [InvalidSetting.rank] at same

private theorem First.noPacketSize {j : Judged} (readable : SocketAddress.parse? j.listen ≠ none)
    (zero : j.maxPacketSize = 0) : j.First .noPacketSize := by
  refine ⟨.noPacketSize zero, fun other breaks => ?_⟩
  cases breaks with
  | listenAddress unread => exact absurd unread readable
  | _ => simp [InvalidSetting.rank]

private theorem First.bufferTooLarge {j : Judged} (readable : SocketAddress.parse? j.listen ≠ none)
    (packets : j.maxPacketSize ≠ 0) (buffers : ¬(j.initialCapacity = 0 ∨ j.readSize = 0))
    (large : j.maxPacketSize < j.initialCapacity) :
    j.First (.bufferTooLarge j.initialCapacity j.maxPacketSize) := by
  refine ⟨.bufferTooLarge large, fun other breaks => ?_⟩
  cases breaks with
  | listenAddress unread => exact absurd unread readable
  | noPacketSize zero => exact absurd zero packets
  | noBuffer zero => exact absurd zero buffers
  | _ => simp [InvalidSetting.rank]

/-- What comes of values: a configuration if they have no fault, and the first fault otherwise. -/
inductive Verdict (j : Judged) : Except InvalidSetting Config → Prop
  | accepted (c : Config) (sound : j.Sound) : Verdict j (.ok c)
  | refused {e : InvalidSetting} (first : j.First e) : Verdict j (.error e)

private theorem Verdict.ok_iff {j : Judged} {result : Except InvalidSetting Config}
    (verdict : j.Verdict result) : (∃ c, result = .ok c) ↔ j.Sound := by
  cases verdict with
  | accepted c sound => exact iff_of_true ⟨c, rfl⟩ sound
  | @refused e first => exact iff_of_false nofun fun sound => sound_iff.mp sound e first.breaks

private theorem Verdict.error_iff {j : Judged} {result : Except InvalidSetting Config}
    (verdict : j.Verdict result) (e : InvalidSetting) : result = .error e ↔ j.First e := by
  cases verdict with
  | accepted c sound => exact iff_of_false nofun fun first => sound_iff.mp sound e first.breaks
  | refused first =>
      exact ⟨fun same => Except.error.inj same ▸ first, fun other => by rw [first.unique other]⟩

end Judged

namespace Options

/-- The judged values of a command line over the settings below it. -/
def judged (options : Options) (settings : Settings) : Judged where
  listen := options.listen.getD settings.server.listen
  maxPacketSize := options.maxPacketSize.getD settings.packet.maxSize
  initialCapacity := settings.packet.initialCapacity
  readSize := settings.packet.readSize
  maxConnections := options.maxConnections <|> settings.server.maxConnections

private theorem judged_resolves (options : Options) (file : FileSettings) :
    (options.judged file.complete).Resolves options file := by
  rw [FileSettings.complete_eq]
  exact {
    listen := prevails_iff.mpr rfl
    maxPacketSize := prevails_iff.mpr rfl
    initialCapacity := prevails_iff.mpr rfl
    readSize := prevails_iff.mpr rfl
    maxConnections := prevails_map_iff.mpr rfl }

/-- **The verdict** on the values that came out of the layers. -/
theorem overlay_verdict (options : Options) (settings : Settings) :
    (options.judged settings).Verdict (options.overlay settings) := by
  unfold overlay
  dsimp only
  split
  · rename_i unread
    exact .refused ⟨.listenAddress unread, fun _ _ => Nat.zero_le _⟩
  · rename_i address parsed
    have readable : SocketAddress.parse? (options.judged settings).listen ≠ none := by
      intro unread
      exact nomatch parsed.symm.trans unread
    unfold Config.check
    split_ifs with noPacket noBuffer large noConnections
    · exact .refused (.noPacketSize readable noPacket)
    · refine .refused ⟨.noBuffer noBuffer, fun other breaks => ?_⟩
      cases breaks with
      | listenAddress unread => exact absurd unread readable
      | noPacketSize zero => exact absurd zero noPacket
      | _ => simp [InvalidSetting.rank]
    · exact .refused (.bufferTooLarge readable noPacket noBuffer large)
    · refine .refused ⟨.noConnections noConnections, fun other breaks => ?_⟩
      cases breaks with
      | listenAddress unread => exact absurd unread readable
      | noPacketSize zero => exact absurd zero noPacket
      | noBuffer zero => exact absurd zero noBuffer
      | bufferTooLarge above => exact absurd above large
      | noConnections => exact le_rfl
    · obtain ⟨buffer, read⟩ := not_or.mp noBuffer
      exact .accepted _ ⟨Option.isSome_iff_ne_none.mpr readable, noPacket, buffer, read,
        Nat.le_of_not_lt large, noConnections⟩

/-- Whether the command line settles a setting, so that the file's value for it does not matter. -/
def Overrides (options : Options) : Setting → Prop
  | .listen => options.listen.isSome
  | .maxConnections => options.maxConnections.isSome
  | .daemon => options.daemon
  | .dataFile => options.dataFile.isSome
  | .timestampInterval => options.timestampInterval.isSome
  | .maxSize => options.maxPacketSize.isSome
  | .initialCapacity | .readSize => False
  -- A level that is given as the default counts as not given.
  | .level => options.logLevel.any (· ≠ Default.logLevel)
  | .file => options.logFile.isSome

private theorem getD_congr {α : Type} {given : Option α} {a b : α} (same : ¬given.isSome → a = b) :
    given.getD a = given.getD b := by
  cases given with
  | none => exact same Bool.false_ne_true
  | some value => rfl

private theorem orElse_congr {α : Type} {given a b : Option α} (same : ¬given.isSome → a = b) :
    (given <|> a) = (given <|> b) := by
  cases given with
  | none => exact same Bool.false_ne_true
  | some value => rfl

/-- **What is overridden** does not matter. -/
theorem overlay_congr {options : Options} {settings settings' : Settings}
    (same : ∀ s, ¬options.Overrides s → settings.value s = settings'.value s) :
    options.overlay settings = options.overlay settings' := by
  have listen : options.listen.getD settings.server.listen =
      options.listen.getD settings'.server.listen :=
    getD_congr fun absent => Value.text.inj (Option.some.inj (same .listen absent))
  have daemon : (options.daemon || settings.server.daemon) =
      (options.daemon || settings'.server.daemon) := by
    cases given : options.daemon with
    | true => rfl
    | false =>
        refine Value.flag.inj (Option.some.inj (same .daemon fun overrides => ?_))
        exact Bool.false_ne_true (given.symm.trans overrides)
  have dataFile : options.dataFile.getD settings.log.dataFile =
      options.dataFile.getD settings'.log.dataFile :=
    getD_congr fun absent => Value.path.inj (Option.some.inj (same .dataFile absent))
  have interval : options.timestampInterval.getD settings.log.timestampInterval =
      options.timestampInterval.getD settings'.log.timestampInterval :=
    getD_congr fun absent => Value.number.inj (Option.some.inj (same .timestampInterval absent))
  have packetSize : options.maxPacketSize.getD settings.packet.maxSize =
      options.maxPacketSize.getD settings'.packet.maxSize :=
    getD_congr fun absent => Value.number.inj (Option.some.inj (same .maxSize absent))
  have capacity : settings.packet.initialCapacity = settings'.packet.initialCapacity :=
    Value.number.inj (Option.some.inj (same .initialCapacity id))
  have readSize : settings.packet.readSize = settings'.packet.readSize :=
    Value.number.inj (Option.some.inj (same .readSize id))
  have connections : (options.maxConnections <|> settings.server.maxConnections) =
      (options.maxConnections <|> settings'.server.maxConnections) :=
    orElse_congr fun absent => Value.map_number_injective (same .maxConnections absent)
  have level : chosenLevel options settings.logging.level =
      chosenLevel options settings'.logging.level := by
    unfold chosenLevel
    dsimp only
    split
    · rename_i isDefault
      refine Value.text.inj (Option.some.inj (same .level fun overrides => ?_))
      change options.logLevel.any _ = true at overrides
      cases given : options.logLevel with
      | none =>
          rw [given] at overrides
          exact nomatch overrides
      | some level =>
          rw [given] at isDefault overrides
          exact of_decide_eq_true overrides isDefault
    · rfl
  have file : (options.logFile <|> settings.logging.file) =
      (options.logFile <|> settings'.logging.file) :=
    orElse_congr fun absent => Value.map_path_injective (same .file absent)
  unfold overlay
  rw [listen, daemon, dataFile, interval, packetSize, capacity, readSize, connections, level, file]

end Options

namespace Config

private theorem load_of_finds {arguments : List Bytes} {options : Options} {file : FileSettings}
    {contentsOf : Path → Except IoError Bytes} (parsed : Options.parse arguments = .ok options)
    (finds : options.Finds contentsOf file) :
    load arguments contentsOf = (resolve options file).mapError .invalid := by
  rw [load_of_parsed parsed]
  unfold Options.Finds at finds
  cases named : options.config with
  | none =>
      rw [named] at finds
      dsimp only at finds
      rw [finds]
      rfl
  | some path =>
      rw [named] at finds
      dsimp only at finds
      rw [Option.elim_some, finds]
      rfl

private theorem mapError_eq_error_iff {ε ε' α : Type} {f : ε → ε'} {result : Except ε α}
    {error : ε'} :
    result.mapError f = .error error ↔ ∃ e, error = f e ∧ result = .error e := by
  cases result with
  | ok value => exact iff_of_false nofun fun ⟨_, _, same⟩ => nomatch same
  | error e =>
      constructor
      · exact fun same => ⟨e, (Except.error.inj same).symm, rfl⟩
      · rintro ⟨_, rfl, same⟩
        rw [Except.error.inj same]
        rfl

/-- A greatest packet size that is given and below the capacity of the buffer is refused, whatever
comes out without it. -/
theorem resolve_with_small_packets {options : Options} {file : FileSettings} {c : Config}
    (resolved : resolve options file = .ok c) {n : Nat} (small : n < c.initialCapacity) :
    resolve { options with maxPacketSize := some n } file =
      .error (if n = 0 then .noPacketSize else .bufferTooLarge c.initialCapacity n) := by
  have sound := (options.overlay_verdict file.complete).ok_iff.mp ⟨c, resolved⟩
  have capacity : file.complete.packet.initialCapacity = c.initialCapacity :=
    (prevails_iff.mp (options.judged_resolves file).initialCapacity).symm.trans
      (prevails_iff.mp (resolve_eq_ok_iff.mp resolved).1.initialCapacity)
  refine ((Options.overlay_verdict _ file.complete).error_iff _).mpr ?_
  have readable : SocketAddress.parse? (options.judged file.complete).listen ≠ none :=
    Option.isSome_iff_ne_none.mp sound.listen
  split
  · rename_i zero
    exact .noPacketSize readable zero
  · rename_i positive
    rw [← capacity] at small ⊢
    exact .bufferTooLarge readable positive (not_or.mpr ⟨sound.buffer, sound.read⟩) small

/-- **Only what comes out of the layers is judged.** There is a configuration exactly if the values
that prevail have no fault; otherwise the first fault of them is reported, and nothing else. So it
does not matter what the file has, right or wrong, for settings that the command line overrides. But
a greatest packet size on the command line that is below the capacity in use without it makes
settings invalid that are valid otherwise. -/
theorem load_judges_what_prevails {arguments : List Bytes} {options : Options}
    {file : FileSettings} {contentsOf : Path → Except IoError Bytes}
    (parsed : Options.parse arguments = .ok options) (finds : options.Finds contentsOf file) :
    (∃ j : Judged, j.Resolves options file ∧
      ((∃ c, load arguments contentsOf = .ok c) ↔ j.Sound) ∧
      ∀ error, load arguments contentsOf = .error error ↔ ∃ e, error = .invalid e ∧ j.First e) ∧
    (∀ contentsOf' file', options.Finds contentsOf' file' →
      (∀ s, ¬options.Overrides s → file'.given s = file.given s) →
      load arguments contentsOf' = load arguments contentsOf) ∧
    ∀ arguments' n c,
      Options.parse arguments' = .ok { options with maxPacketSize := some n } →
      load arguments contentsOf = .ok c → n < c.initialCapacity →
      load arguments' contentsOf =
        .error
          (.invalid (if n = 0 then .noPacketSize else .bufferTooLarge c.initialCapacity n)) := by
  have loaded := load_of_finds parsed finds
  have verdict := options.overlay_verdict file.complete
  refine ⟨⟨options.judged file.complete, options.judged_resolves file, ?_, ?_⟩, ?_, ?_⟩
  · rw [← verdict.ok_iff, loaded]
    simp only [mapError_eq_ok_iff]
    rfl
  · intro error
    rw [loaded, mapError_eq_error_iff]
    exact exists_congr fun e => and_congr_right fun _ => verdict.error_iff e
  · intro contentsOf' file' finds' same
    rw [loaded, load_of_finds parsed finds', resolve, resolve]
    refine congrArg _ (Options.overlay_congr fun s free => ?_)
    rw [FileSettings.value_complete, FileSettings.value_complete, Assignment.complete,
      Assignment.complete, same s free]
  · intro arguments' n c parsed' ok small
    rw [loaded, mapError_eq_ok_iff] at ok
    rw [load_of_finds parsed' finds, resolve_with_small_packets ok small]
    rfl

/-- An address and a number of connections that would be refused are overridden; a greatest packet
size of 100 is below the default capacity. -/
theorem overridden_nonsense_and_small_packets :
    let arguments := ["-c", "c.toml", "-l", "127.0.0.1:9", "--max-connections", "2"].map
      Bytes.ofString
    let contentsOf : Path → Except IoError Bytes := fun _ =>
      .ok (Bytes.ofString "[packet]\nread_size = 64\n")
    let contentsOf' : Path → Except IoError Bytes := fun _ =>
      .ok (Bytes.ofString
        "[server]\nlisten = \"nowhere\"\nmax_connections = 0\n[packet]\nread_size = 64\n")
    (∃ c, load arguments contentsOf = .ok c) ∧
      load arguments contentsOf' = load arguments contentsOf ∧
      load (arguments ++ ["--max-packet-size", "100"].map Bytes.ofString) contentsOf =
        .error (.invalid (.bufferTooLarge 1024 100)) := by
  intro arguments contentsOf contentsOf'
  let options : Options :=
    { Options.empty with
      config := some (Bytes.ofString "c.toml")
      listen := some "127.0.0.1:9"
      maxConnections := some 2 }
  let packet : PacketSection := ⟨none, none, some 64⟩
  let file : FileSettings := ⟨none, none, some packet, none⟩
  let file' : FileSettings := ⟨some ⟨some "nowhere", some 0, none⟩, none, some packet, none⟩
  have parsed : Options.parse arguments = .ok options := by decide +kernel
  have finds : FileSettings.ofContents (Bytes.ofString "c.toml")
      (contentsOf (Bytes.ofString "c.toml")) = .ok file := by decide +kernel
  have finds' : FileSettings.ofContents (Bytes.ofString "c.toml")
      (contentsOf' (Bytes.ofString "c.toml")) = .ok file' := by decide +kernel
  obtain ⟨⟨j, resolves, valid, _⟩, overridden, small⟩ := load_judges_what_prevails parsed finds
  have loaded : load arguments contentsOf = .ok { Config.default with
      listen := SocketAddress.loopback 9, readSize := 64, maxConnections := some 2 } := by
    decide +kernel
  refine ⟨⟨_, loaded⟩, overridden _ file' finds' fun s free => ?_, ?_⟩
  · cases s with
    | listen | maxConnections => exact absurd rfl free
    | _ => rfl
  · exact small _ 100 _ (by decide +kernel) loaded (by decide)

end Config

end PacketLog
