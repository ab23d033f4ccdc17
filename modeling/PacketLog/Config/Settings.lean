import PacketLog.Net.Address
import PacketLog.Storage.Path

/-! # Settings

A setting can be given on the command line and in a configuration file, and has a default. What a
file leaves out is filled in first (`FileSettings.complete`); without a file all settings have their
defaults (`Settings.default`). `Options.overlay` puts the command line over that, and `Config.check`
judges what came out. Only values that came out are judged: one that another layer overrides can be
as wrong as it likes.
-/

namespace PacketLog

/-- The settings the service runs with. -/
structure Config where
  listen : SocketAddress
  daemon : Bool
  dataFile : Path
  timestampInterval : Option Nat
  maxPacketSize : Nat
  initialCapacity : Nat
  readSize : Nat
  maxConnections : Option Nat
  logLevel : String
  logFile : Option Path
  deriving DecidableEq, Repr

/-- What the command line gives. -/
structure Options where
  config : Option Path
  listen : Option String
  daemon : Bool
  dataFile : Option Path
  timestampInterval : Option Nat
  maxPacketSize : Option Nat
  maxConnections : Option Nat
  logLevel : Option String
  logFile : Option Path
  deriving DecidableEq, Repr

/-- A command line that gives nothing. -/
def Options.empty : Options := ⟨none, none, false, none, none, none, none, none, none⟩

/-- The part of a configuration file about the server. -/
structure ServerSection where
  listen : Option String
  maxConnections : Option Nat
  daemon : Option Bool
  deriving DecidableEq, Repr

/-- The part of a configuration file about the shared log. -/
structure LogSection where
  dataFile : Option Path
  timestampInterval : Option Nat
  deriving DecidableEq, Repr

/-- The part of a configuration file about packets. -/
structure PacketSection where
  maxSize : Option Nat
  initialCapacity : Option Nat
  readSize : Option Nat
  deriving DecidableEq, Repr

/-- The part of a configuration file about the journal of the service itself. -/
structure LoggingSection where
  level : Option String
  file : Option Path
  deriving DecidableEq, Repr

/-- What a configuration file gives. Each part can be missing, and so can each setting of it. -/
structure FileSettings where
  server : Option ServerSection
  log : Option LogSection
  packet : Option PacketSection
  logging : Option LoggingSection
  deriving DecidableEq, Repr

/-- A configuration file that gives nothing. -/
def FileSettings.empty : FileSettings := ⟨none, none, none, none⟩

/-! ## Defaults -/

namespace Default

/-- The address that is bound. -/
def listen : String := "0.0.0.0:9000"

/-- The file of the shared log. -/
def dataFile : Path := Bytes.ofString "/var/tmp/aesdsocketdata"

/-- The seconds between timestamp records. -/
def timestampInterval : Nat := 10

/-- The greatest size of a packet. -/
def maxPacketSize : Nat := 10 * 1024 * 1024

/-- The capacity that the buffer for a packet starts with. -/
def initialCapacity : Nat := 1024

/-- The greatest size of one read. -/
def readSize : Nat := 1024

/-- The level of the journal. -/
def logLevel : String := "info"

end Default

/-! ## Settings with nothing left out -/

/-- The settings of the server. The number of connections has no default. -/
structure ServerSettings where
  listen : String
  maxConnections : Option Nat
  daemon : Bool
  deriving DecidableEq, Repr

/-- The settings of the shared log. -/
structure LogSettings where
  dataFile : Path
  timestampInterval : Nat
  deriving DecidableEq, Repr

/-- The settings for packets. -/
structure PacketSettings where
  maxSize : Nat
  initialCapacity : Nat
  readSize : Nat
  deriving DecidableEq, Repr

/-- The settings of the journal. Its file has no default. -/
structure LoggingSettings where
  level : String
  file : Option Path
  deriving DecidableEq, Repr

/-- The settings below the command line. -/
structure Settings where
  server : ServerSettings
  log : LogSettings
  packet : PacketSettings
  logging : LoggingSettings
  deriving DecidableEq, Repr

/-- The settings of a missing part. -/
def ServerSettings.default : ServerSettings := ⟨Default.listen, none, false⟩

/-- The settings of a missing part. -/
def LogSettings.default : LogSettings := ⟨Default.dataFile, Default.timestampInterval⟩

/-- The settings of a missing part. -/
def PacketSettings.default : PacketSettings :=
  ⟨Default.maxPacketSize, Default.initialCapacity, Default.readSize⟩

/-- The settings of a missing part. -/
def LoggingSettings.default : LoggingSettings := ⟨Default.logLevel, none⟩

/-- The settings without a configuration file. -/
def Settings.default : Settings := ⟨.default, .default, .default, .default⟩

/-- Fills in what a part leaves out. -/
def ServerSection.complete (part : ServerSection) : ServerSettings where
  listen := part.listen.getD Default.listen
  maxConnections := part.maxConnections
  daemon := part.daemon.getD false

/-- Fills in what a part leaves out. -/
def LogSection.complete (part : LogSection) : LogSettings where
  dataFile := part.dataFile.getD Default.dataFile
  timestampInterval := part.timestampInterval.getD Default.timestampInterval

/-- Fills in what a part leaves out. -/
def PacketSection.complete (part : PacketSection) : PacketSettings where
  maxSize := part.maxSize.getD Default.maxPacketSize
  initialCapacity := part.initialCapacity.getD Default.initialCapacity
  readSize := part.readSize.getD Default.readSize

/-- Fills in what a part leaves out. -/
def LoggingSection.complete (part : LoggingSection) : LoggingSettings where
  level := part.level.getD Default.logLevel
  file := part.file

/-- Fills in what a configuration file leaves out: parts, and settings of parts that are there. -/
def FileSettings.complete (file : FileSettings) : Settings where
  server := file.server.elim .default (·.complete)
  log := file.log.elim .default (·.complete)
  packet := file.packet.elim .default (·.complete)
  logging := file.logging.elim .default (·.complete)

/-- A setting has the same default whether its part is missing or only the setting is. -/
theorem FileSettings.complete_eq (file : FileSettings) : file.complete =
    { server :=
        { listen := (file.server.bind (·.listen)).getD Default.listen
          maxConnections := file.server.bind (·.maxConnections)
          daemon := (file.server.bind (·.daemon)).getD false }
      log :=
        { dataFile := (file.log.bind (·.dataFile)).getD Default.dataFile
          timestampInterval :=
            (file.log.bind (·.timestampInterval)).getD Default.timestampInterval }
      packet :=
        { maxSize := (file.packet.bind (·.maxSize)).getD Default.maxPacketSize
          initialCapacity :=
            (file.packet.bind (·.initialCapacity)).getD Default.initialCapacity
          readSize := (file.packet.bind (·.readSize)).getD Default.readSize }
      logging :=
        { level := (file.logging.bind (·.level)).getD Default.logLevel
          file := file.logging.bind (·.file) } } := by
  rcases file with ⟨_ | server, _ | log, _ | packet, _ | logging⟩ <;> rfl

/-! ## Resolution -/

/-- What is wrong with settings. -/
inductive InvalidSetting
  | listenAddress (text : String)
  | noPacketSize
  | noBuffer
  | bufferTooLarge (capacity limit : Nat)
  | noConnections
  deriving DecidableEq, Repr

/-- The text that says what is wrong. -/
def InvalidSetting.message : InvalidSetting → String
  | .listenAddress text => s!"invalid listen address '{text}'"
  | .noPacketSize => "max packet size must be non-zero"
  | .noBuffer => "initial capacity and read size must be non-zero"
  | .bufferTooLarge capacity limit =>
      s!"initial capacity {capacity} exceeds max packet size {limit}"
  | .noConnections => "max connections must be non-zero"

namespace Config

/-- Judges resolved settings. -/
def check (c : Config) : Except InvalidSetting Config :=
  if c.maxPacketSize = 0 then .error .noPacketSize
  else if c.initialCapacity = 0 ∨ c.readSize = 0 then .error .noBuffer
  else if c.maxPacketSize < c.initialCapacity then
    .error (.bufferTooLarge c.initialCapacity c.maxPacketSize)
  else if c.maxConnections = some 0 then .error .noConnections
  else .ok c

/-- The settings that apply when nothing is given. -/
def default : Config where
  listen := .v4 ⟨0, 0, 0, 0⟩ 9000
  daemon := false
  dataFile := Default.dataFile
  timestampInterval := some Default.timestampInterval
  maxPacketSize := Default.maxPacketSize
  initialCapacity := Default.initialCapacity
  readSize := Default.readSize
  maxConnections := none
  logLevel := Default.logLevel
  logFile := none

end Config

/-- The interval of timestamp records; zero switches them off. -/
def interval? (seconds : Nat) : Option Nat := if seconds = 0 then none else some seconds

/-- The level of the journal. The default given on the command line counts as not given. -/
def chosenLevel (options : Options) (below : String) : String :=
  let given := options.logLevel.getD Default.logLevel
  if given = Default.logLevel then below else given

/-- Puts a command line over the settings below it. -/
def Options.overlay (options : Options) (settings : Settings) : Except InvalidSetting Config :=
  let listen := options.listen.getD settings.server.listen
  match SocketAddress.parse? listen with
  | none => .error (.listenAddress listen)
  | some address =>
      Config.check
        { listen := address
          daemon := options.daemon || settings.server.daemon
          dataFile := options.dataFile.getD settings.log.dataFile
          timestampInterval :=
            interval? (options.timestampInterval.getD settings.log.timestampInterval)
          maxPacketSize := options.maxPacketSize.getD settings.packet.maxSize
          initialCapacity := settings.packet.initialCapacity
          readSize := settings.packet.readSize
          maxConnections := options.maxConnections <|> settings.server.maxConnections
          logLevel := chosenLevel options settings.logging.level
          logFile := options.logFile <|> settings.logging.file }

/-- Puts a command line and a configuration file together. -/
def resolve (options : Options) (file : FileSettings) : Except InvalidSetting Config :=
  options.overlay file.complete

end PacketLog
