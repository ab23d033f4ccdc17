import PacketLog.Config.CommandLine
import PacketLog.Config.File
import PacketLog.Failure.IoError

/-! # Loading the configuration

The command line is read first, then the configuration file it names, then all is put together.
-/

namespace PacketLog

/-- Why there is no configuration: a command line that is answered at once, a configuration file
that cannot be read, is no document or has the wrong shape, or wrong settings. -/
inductive ConfigError
  | usage (error : UsageError)
  | unreadable (path : Path) (error : IoError)
  | notDocument (path : Path)
  | wrongShape (path : Path) (error : ShapeError)
  | invalid (error : InvalidSetting)
  deriving DecidableEq, Repr

/-- The text of an error. -/
def ConfigError.message : ConfigError → String
  | .usage e => e.message
  | .unreadable path e => s!"Failed to read config file '{Utf8.display path}': {e.message}"
  | .notDocument path => s!"Failed to parse config file '{Utf8.display path}'"
  | .wrongShape path e => s!"Failed to parse config file '{Utf8.display path}': {e.message}"
  | .invalid e => s!"Invalid configuration: {e.message}"

/-- What a configuration file gives, once it was read. -/
def FileSettings.ofContents (path : Path) :
    Except IoError Bytes → Except ConfigError FileSettings
  | .error e => .error (.unreadable path e)
  | .ok contents =>
      match Utf8.decode? contents with
      | none => .error (.unreadable path .notText)
      | some text =>
          match Toml.parse? text with
          | none => .error (.notDocument path)
          | some entries => (FileSettings.ofEntries entries).mapError (.wrongShape path)

/-- Loads the configuration for a command line, with a way to read files. -/
def Config.load (arguments : List Bytes) (contentsOf : Path → Except IoError Bytes) :
    Except ConfigError Config := do
  let options ← (Options.parse arguments).mapError .usage
  match options.config with
  | none => (options.overlay .default).mapError .invalid
  | some path => do
      let file ← FileSettings.ofContents path (contentsOf path)
      (resolve options file).mapError .invalid

/-- Nothing is loaded for a command line that cannot be read. -/
theorem Config.load_of_refused {arguments : List Bytes} {error : UsageError}
    (refused : Options.parse arguments = .error error)
    (contentsOf : Path → Except IoError Bytes) :
    load arguments contentsOf = .error (.usage error) := by
  rw [load, refused]
  rfl

/-- What is loaded for a command line that was read. -/
theorem Config.load_of_parsed {arguments : List Bytes} {options : Options}
    (parsed : Options.parse arguments = .ok options)
    (contentsOf : Path → Except IoError Bytes) :
    load arguments contentsOf =
      options.config.elim ((options.overlay .default).mapError .invalid) fun path =>
        FileSettings.ofContents path (contentsOf path) >>= fun file =>
          (resolve options file).mapError .invalid := by
  have answered : (Options.parse arguments).mapError ConfigError.usage = .ok options := by
    rw [parsed]
    rfl
  rw [load, answered]
  cases named : options.config <;> simp only [bind, Except.bind, named, Option.elim]

end PacketLog
