import PacketLog.Config.Load
import PacketLog.Journal.Journal
import PacketLog.Process.Detach
import PacketLog.Server.Moves

/-! # Launching the program

A launch loads the configuration, opens the journal, binds the address, goes into the background if
asked to, and starts the service, in this order. The first of these that fails ends the process with
a complaint. None of them touches the data file, and a process that could not bind its address has
not gone into the background.
-/

namespace PacketLog

/-! ## Complaints -/

/-- All that is known of a failure. -/
def IoError.detail : IoError → String
  | .os errno =>
      let kind := errno.kind.name
      s!"Os \x7b code: {errno}, kind: {kind}, message: {quoted errno.text} \x7d"
  | .bare kind => s!"Kind({kind.name})"
  | .custom kind text => s!"Error \x7b kind: {kind.name}, message: {quoted text} \x7d"

/-- All that is known of why there is no configuration. -/
def ConfigError.detail : ConfigError → String
  | .usage e => e.message
  | .unreadable path e => s!"FileRead({quoted (Utf8.display path)}, {e.detail})"
  | .notDocument path => s!"TomlParse({quoted (Utf8.display path)}, Error)"
  | .wrongShape path e =>
      s!"TomlParse({quoted (Utf8.display path)}, Error \x7b message: {quoted e.message} \x7d)"
  | .invalid e => s!"Invalid({quoted e.message})"

/-- The line with which a process says why it ends. -/
def complaint (detail : String) : String := s!"Error: {detail}"

/-! ## The launch -/

/-- What a launch needs once the process is in the background. -/
inductive LateStep
  | runtime
  | signals
  | listener
  deriving DecidableEq, Repr

/-- What a process is launched into: its arguments, the filter that the environment asks for, its
files, how an address is bound, how the late steps fail, if they do, how the system answers when the
process detaches, and the time. -/
structure Surroundings where
  arguments : List Bytes
  filter : Option String
  storage : Storage
  bind : SocketAddress → Except IoError SocketAddress
  lateError? : LateStep → Option IoError
  host : Detach.Host
  moment : Moment

/-- How far a launch came: the process has ended with a code, or it serves. -/
inductive Stage
  | exited (code : Nat)
  | serving (service : Service) (journal : Journal)

/-- A launch: what it came to, what it wrote to the terminal, the system calls it made to detach,
and the files when it was over. -/
structure Launch where
  stage : Stage
  output : String
  complaints : List String
  calls : List Detach.Call
  storage : Storage

/-- The exit code of a process that could not do its work. -/
def failureCode : Nat := 1

/-- The exit code of a process that broke down. -/
def crashCode : Nat := 101

namespace Launch

/-- A launch that fails with a complaint. -/
def failed (storage : Storage) (complaints : List String) (calls : List Detach.Call)
    (detail : String) : Launch :=
  ⟨.exited failureCode, "", complaints ++ [complaint detail], calls, storage⟩

/-- A launch without a configuration. What was asked for on the command line goes to the terminal
as it is, and so do complaints about the command line. -/
def unconfigured (storage : Storage) : ConfigError → Launch
  | .usage e =>
      if e.exitCode = 0 then ⟨.exited 0, e.message, [], [], storage⟩
      else ⟨.exited e.exitCode, "", [e.message], [], storage⟩
  | e => failed storage [] [] e.detail

/-- Starts the service of a process that is where it is going to stay. -/
def start (around : Surroundings) (config : Config) (address : SocketAddress) (journal : Journal)
    (storage : Storage) (complaints : List String) (calls : List Detach.Call) : Launch :=
  match around.lateError? .runtime with
  | some e => failed storage complaints calls e.detail
  | none =>
      match Service.new? config address storage with
      | none => ⟨.exited crashCode, "", complaints, calls, storage⟩
      | some service =>
          match around.lateError? .signals <|> around.lateError? .listener with
          | some e => failed storage complaints calls e.detail
          | none =>
              let service := service.run?.getD service
              ⟨.serving service journal, "", complaints, calls, storage⟩

/-- Sends the process into the background and starts the service there, in the root directory. What
it complains of from then on nobody sees. -/
def detach (around : Surroundings) (config : Config) (address : SocketAddress) (journal : Journal)
    (storage : Storage) (complaints : List String) : Launch :=
  let warnings := if config.logFile.isNone then [Notice.journalDiscarded] else []
  let storage := journal.writeAll around.moment storage (warnings ++ [.forking])
  match Detach.run around.host with
  | (calls, .failed e) => failed storage complaints calls e.detail
  | (calls, .parent) => ⟨.exited Detach.parentExit, "", complaints, calls, storage⟩
  | (calls, .detached) =>
      { start around config address journal { storage with cwd := [] } [] calls with complaints }

/-- Binds the address and goes on from there. -/
def bind (around : Surroundings) (config : Config) (journal : Journal) (storage : Storage)
    (complaints : List String) : Launch :=
  let storage := journal.write around.moment storage (.starting config)
  match around.bind config.listen with
  | .error e =>
      let storage := journal.write around.moment storage (.bindFailed config.listen e)
      failed storage complaints [] e.detail
  | .ok address =>
      if config.daemon then detach around config address journal storage complaints
      else start around config address journal storage complaints []

end Launch

/-- Launches the program. -/
def launch (around : Surroundings) : Launch :=
  match Config.load around.arguments around.storage.contentsOf with
  | .error e => .unconfigured around.storage e
  | .ok config =>
      let (filter, complaints) := Journal.chooseFilter around.filter config.logLevel
      match Journal.open? filter config.logFile around.storage with
      | .error e => .failed around.storage complaints [] e.detail
      | .ok (journal, storage) => .bind around config journal storage complaints

/-- Lets a service run until a signal ends it, and shows what it noted. Answers its exit code and
the files afterwards. -/
def runUntil (signal : Signal) (moment : Moment) (service : Service) (journal : Journal) :
    Nat × Storage :=
  let service := service.settle moment
  let service := ((service.catchSignal? signal).getD service).settle moment
  let code := match service.acceptor with
    | .returned (.error _) => failureCode
    | _ => 0
  (code, journal.writeAll moment service.storage service.notices)

end PacketLog
