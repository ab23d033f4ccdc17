import PacketLog.Process.Launch
import Std.Async
import Std.Sync
import Std.Time

/-! # The program

The command line, the socket, the clock, the signals and the files around a service. The service
decides: the program lets it get on, does its errands, sets off what it waits for, and tells it what
came of them, which is a `Report` or a `Move`.
-/

namespace PacketLog.Program

open Std.Async (Async)
open Std.Async.TCP.Socket (Client Server)

/-! ## Names and numbers of the host -/

/-- The error number behind a code of the host, which may count downwards from zero in 32 bits. -/
def errnoOfCode (code : UInt32) : Errno := min code.toNat (UInt32.size - code.toNat)

/-- The failure behind an exception of the host. -/
def ofException : IO.Error → IoError
  | .alreadyExists _ code _ | .otherError code _ | .resourceBusy code _ | .resourceVanished code _
  | .unsupportedOperation code _ | .hardwareFault code _ | .unsatisfiedConstraints code _
  | .illegalOperation code _ | .protocolError code _ | .timeExpired code _ | .interrupted _ code _
  | .noFileOrDirectory _ code _ | .invalidArgument _ code _ | .permissionDenied _ code _
  | .resourceExhausted _ code _ | .inappropriateType _ code _ | .noSuchThing _ code _ =>
      .os (errnoOfCode code)
  | .unexpectedEof => .bare .unexpectedEof
  | .userError text => .custom .other text

/-- Makes an attempt at something that can fail. -/
def attempt {α : Type} (action : IO α) : IO (Except IoError α) :=
  try return .ok (← action) catch e => return .error (ofException e)

/-- An address as the host wants it. -/
def toHost : SocketAddress → Std.Net.SocketAddress
  | .v4 ip port =>
      .v4 ⟨.ofParts ip.first ip.second ip.third ip.fourth, port.toUInt16⟩
  | .v6 ip _ port =>
      .v6 ⟨⟨Vector.ofFn fun i => (ip.groups.getD i 0).toUInt16⟩, port.toUInt16⟩

/-- An address as the library wants it. -/
def ofHost : Std.Net.SocketAddress → SocketAddress
  | .v4 a =>
      let octets := a.addr.octets
      .v4 ⟨octets[0], octets[1], octets[2], octets[3]⟩ a.port.toNat
  | .v6 a => .v6 ⟨a.addr.segments.toList.map (·.toNat)⟩ 0 a.port.toNat

/-- The moment on the clock of the host. -/
def readClock : IO Moment := do
  let now ← Std.Time.Timestamp.now
  let nanos := now.toNanosecondsSinceUnixEpoch.val
  let zone := (← Std.Time.Database.defaultGetLocalZoneRules).timezoneAt now
  let second : Int := Moment.second
  return ⟨nanos / second, (nanos % second).toNat, zone.offset.second.val⟩

/-! ## The data file -/

/-- Appends bytes to the data file. -/
def append (path : Path) (data : Bytes) : IO (Except LogError Unit) := do
  match ← attempt (IO.FS.Handle.mk (Utf8.display path) .append) with
  | .error e => return .error (.open path e)
  | .ok file =>
      let written ← attempt do
        file.write (ByteArray.mk data.toArray)
        file.flush
      return written.mapError (.write path)

/-- Reads the data file. -/
def read (path : Path) : IO (Except LogError Bytes) := do
  match ← attempt (IO.FS.Handle.mk (Utf8.display path) .read) with
  | .error e => return SharedLog.unopened ⟨path⟩ e
  | .ok file => return ((← attempt file.readBinToEnd).map (·.toList)).mapError (.read path)

/-- Removes the data file. -/
def remove (path : Path) : IO (Except LogError Bool) := do
  match ← attempt (IO.FS.removeFile (Utf8.display path)) with
  | .ok () => return .ok true
  | .error e => return SharedLog.undeleted ⟨path⟩ e

/-- Does an errand. -/
def perform (path : Path) : Errand → IO Report
  | .append task packet => return .appended task (← append path packet)
  | .snapshot task => return .snapshotTaken task (← read path)
  | .record task => do
      let record := (← readClock).record
      return .recordAppended task record false (← append path record)
  | .removal => return .removed (← remove path)

/-! ## Running -/

/-- Something that has come from outside: what it was waited for, if it was, the move that it
allows, and the connection that comes with it. -/
structure Arrival where
  demand : Option Demand
  move : Move
  client : Option Client

instance : Inhabited Arrival := ⟨⟨none, .pass 0, none⟩⟩

/-- What the service runs on: a socket that listens, the way to note something, and what has come
from outside. -/
structure Host where
  server : Server
  note : Notice → IO Unit
  arrivals : Std.Channel Arrival

/-- A service that runs, with what was set off for it, and the connections of its tasks. -/
structure Running where
  service : Service
  underWay : List Demand
  clients : List (Option Client)

/-- The connection of a task. -/
def Running.client (r : Running) (task : Nat) : IO Client :=
  match r.clients[task]?.join with
  | some client => pure client
  | none => throw (.userError "no connection")

/-- Waits for something that the service waits for, and answers the move that it allows. -/
def await (h : Host) (r : Running) : Demand → Async (Move × Option Client)
  | .connection =>
      try
        let client ← h.server.accept
        return (.accept (ofHost (← client.getPeerName)), client)
      catch e => return (.failAccept (ofException e), none)
  | .resources duration => do
      Std.Async.sleep (.ofInt duration)
      return (.resume, none)
  | .bytes task size =>
      try
        let bytes ← (← r.client task).recv? size.toUInt64
        return (.receive task ((bytes.map (·.toList)).getD []), none)
      catch e => return (.failReceive task (ofException e), none)
  | .delivery task left =>
      try
        (← r.client task).send (ByteArray.mk left.toArray)
        return (.send task left.length, none)
      catch e => return (.failSend task (ofException e), none)
  | .instant _ deadline => do
      Std.Async.sleep (.ofInt (deadline - r.service.now))
      return (.pass 0, none)

/-- Waits in the background for something that the service waits for. -/
def setOff (h : Host) (r : Running) (demand : Demand) : IO Unit := do
  let _ ← Async.toIO do
    let (move, client) ← await h r demand
    let _ ← h.arrivals.send ⟨demand, move, client⟩

/-- Lets go of the connections whose handlers have let go of them. Nobody waits for a peer that
takes nothing any more. -/
def release (r : Running) : IO Running := do
  let held := r.service.connections.map (·.stage == .serving)
  let clients ← (r.clients.zip held).mapM fun (client, held) => do
    if let (some client, false) := (client, held) then
      let _ ← Async.toIO (try client.shutdown catch _ => pure ())
    return if held then client else none
  return { r with clients }

/-- Something comes from outside. -/
def Running.take (r : Running) (arrival : Arrival) : Running :=
  let service := (r.service.step arrival.move).getD r.service
  let joined := service.connections.length - r.service.connections.length
  { service
    underWay := r.underWay.filter (some · != arrival.demand)
    clients := r.clients ++ List.replicate joined arrival.client }

/-- Runs the service until the acceptor returns. -/
partial def run (h : Host) (r : Running) : IO (Except IoError Unit) := do
  let service := (r.service.pass ((← IO.monoMsNow) - r.service.now)).getOn
  service.notices.forM h.note
  let r ← release { r with service := { service with journal := [] } }
  if let .returned result := service.acceptor then return result
  match r.service.errands with
  | errand :: _ =>
      let report ← perform service.config.dataFile errand
      run h { r with service := (r.service.report? report).getD r.service }
  | [] =>
      let fresh := r.service.demands.filter fun demand => !r.underWay.contains demand
      fresh.forM (setOff h r)
      let arrival ← h.arrivals.sync.recv
      run h ({ r with underWay := fresh ++ r.underWay }.take arrival)

/-- Tells the service of a signal. -/
def heed (h : Host) (signal : Signal) (number : Std.Async.Signal) : IO Unit := do
  let waiter ← Std.Async.Signal.Waiter.mk number false
  let _ ← (← waiter.wait).mapIO fun _ => do
    let _ ← h.arrivals.send ⟨none, .catchSignal signal, none⟩

/-- The greatest number of connections that may wait to be accepted. -/
def backlog : UInt32 := 128

/-- Binds an address. -/
def listenOn (address : SocketAddress) : IO Server := do
  let server ← Server.mk
  server.bind (toHost address)
  server.listen backlog
  return server

/-- The way to note something: in a file, or on the terminal. -/
def openJournal (filter : Filter) (path : Option Path) : IO (Notice → IO Unit) := do
  let put : String → IO Unit ← match path with
    | none => do
        let terminal ← IO.getStdout
        pure fun line => do
          terminal.putStrLn line
          terminal.flush
    | some path => do
        let file ← IO.FS.Handle.mk (Utf8.display path) .append
        pure fun line => do
          file.putStrLn line
          file.flush
  return fun notice => do
    if filter.shows notice then
      put (Journal.line (← readClock) notice)

/-- Says why the program ends, and answers its exit code. -/
def fail (detail : String) : IO UInt32 := do
  IO.eprintln (complaint detail)
  return failureCode.toUInt32

/-- A host where no process can fork: none of its calls is within reach of this program. -/
def unforkable : Detach.Host := ⟨[.error Errno.notImplemented], [], [], []⟩

/-- Goes into the background if that is asked for. -/
def detach (config : Config) (note : Notice → IO Unit) : IO Detach.Outcome := do
  if config.daemon then
    if config.logFile.isNone then note .journalDiscarded
    note .forking
    return (Detach.run unforkable).2
  else return .detached

/-- Serves as configured, and answers the exit code. -/
def serveConfigured (config : Config) (note : Notice → IO Unit) : IO UInt32 := do
  note (.starting config)
  match ← attempt (listenOn config.listen) with
  | .error e =>
      note (.bindFailed config.listen e)
      fail e.detail
  | .ok server =>
      match ← detach config note with
      | .failed e => fail e.detail
      | .parent => return Detach.parentExit.toUInt32
      | .detached =>
          let address := ofHost (← server.getSockName)
          let some service := Service.new? config address (.ofTree ⟨[]⟩ []) |
            return crashCode.toUInt32
          let host : Host := ⟨server, note, ← Std.Channel.new⟩
          heed host .interrupt .sigint
          heed host .terminate .sigterm
          let begun := service.pass (← IO.monoMsNow)
          match ← run host ⟨begun.run?.getD begun, [], []⟩ with
          | .ok () => return 0
          | .error e => fail e.detail

/-- Reads the configuration file that a command line names, if it names one. -/
def readConfigFile (arguments : List Bytes) : IO (Except IoError Bytes) := do
  match (Options.parse arguments).toOption.bind (·.config) with
  | none => return .ok []
  | some path => do
      let contents ← attempt (IO.FS.readBinFile (Utf8.display path))
      return contents.map (·.toList)

end PacketLog.Program

open PacketLog PacketLog.Program in
/-- Runs the program for a command line. -/
def main (arguments : List String) : IO UInt32 := do
  let arguments := arguments.map Bytes.ofString
  let contents ← readConfigFile arguments
  match Config.load arguments fun _ => contents with
  | .error (.usage e) =>
      if e.exitCode = 0 then IO.print e.message else IO.eprintln e.message
      return e.exitCode.toUInt32
  | .error e => fail e.detail
  | .ok config =>
      let (filter, complaints) := Journal.chooseFilter (← IO.getEnv "RUST_LOG") config.logLevel
      complaints.forM fun text => IO.eprintln text
      match ← attempt (openJournal filter config.logFile) with
      | .error e => fail e.detail
      | .ok note => serveConfigured config note
