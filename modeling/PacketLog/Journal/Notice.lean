import PacketLog.Config.Settings
import PacketLog.Session.Session
import PacketLog.Text.Quoted
import PacketLog.Timestamp.Record

/-! # What the service notes about itself

The journal tells what the service does, apart from the packets it stores. A `Notice` is one thing
noted. It has a severity, a source, by which a filter can pick it, and a text: what happened,
followed by the particulars, each with its name.
-/

namespace PacketLog

/-- How severe a notice is, the gravest first. -/
inductive Severity
  | error
  | warn
  | info
  | debug
  | trace
  deriving DecidableEq, Repr

namespace Severity

/-- How much a journal has to show for a notice of this severity to be in it. -/
def detail : Severity → Nat
  | error => 1
  | warn => 2
  | info => 3
  | debug => 4
  | trace => 5

/-- The name of a severity. -/
def name : Severity → String
  | error => "ERROR"
  | warn => "WARN"
  | info => "INFO"
  | debug => "DEBUG"
  | trace => "TRACE"

end Severity

/-- The signals that ask a process to end. -/
inductive Signal
  | interrupt
  | terminate
  deriving DecidableEq, Repr

/-- The name of a signal. -/
def Signal.name : Signal → String
  | interrupt => "SIGINT"
  | terminate => "SIGTERM"

/-- Something that the service notes. -/
inductive Notice
  | starting (config : Config)
  | bindFailed (address : SocketAddress) (error : IoError)
  | journalDiscarded
  | forking
  | logPrepared (path : Path)
  | appended (count : Nat)
  | fileRemoved (path : Path)
  | fileNotRemoved (path : Path) (error : IoError)
  | listening (address : SocketAddress)
  | timestampsDisabled
  | timestampsStarted (interval : Nat)
  | timestampWritten (record : Bytes)
  | timestampLost (error : LogError)
  | timestampsStopped
  | timestampsDied
  | acceptRetried (error : IoError)
  | acceptPaused (error : IoError)
  | acceptFailed (error : IoError)
  | registered (key : Nat) (peer : SocketAddress)
  | unregistered (key : Nat) (peer : SocketAddress)
  | spawned (key active : Nat)
  | refused (peer : SocketAddress)
  | accepted (key : Nat) (peer : SocketAddress)
  | packetDropped (peer : SocketAddress) (error : LogError)
  | sessionEnded (peer : SocketAddress) (ending : SessionEnd)
  | connectionClosed (peer : SocketAddress)
  | handlerDied (peer : SocketAddress)
  | signalCaught (signal : Signal)
  | shutdownRequested
  | handlersJoined (count : Nat)
  | cleanedUp (removed : Bool)
  | shutdownComplete (path : Path)

namespace Notice

/-- The severity of a notice. -/
def severity : Notice → Severity
  | bindFailed .. | timestampLost _ | acceptFailed _ | packetDropped .. => .error
  | sessionEnded _ (.error (.packet _)) => .warn
  | sessionEnded _ (.error _) => .error
  | sessionEnded _ (.ok _) => .debug
  | journalDiscarded | fileNotRemoved .. | timestampsDied | acceptPaused _ | handlerDied _ => .warn
  | starting _ | forking | logPrepared _ | listening _ | timestampsStarted _ | timestampsStopped
  | accepted .. | connectionClosed _ | signalCaught _ | shutdownRequested | shutdownComplete _ =>
      .info
  | fileRemoved _ | timestampsDisabled | timestampWritten _ | acceptRetried _ | registered ..
  | unregistered .. | spawned .. | refused _ | handlersJoined _ | cleanedUp _ => .debug
  | appended _ => .trace

/-- The part of the program that a notice comes from. -/
def source : Notice → String
  | starting _ | bindFailed .. | journalDiscarded | forking => "logsock"
  | logPrepared _ | appended _ | fileRemoved _ | fileNotRemoved .. => "logsock::storage"
  | timestampsStarted _ | timestampWritten _ | timestampLost _ | timestampsStopped =>
      "logsock::timestamp"
  | registered .. | unregistered .. | handlerDied _ => "logsock::connection"
  | signalCaught _ => "logsock::shutdown"
  | listening _ | timestampsDisabled | timestampsDied | acceptRetried _ | acceptPaused _
  | acceptFailed _ | spawned .. | refused _ | accepted .. | packetDropped .. | sessionEnded ..
  | connectionClosed _ | shutdownRequested | handlersJoined _ | cleanedUp _ | shutdownComplete _ =>
      "logsock::server"

/-- A count that may be missing, followed by its unit. -/
def optional (count : Option Nat) (unit : String) : String :=
  match count with
  | none => "None"
  | some n => s!"Some({n}{unit})"

/-- The address of a host without its port. -/
def hostText : SocketAddress → String
  | .v4 ip _ => String.ofList ip.text
  | .v6 ip _ _ => String.ofList ip.text

/-- The text of a record without the end of its line. -/
def recordText (record : Bytes) : String := Utf8.display record.dropLast

/-- The text of a notice. -/
def text : Notice → String
  | starting c =>
      let interval := optional c.timestampInterval "s"
      let most := optional c.maxConnections ""
      s!"Starting logsock server listen={c.listen.text} data_file={Utf8.display c.dataFile}" ++
        s!" timestamp_interval={interval} max_packet_size={c.maxPacketSize}" ++
        s!" max_connections={most} daemon={c.daemon}"
  | bindFailed address e => s!"Failed to bind address={address.text} error={e.message}"
  | journalDiscarded => "Daemon mode without a log file, further logs are discarded"
  | forking => "Forking to run as daemon"
  | logPrepared path => s!"Initializing shared log path={Utf8.display path}"
  | appended count => s!"Appended to shared log bytes={count}"
  | fileRemoved path => s!"Removed data file path={Utf8.display path}"
  | fileNotRemoved path e =>
      s!"Failed to remove data file path={Utf8.display path} error={e.message}"
  | listening address => s!"Server listening address={address.text}"
  | timestampsDisabled => "Timestamp records disabled"
  | timestampsStarted interval => s!"Timestamp task started interval_secs={interval}"
  | timestampWritten record => s!"Wrote timestamp record={quoted (recordText record)}"
  | timestampLost e => s!"Failed to write timestamp error={e.message}"
  | timestampsStopped => "Timestamp task stopped"
  | timestampsDied => "Timestamp task failed error=task panicked"
  | acceptRetried e => s!"Transient accept failure error={e.message}"
  | acceptPaused e => s!"Out of resources accepting connection, backing off error={e.message}"
  | acceptFailed e => s!"Failed to accept connection error={e.message}"
  | registered key peer => s!"Registered connection handler key={key} peer={peer.text}"
  | unregistered key peer => s!"Unregistered connection handler key={key} peer={peer.text}"
  | spawned key active => s!"Spawned connection handler key={key} active={active}"
  | refused peer => s!"Shutting down, dropped new connection peer={peer.text}"
  | accepted key peer =>
      s!"Accepted connection from {hostText peer} peer={peer.text} conn={key}"
  | packetDropped peer e =>
      s!"Failed to write packet, dropping it peer={peer.text} error={e.message}"
  | sessionEnded peer (.ok .peerClosed) => s!"Client disconnected peer={peer.text}"
  | sessionEnded peer (.ok .closed) => s!"Connection closed for shutdown peer={peer.text}"
  | sessionEnded peer (.error (.packet e)) =>
      s!"Dropping connection peer={peer.text} error={e.message}"
  | sessionEnded peer (.error e) => s!"Connection error peer={peer.text} error={e.message}"
  | connectionClosed peer => s!"Closed connection from {hostText peer} peer={peer.text}"
  | handlerDied peer => s!"Connection handler panicked peer={peer.text}"
  | signalCaught signal => s!"Caught signal, exiting signal={quoted signal.name}"
  | shutdownRequested => "Shutdown requested"
  | handlersJoined count => s!"Joined connection handlers joined={count}"
  | cleanedUp removed => s!"Cleaned up data file removed={removed}"
  | shutdownComplete path => s!"Server shutdown complete data_file={Utf8.display path}"

end Notice

end PacketLog
