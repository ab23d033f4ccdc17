import PacketLog.Connection.Registry
import PacketLog.Journal.Notice
import PacketLog.Server.AcceptError
import PacketLog.Shutdown.Flag
import PacketLog.Storage.SharedLog
import PacketLog.Timestamp.Task

/-! # The service

A `Service` is everything that runs at once: an acceptor, a handler for every connection it has
accepted, the timestamp tasks, whoever has asked for shutdown, and the one teardown they all wait
for. Each part is in some phase, and every move below is what one part can do next: it answers
nothing when that part is not ready for it. What order the moves come in is nobody's choice, so that
whatever holds after every row of moves holds of the service.

Shutdown goes through four stages in order: the flag is set, the registry is drained and the drained
handlers are waited for, the timestamp task is taken and waited for, and the data file is removed.
-/

namespace PacketLog

/-- How far the task of a handler has come: it drives its session, it has let go of its connection
and posted its key, or it has given its permit back. -/
inductive HandlerStage
  | serving
  | leaving
  | ended
  deriving DecidableEq, Repr

/-- A connection with its handler: the key under which it was registered, whether it was asked to
close, and whether it broke down. -/
structure Connection where
  peer : SocketAddress
  key : Nat
  session : Session
  stage : HandlerStage
  closing : Bool
  crashed : Bool

/-- Whether the session has come to an end, well or badly. -/
def Connection.isOver (c : Connection) : Bool := c.crashed || c.session.ending?.isSome

/-- What the acceptor is doing: it has not been started, it is about to look at the flag, waits for
a permit, for a connection or for resources, has left its loop, waits for the teardown, or has
returned. -/
inductive Acceptor
  | idle
  | checking
  | awaitingPermit
  | accepting
  | backingOff
  | leaving (result : Except IoError Unit)
  | tearingDown (result : Except IoError Unit)
  | returned (result : Except IoError Unit)

/-- Whether the acceptor has a permit in hand. -/
def Acceptor.holdsPermit : Acceptor → Bool
  | accepting | backingOff => true
  | _ => false

/-- How far the teardown has come: the tasks of handlers still waited for with the number of those
drained, the timestamp task waited for, and the removal of the file. -/
inductive Teardown
  | notStarted
  | joiningHandlers (awaited : List Nat) (count : Nat)
  | joiningTimestamps (task : Option Nat)
  | removing
  | done
  deriving DecidableEq, Repr

/-- Somebody who has asked for shutdown. -/
inductive Caller
  | waiting
  | returned
  deriving DecidableEq, Repr

/-- The service. `address` is where it listens, `permits` counts the connections that may still be
accepted, unless there is no bound, `slot` names the timestamp task that the teardown will wait for,
and `journal` holds what was noted, latest first. -/
structure Service where
  config : Config
  address : SocketAddress
  storage : Storage
  flag : ShutdownFlag
  registry : Registry
  connections : List Connection
  permits : Option Nat
  acceptor : Acceptor
  now : Nat
  timestamps : List TimestampTask
  slot : Option Nat
  teardown : Teardown
  callers : List Caller
  journal : List Notice

namespace Service

/-- The most permits that can be counted. -/
def mostPermits : Nat := (1 <<< 61) - 1

/-- A service that has not been started. There is none with more permits than can be counted. -/
def new? (config : Config) (address : SocketAddress) (storage : Storage) : Option Service :=
  if config.maxConnections.any (mostPermits < ·) then none
  else
    some
      { config, address, storage
        flag := .fresh
        registry := .empty
        connections := []
        permits := config.maxConnections
        acceptor := .idle
        now := 0
        timestamps := []
        slot := none
        teardown := .notStarted
        callers := []
        journal := [.logPrepared config.dataFile] }

/-- The shared log. -/
def log (s : Service) : SharedLog := ⟨s.config.dataFile⟩

/-- Notes something. -/
def note (s : Service) (notice : Notice) : Service := { s with journal := notice :: s.journal }

/-- What was noted, in order. -/
def notices (s : Service) : List Notice := s.journal.reverse

/-! ## Asking for shutdown -/

/-- Sets the flag, and answers whether this call was the one to set it. -/
def trigger (s : Service) : Bool × Service :=
  let (flipped, flag) := s.flag.trigger
  (flipped, { s with flag })

/-- A signal arrives. Once the flag is set nobody listens for signals. -/
def catchSignal? (s : Service) (signal : Signal) : Option Service :=
  if s.flag.triggered then none else some (s.note (.signalCaught signal)).trigger.2

/-- Sets the flag, and notes it if it was not set. -/
def requestShutdown (s : Service) : Service :=
  let (flipped, s) := s.trigger
  if flipped then s.note .shutdownRequested else s

/-- Somebody asks for shutdown and starts to wait for the teardown. -/
def callShutdown (s : Service) : Service :=
  { s.requestShutdown with callers := s.callers ++ [.waiting] }

/-- The teardown is done, so that somebody who waits for it goes on. -/
def returnCaller? (s : Service) (caller : Nat) : Option Service :=
  if s.callers[caller]? = some .waiting ∧ s.teardown = .done then
    some { s with callers := s.callers.set caller .returned }
  else none

/-! ## The acceptor -/

/-- Gives a permit back. -/
def returnPermit (s : Service) : Service := { s with permits := s.permits.map (· + 1) }

/-- Starts the timestamp task, unless there are to be no records or the flag is set. -/
def startTimestamps (s : Service) : Service :=
  match s.config.timestampInterval with
  | none => s.note .timestampsDisabled
  | some seconds =>
      if s.flag.triggered then s
      else
        { s with
          timestamps := s.timestamps ++ [.new (seconds * 1000)]
          slot := some s.timestamps.length }

/-- Starts the service. -/
def run? (s : Service) : Option Service :=
  match s.acceptor with
  | .idle => some { (s.note (.listening s.address)).startTimestamps with acceptor := .checking }
  | _ => none

/-- The acceptor looks at the flag. -/
def checkFlag? (s : Service) : Option Service :=
  match s.acceptor with
  | .checking =>
      some { s with acceptor := if s.flag.triggered then .leaving (.ok ()) else .awaitingPermit }
  | _ => none

/-- The acceptor gets a permit. -/
def acquire? (s : Service) : Option Service :=
  match s.acceptor, s.permits with
  | .awaitingPermit, none => some { s with acceptor := .accepting }
  | .awaitingPermit, some (left + 1) => some { s with acceptor := .accepting, permits := some left }
  | _, _ => none

/-- Locks the registry, which strikes off the handlers that have left. -/
def lockRegistry (s : Service) : Service :=
  let gone := s.registry.posted.filterMap fun key =>
    (s.registry.entry? key).map fun entry => Notice.unregistered key entry.peer
  { s with registry := s.registry.lock, journal := gone.reverse ++ s.journal }

/-- Hands a connection, and the permit for it, to a handler of its own. A registry that was drained
refuses it. -/
def dispatch (s : Service) (peer : SocketAddress) : Service :=
  let s := s.lockRegistry
  match s.registry.offer? with
  | none => s.returnPermit.note (.refused peer)
  | some key =>
      let c := s.config
      let session := Session.new c.initialCapacity c.maxPacketSize c.readSize
      let connection : Connection := ⟨peer, key, session, .serving, false, false⟩
      let registry := s.registry.register ⟨peer, s.connections.length⟩
      let s := { s with registry, connections := s.connections ++ [connection] }
      let s := (s.note (.registered key peer)).lockRegistry
      (s.note (.spawned key s.registry.size)).note (.accepted key peer)

/-- The acceptor gets a connection. -/
def accept? (s : Service) (peer : SocketAddress) : Option Service :=
  match s.acceptor with
  | .accepting => some { s.dispatch peer with acceptor := .checking }
  | _ => none

/-- The acceptor fails to get a connection. -/
def failAccept? (s : Service) (e : IoError) : Option Service :=
  match s.acceptor with
  | .accepting =>
      match AcceptVerdict.of e with
      | .again => some { s.returnPermit.note (.acceptRetried e) with acceptor := .checking }
      | .backOff => some { s.note (.acceptPaused e) with acceptor := .backingOff }
      | .stop => some { s.returnPermit.note (.acceptFailed e) with acceptor := .leaving (.error e) }
  | _ => none

/-- The acceptor has waited long enough for resources. -/
def resume? (s : Service) : Option Service :=
  match s.acceptor with
  | .backingOff => some { s.returnPermit with acceptor := .checking }
  | _ => none

/-- The acceptor notices the flag while it waits. -/
def heedFlag? (s : Service) : Option Service :=
  if s.flag.triggered then
    match s.acceptor with
    | .awaitingPermit => some { s with acceptor := .leaving (.ok ()) }
    | .accepting | .backingOff => some { s.returnPermit with acceptor := .leaving (.ok ()) }
    | _ => none
  else none

/-- The acceptor closes the listener, asks for shutdown and starts to wait for the teardown. -/
def closeListener? (s : Service) : Option Service :=
  match s.acceptor with
  | .leaving result => some { s.requestShutdown with acceptor := .tearingDown result }
  | _ => none

/-- The teardown is done, so that the acceptor returns what its loop ended with. -/
def finishRun? (s : Service) : Option Service :=
  match s.acceptor, s.teardown with
  | .tearingDown result, .done => some { s with acceptor := .returned result }
  | _, _ => none

/-! ## Handlers -/

/-- The connection of a task, as long as its session goes on. -/
def serving? (s : Service) (task : Nat) : Option Connection :=
  s.connections[task]?.filter fun c => c.stage == .serving && !c.isOver

/-- Moves the session of a task. -/
def setSession (s : Service) (task : Nat) (session : Session) : Service :=
  { s with connections := s.connections.modify task ({ · with session }) }

/-- A read delivers bytes, no more than the read asked for; none of them mean that the peer has
closed its side. -/
def receive? (s : Service) (task : Nat) (bytes : Bytes) : Option Service := do
  let c ← s.serving? task
  match c.session.phase with
  | .reading =>
      if bytes.length ≤ c.session.readSize then
        some (s.setSession task (c.session.received bytes))
      else none
  | _ => none

/-- A read fails. -/
def failReceive? (s : Service) (task : Nat) (e : IoError) : Option Service := do
  let c ← s.serving? task
  match c.session.phase with
  | .reading => some (s.setSession task (c.session.receiveFailed e))
  | _ => none

/-- The append of the packet of a task has ended: its session goes on, and what became of the packet
is noted. -/
def packetAppended (s : Service) (task : Nat) (c : Connection) (packet rest : Bytes)
    (result : Except LogError Unit) : Service :=
  (s.setSession task (c.session.appended rest result)).note <|
    match result with
    | .ok () => .appended packet.length
    | .error e => .packetDropped c.peer e

/-- The packet of a task is appended to the log. -/
def append? (s : Service) (task : Nat) : Option Service := do
  let c ← s.serving? task
  match c.session.phase with
  | .appending packet rest =>
      let (result, storage) := s.log.appendAsync packet s.storage
      some ({ s with storage }.packetAppended task c packet rest result)
  | _ => none

/-- The snapshot that answers a packet is taken. -/
def snapshot? (s : Service) (task : Nat) : Option Service := do
  let c ← s.serving? task
  match c.session.phase with
  | .snapshotting rest =>
      some (s.setSession task (c.session.snapshotTaken rest (s.log.snapshot s.storage)))
  | _ => none

/-- The peer accepts some bytes of a reply. -/
def send? (s : Service) (task count : Nat) : Option Service := do
  let c ← s.serving? task
  match c.session.phase with
  | .replying left rest =>
      if count ≤ left.length then some (s.setSession task (c.session.sent left rest count))
      else none
  | _ => none

/-- Sending fails, as long as something is left to send. -/
def failSend? (s : Service) (task : Nat) (e : IoError) : Option Service := do
  let c ← s.serving? task
  match c.session.phase with
  | .replying (_ :: _) _ => some (s.setSession task (c.session.sendFailed e))
  | _ => none

/-- A handler that waits for its peer notices that it was asked to close. -/
def heedClose? (s : Service) (task : Nat) : Option Service := do
  let c ← s.serving? task
  if c.closing then
    match c.session.phase with
    | .reading | .replying _ _ => some (s.setSession task c.session.closed)
    | _ => none
  else none

/-- A handler breaks down. -/
def crash? (s : Service) (task : Nat) : Option Service := do
  let _ ← s.serving? task
  some { s with connections := s.connections.modify task ({ · with crashed := true }) }

/-- What is noted when a session is over; a handler that broke down says nothing. -/
def farewell (c : Connection) : List Notice :=
  match c.crashed, c.session.ending? with
  | false, some ending => [.sessionEnded c.peer ending, .connectionClosed c.peer]
  | _, _ => []

/-- A handler whose session is over lets go of its connection and posts its key. -/
def leave? (s : Service) (task : Nat) : Option Service := do
  let c ← s.connections[task]?
  if c.stage = .serving ∧ c.isOver then
    some
      { s with
        connections := s.connections.modify task ({ · with stage := .leaving })
        registry := s.registry.post c.key
        journal := (farewell c).reverse ++ s.journal }
  else none

/-- The task of a handler ends, and its permit goes back. -/
def endTask? (s : Service) (task : Nat) : Option Service := do
  let c ← s.connections[task]?
  if c.stage = .leaving then
    some { s.returnPermit with
      connections := s.connections.modify task ({ · with stage := .ended }) }
  else none

/-! ## Timestamps -/

/-- Time passes. -/
def pass (s : Service) (duration : Nat) : Service := { s with now := s.now + duration }

/-- Puts a timestamp task in place of what it was before, and notes it if it has stopped. -/
def setTimestamp (s : Service) (task : Nat) (next : TimestampTask) : Service :=
  let s := { s with timestamps := s.timestamps.set task next }
  if next.phase = .stopped then s.note .timestampsStopped else s

/-- A timestamp task that is starting or waiting is polled. -/
def pollTimestamp? (s : Service) (task : Nat) (timerFirst : Bool) : Option Service := do
  let t ← s.timestamps[task]?
  let next := t.poll s.now s.flag.triggered timerFirst
  match t.phase with
  | .starting => some ((s.note (.timestampsStarted (t.interval / 1000))).setTimestamp task next)
  | .waiting _ => some (s.setTimestamp task next)
  | _ => none

/-- The append that a timestamp task has set off has ended: the task goes on, and what became of the
record is noted. -/
def recordAppended (s : Service) (task : Nat) (t : TimestampTask) (record : Bytes)
    (timerFirst : Bool) (result : Except LogError Unit) : Service :=
  let s := match result with
    | .ok () => (s.note (.appended record.length)).note (.timestampWritten record)
    | .error e => s.note (.timestampLost e)
  s.setTimestamp task (t.appendDone s.now s.flag.triggered timerFirst)

/-- The append that a timestamp task has set off is carried out, at a moment on the clock. -/
def writeTimestamp? (s : Service) (task : Nat) (moment : Moment) (timerFirst : Bool) :
    Option Service := do
  let t ← s.timestamps[task]?
  match t.phase with
  | .appending =>
      let (result, storage) := s.log.appendAsync moment.record s.storage
      some ({ s with storage }.recordAppended task t moment.record timerFirst result)
  | _ => none

/-! ## Teardown -/

/-- Whether somebody waits for the teardown. -/
def isAwaited (s : Service) : Bool :=
  s.callers.contains .waiting || match s.acceptor with
    | .tearingDown _ => true
    | _ => false

/-- Asks the handlers of some tasks to close. -/
def askToClose (s : Service) (tasks : List Nat) : Service :=
  { s with connections := tasks.foldl (fun cs task =>
      cs.modify task ({ · with closing := true })) s.connections }

/-- The teardown drains the registry and asks every handler it finds there to close. -/
def beginTeardown? (s : Service) : Option Service :=
  if s.isAwaited ∧ s.teardown = .notStarted then
    let s := s.lockRegistry
    let (entries, registry) := s.registry.drain
    let tasks := entries.map (·.task)
    some { s.askToClose tasks with registry, teardown := .joiningHandlers tasks tasks.length }
  else none

/-- The handler that the teardown waits for has ended, or there is none left to wait for. In that
case the timestamp task is taken out of its slot. -/
def joinHandler? (s : Service) : Option Service :=
  match s.teardown with
  | .joiningHandlers (task :: rest) count => do
      let c ← s.connections[task]?
      if c.stage = .ended then
        let s := if c.crashed then s.note (.handlerDied c.peer) else s
        some { s with teardown := .joiningHandlers rest count }
      else none
  | .joiningHandlers [] count =>
      some { s.note (.handlersJoined count) with
        teardown := .joiningTimestamps s.slot, slot := none }
  | _ => none

/-- The timestamp task that the teardown waits for has ended, or there is none. -/
def joinTimestamp? (s : Service) : Option Service :=
  match s.teardown with
  | .joiningTimestamps none => some { s with teardown := .removing }
  | .joiningTimestamps (some task) => do
      let t ← s.timestamps[task]?
      if t.isDone then
        let s := if t.phase = .dead then s.note .timestampsDied else s
        some { s with teardown := .removing }
      else none
  | _ => none

/-- What is noted of the removal of the file. -/
def removalNotices (path : Path) : Except LogError Bool → List Notice
  | .ok true => [.fileRemoved path, .cleanedUp true]
  | .ok false => [.cleanedUp false]
  | .error e => (e.source?.map (Notice.fileNotRemoved path)).toList

/-- The removal of the file has ended, well or badly, and with it the teardown. -/
def fileRemoved (s : Service) (result : Except LogError Bool) : Service :=
  let path := s.config.dataFile
  let notices := removalNotices path result ++ [.shutdownComplete path]
  { s with teardown := .done, journal := notices.reverse ++ s.journal }

/-- The file is removed. -/
def removeFile? (s : Service) : Option Service :=
  match s.teardown with
  | .removing =>
      let (result, storage) := s.log.remove s.storage
      some ({ s with storage }.fileRemoved result)
  | _ => none

end Service

end PacketLog
