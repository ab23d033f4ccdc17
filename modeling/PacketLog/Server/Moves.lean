import PacketLog.Server.Demands
import PacketLog.Session.Conversation

/-! # The moves of the service

`Service.step` makes one move, if the part that it is about is ready for it, and `Service.Reachable`
says that a row of moves leads from one state of the service to another. `Service.settle` makes the
moves that need nothing from outside, one after another. `Service.movesLeft` is how many more of
them there can be: each part has a way to go until it waits for something from outside. -/

namespace PacketLog

/-! ## How far each part is from waiting -/

/-- The moves that the handler of a connection can still make before it waits for its peer. Once its
session is over, it leaves and its task ends. -/
def Connection.movesLeft (c : Connection) : Nat :=
  match c.stage with
  | .serving => (if c.crashed then 0 else Conversation.phaseWork c.session.phase) + 2
  | .leaving => 1
  | .ended => 0

/-- The moves that a timestamp task can still make before it waits for an instant, at the time
`now`. Setting the flag ends every wait. -/
def TimestampTask.movesLeft (now : Nat) (t : TimestampTask) : Nat :=
  match t.phase with
  | .starting | .appending => 2
  | .waiting deadline => if deadline ≤ now then 3 else 1
  | .stopped | .dead => 0

/-- The moves that the acceptor can still make. -/
def Acceptor.movesLeft : Acceptor → Nat
  | checking => 5
  | awaitingPermit => 4
  | accepting | backingOff => 3
  | leaving _ => 2
  | tearingDown _ => 1
  | idle | returned _ => 0

/-- The moves that the teardown can still make, with a number of handlers registered when it
begins. -/
def Teardown.movesLeft (registered : Nat) : Teardown → Nat
  | notStarted => registered + 4
  | joiningHandlers awaited _ => awaited.length + 3
  | joiningTimestamps _ => 2
  | removing => 1
  | done => 0

/-! ## Moves -/

/-- What can happen next: somebody asks for shutdown or is told that it is complete, the acceptor,
the handler of a task or a timestamp task gets on, time passes, or the teardown gets on. -/
inductive Move
  | trigger
  | catchSignal (signal : Signal)
  | callShutdown
  | returnCaller (caller : Nat)
  | run
  | startTimestamps
  | checkFlag
  | acquire
  | accept (peer : SocketAddress)
  | failAccept (error : IoError)
  | resume
  | heedFlag
  | closeListener
  | finishRun
  | receive (task : Nat) (bytes : Bytes)
  | failReceive (task : Nat) (error : IoError)
  | append (task : Nat)
  | snapshot (task : Nat)
  | send (task count : Nat)
  | failSend (task : Nat) (error : IoError)
  | heedClose (task : Nat)
  | crash (task : Nat)
  | leave (task : Nat)
  | endTask (task : Nat)
  | pass (duration : Nat)
  | pollTimestamp (task : Nat) (timerFirst : Bool)
  | writeTimestamp (task : Nat) (moment : Moment) (timerFirst : Bool)
  | beginTeardown
  | joinHandler
  | joinTimestamp
  | removeFile

namespace Service

/-- Makes a move. -/
def step (s : Service) : Move → Option Service
  | .trigger => some s.trigger.2
  | .catchSignal signal => s.catchSignal? signal
  | .callShutdown => some s.callShutdown
  | .returnCaller caller => s.returnCaller? caller
  | .run => s.run?
  | .startTimestamps => some s.startTimestamps
  | .checkFlag => s.checkFlag?
  | .acquire => s.acquire?
  | .accept peer => s.accept? peer
  | .failAccept e => s.failAccept? e
  | .resume => s.resume?
  | .heedFlag => s.heedFlag?
  | .closeListener => s.closeListener?
  | .finishRun => s.finishRun?
  | .receive task bytes => s.receive? task bytes
  | .failReceive task e => s.failReceive? task e
  | .append task => s.append? task
  | .snapshot task => s.snapshot? task
  | .send task count => s.send? task count
  | .failSend task e => s.failSend? task e
  | .heedClose task => s.heedClose? task
  | .crash task => s.crash? task
  | .leave task => s.leave? task
  | .endTask task => s.endTask? task
  | .pass duration => some (s.pass duration)
  | .pollTimestamp task timerFirst => s.pollTimestamp? task timerFirst
  | .writeTimestamp task moment timerFirst => s.writeTimestamp? task moment timerFirst
  | .beginTeardown => s.beginTeardown?
  | .joinHandler => s.joinHandler?
  | .joinTimestamp => s.joinTimestamp?
  | .removeFile => s.removeFile?

/-- What a row of moves leads to. -/
inductive Reachable (start : Service) : Service → Prop
  | refl : Reachable start start
  | step {s next : Service} (move : Move) (before : Reachable start s)
      (moved : s.step move = some next) : Reachable start next

/-- Whether polling a timestamp task gets it any further. -/
def isDue (s : Service) (t : TimestampTask) : Bool :=
  match t.phase with
  | .starting => true
  | .waiting deadline => s.flag.triggered || deadline ≤ s.now
  | _ => false

/-- The poll of a timestamp task that gets it further. -/
def pollMove? (s : Service) (task : Nat) : Option Move := do
  let t ← s.timestamps[task]?
  if s.isDue t then some (.pollTimestamp task false) else none

/-- The move of a handler that is through with a reply without bytes. -/
def emptyReplyMove? (s : Service) (task : Nat) : Option Move := do
  let c ← s.serving? task
  match c.session.phase with
  | .replying [] _ => some (.send task 0)
  | _ => none

/-- The moves that need nothing from outside but the time on the clock: those of the timestamp
tasks, of the acceptor, of the handlers as far as they need neither their peers nor the data file,
of the teardown, and of those who wait for it. A handler that was asked to close does so first. -/
def quietMoves (s : Service) : List Move :=
  let tasks := List.range s.connections.length
  (List.range s.timestamps.length).filterMap s.pollMove? ++
    [.checkFlag, .heedFlag, .acquire, .closeListener] ++ tasks.map .heedClose ++
    tasks.filterMap s.emptyReplyMove? ++ tasks.map .leave ++ tasks.map .endTask ++
    [.beginTeardown, .joinHandler, .joinTimestamp, .finishRun] ++
    (List.range s.callers.length).map .returnCaller

/-- The move that does an errand, at a moment on the clock. -/
def errandMove (moment : Moment) : Errand → Move
  | .append task _ => .append task
  | .snapshot task => .snapshot task
  | .record task => .writeTimestamp task moment false
  | .removal => .removeFile

/-- The moves that need nothing from outside but the time, on a service that keeps its own files. -/
def inwardMoves (s : Service) (moment : Moment) : List Move :=
  s.quietMoves ++ s.errands.map (errandMove moment)

/-- Makes at most `most` moves of a kind, each time the first that is possible. -/
def makeMoves (kind : Service → List Move) (s : Service) : (most : Nat) → Service
  | 0 => s
  | most + 1 =>
      match (kind s).findSome? s.step with
      | none => s
      | some next => makeMoves kind next most

/-- The moves that need nothing from outside and can still be made. -/
def movesLeft (s : Service) : Nat :=
  s.acceptor.movesLeft + s.teardown.movesLeft s.registry.size + s.callers.count .waiting +
    (s.timestamps.map (·.movesLeft s.now)).foldr (· + ·) 0 +
    (s.connections.map Connection.movesLeft).foldr (· + ·) 0

/-- Makes the moves that need nothing from outside until none is possible. -/
def settle (s : Service) (moment : Moment) : Service :=
  s.makeMoves (·.inwardMoves moment) s.movesLeft

/-- Makes the moves that need nothing from outside, and no file either, until none is possible. -/
def getOn (s : Service) : Service := s.makeMoves quietMoves s.movesLeft

end Service

end PacketLog
