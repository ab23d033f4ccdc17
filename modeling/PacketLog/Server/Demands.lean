import PacketLog.Server.Service

/-! # What the service waits for

The parts of a service that cannot get on by themselves need something from outside: a connection,
time, or a peer that sends or takes bytes (`Service.demands`), or something done with the data file
(`Service.errands`). Whoever does the latter reports what became of it (`Service.report?`), so that
a service can be run on files that are kept elsewhere as well as on its own.
-/

namespace PacketLog

/-- Something that a part of the service waits for: a connection or resources, which the acceptor
hopes for after a while, bytes for a task to read, their delivery, or an instant. -/
inductive Demand
  | connection
  | resources (duration : Nat)
  | bytes (task size : Nat)
  | delivery (task : Nat) (left : Bytes)
  | instant (task deadline : Nat)
  deriving DecidableEq, Repr

/-- Something to be done with the data file: the packet of a task is to be appended, a snapshot to
be taken to answer it, a timestamp record to be appended, or the file to be removed. -/
inductive Errand
  | append (task : Nat) (packet : Bytes)
  | snapshot (task : Nat)
  | record (task : Nat)
  | removal
  deriving DecidableEq, Repr

/-- What became of an errand. -/
inductive Report
  | appended (task : Nat) (result : Except LogError Unit)
  | snapshotTaken (task : Nat) (result : Except LogError Bytes)
  | recordAppended (task : Nat) (record : Bytes) (timerFirst : Bool) (result : Except LogError Unit)
  | removed (result : Except LogError Bool)

namespace Service

/-- How long the acceptor waits for resources, in milliseconds. -/
def backOff : Nat := 100

/-- What the acceptor waits for. -/
def acceptorDemands (s : Service) : List Demand :=
  match s.acceptor with
  | .accepting => [.connection]
  | .backingOff => [.resources backOff]
  | _ => []

/-- What the handler of a task waits for. -/
def handlerDemand? (s : Service) (task : Nat) : Option Demand := do
  let c ← s.serving? task
  match c.session.phase with
  | .reading => some (.bytes task c.session.readSize)
  | .replying (first :: left) _ => some (.delivery task (first :: left))
  | _ => none

/-- What a timestamp task waits for. -/
def timestampDemand? (s : Service) (task : Nat) : Option Demand := do
  let t ← s.timestamps[task]?
  match t.phase with
  | .waiting deadline => some (.instant task deadline)
  | _ => none

/-- All that is waited for. -/
def demands (s : Service) : List Demand :=
  s.acceptorDemands ++ (List.range s.connections.length).filterMap s.handlerDemand? ++
    (List.range s.timestamps.length).filterMap s.timestampDemand?

/-- What the handler of a task wants done with the data file. -/
def handlerErrand? (s : Service) (task : Nat) : Option Errand := do
  let c ← s.serving? task
  match c.session.phase with
  | .appending packet _ => some (.append task packet)
  | .snapshotting _ => some (.snapshot task)
  | _ => none

/-- What a timestamp task wants done with the data file. -/
def timestampErrand? (s : Service) (task : Nat) : Option Errand := do
  let t ← s.timestamps[task]?
  match t.phase with
  | .appending => some (.record task)
  | _ => none

/-- All that is to be done with the data file. -/
def errands (s : Service) : List Errand :=
  (List.range s.connections.length).filterMap s.handlerErrand? ++
    (List.range s.timestamps.length).filterMap s.timestampErrand? ++
    if s.teardown = .removing then [.removal] else []

/-- Somebody reports what became of an errand; nobody listens to reports of anything else. -/
def report? (s : Service) : Report → Option Service
  | .appended task result => do
      let c ← s.serving? task
      match c.session.phase with
      | .appending packet rest => some (s.packetAppended task c packet rest result)
      | _ => none
  | .snapshotTaken task result => do
      let c ← s.serving? task
      match c.session.phase with
      | .snapshotting rest => some (s.setSession task (c.session.snapshotTaken rest result))
      | _ => none
  | .recordAppended task record timerFirst result => do
      let t ← s.timestamps[task]?
      match t.phase with
      | .appending => some (s.recordAppended task t record timerFirst result)
      | _ => none
  | .removed result => if s.teardown = .removing then some (s.fileRemoved result) else none

end Service

end PacketLog
