import PacketLog.Connection.Handler
import PacketLog.Connection.Registry

/-! # Handlers under a registry

An `Ensemble` is a registry with the handlers it has started, numbered in that order, those who can
tell a handler to finish, and those who wait for all handlers to end. After every operation each
handler runs as far as it gets; one that has ended posts its key.
-/

namespace PacketLog

/-- Something a handler made heard. -/
structure HandlerEvent where
  word : Word
  key : Nat
  port : Nat
  deriving DecidableEq, Repr

/-- A registry (until it is dropped) with its handlers, the handler that each name tells to finish,
and the handlers that each join in the background waits for. -/
structure Ensemble where
  registry : Option Registry
  handlers : List Handler
  names : List (Nat × Nat)
  joins : List (List Nat)
  deriving Repr

/-- What became of an attempt to start a handler. -/
inductive Spawned
  | key (key : Nat)
  | refused
  | brokeDown
  deriving DecidableEq, Repr

namespace Ensemble

/-- A registry without handlers. -/
def empty : Ensemble := ⟨some .empty, [], [], []⟩

/-- Posts the key of a handler that has given up its guard. -/
def post (e : Ensemble) (key : Nat) : Ensemble :=
  { e with registry := e.registry.map (·.post key) }

/-- Runs one handler as far as it gets. -/
def run (e : Ensemble) (task : Nat) : List HandlerEvent × Ensemble :=
  match e.handlers[task]? with
  | none => ([], e)
  | some handler =>
      let (heard, after) := handler.advance
      let events := heard.map (⟨·, handler.key, handler.port⟩)
      if after.isDone && after.guarded then
        (events,
          { e with handlers := e.handlers.set task { after with guarded := false } }.post after.key)
      else (events, { e with handlers := e.handlers.set task after })

/-- Runs handlers one after another. -/
def runAll (e : Ensemble) : List Nat → List HandlerEvent × Ensemble
  | [] => ([], e)
  | task :: rest =>
      let (first, e) := e.run task
      let (others, e) := e.runAll rest
      (first ++ others, e)

/-- Sends handlers a signal. -/
def signal (e : Ensemble) (change : Handler → Handler) (tasks : List Nat) : Ensemble :=
  { e with handlers := tasks.foldl (fun handlers task => handlers.modify task change) e.handlers }

/-- Tells handlers that their connections are closed. -/
def sendClose (e : Ensemble) (tasks : List Nat) : List HandlerEvent × Ensemble :=
  (e.signal ({ · with closeSent := true }) tasks).runAll tasks

/-- Tells a handler to finish. -/
def sendFinish (e : Ensemble) (task : Nat) : List HandlerEvent × Ensemble :=
  (e.signal ({ · with finishSent := true }) [task]).run task

/-- Takes the registry's lock, if there still is a registry. -/
def lock (e : Ensemble) : Ensemble := { e with registry := e.registry.map (·.lock) }

/-- Gives a name to a handler. Whoever had the name before is told to finish. -/
def name (e : Ensemble) (name task : Nat) : Option Nat × Ensemble :=
  (e.names.lookup name,
    { e with names := e.names.filter (·.1 != name) ++ [(name, task)] })

/-- Starts a handler for a peer under a name. -/
def spawn (e : Ensemble) (name : Nat) (peer : SocketAddress) (mode : HandlerMode) :
    Spawned × List HandlerEvent × Ensemble :=
  let e := e.lock
  match e.registry, e.registry.bind (·.offer?) with
  | some registry, some key =>
      if mode = .breakWhenMade then (.brokeDown, [], e.post key)
      else
        let task := e.handlers.length
        let handler : Handler := ⟨key, peer.port, mode.acts, false, false, mode != .giveUpGuard⟩
        let e : Ensemble :=
          { e with
            registry := some (registry.register ⟨peer, task⟩), handlers := e.handlers ++ [handler] }
        let e := if handler.guarded then e else e.post key
        let (replaced, e) := e.name name task
        let (heard, e) := e.run task
        let (released, e) := match replaced with
          | some task => e.sendFinish task
          | none => ([], e)
        (.key key, heard ++ released, e)
  | _, _ => (.refused, [], e)

/-- Tells the handlers of some names to finish, one after another. -/
def finish (e : Ensemble) : List Nat → List HandlerEvent × Ensemble
  | [] => ([], e)
  | name :: rest =>
      let (first, e) := match e.names.lookup name with
        | some task => { e with names := e.names.filter (·.1 != name) }.sendFinish task
        | none => ([], e)
      let (others, e) := e.finish rest
      (first ++ others, e)

/-- Drains the registry and closes every connection in it. Answers the handlers to wait for. -/
def startJoin (e : Ensemble) : List Nat × List HandlerEvent × Ensemble :=
  match e.lock.registry with
  | none => ([], [], e)
  | some registry =>
      let (entries, registry) := registry.drain
      let tasks := entries.map Registration.task
      let (heard, e) := { e with registry := some registry }.sendClose tasks
      (tasks, heard, e)

/-- Whether all of some handlers have ended. -/
def allDone (e : Ensemble) (tasks : List Nat) : Bool :=
  tasks.all fun task => e.handlers[task]?.all (·.isDone)

/-- Joins all handlers: how many they are, unless one of them does not end. -/
def joinAll (e : Ensemble) : Option Nat × List HandlerEvent × Ensemble :=
  let (tasks, heard, e) := e.startJoin
  (if e.allDone tasks then some tasks.length else none, heard, e)

/-- Joins all handlers in the background. -/
def joinInBackground (e : Ensemble) : List HandlerEvent × Ensemble :=
  let (tasks, heard, e) := e.startJoin
  (heard, { e with joins := e.joins ++ [tasks] })

/-- Drops the registry, which closes every connection in it. -/
def drop (e : Ensemble) : List HandlerEvent × Ensemble :=
  match e.registry with
  | none => ([], e)
  | some registry =>
      { e with registry := none }.sendClose (registry.entries.map Registration.task)

/-- Tells every handler that still has a name to finish, in the order of their names. -/
def release (e : Ensemble) : List HandlerEvent × Ensemble :=
  e.finish ((e.names.map (·.1)).mergeSort (· ≤ ·))

end Ensemble

end PacketLog
