import PacketLog.Net.Isolation
import PacketLog.Server.Moves

/-! # The service on a host without a network

A `Trial` is a service on a host where nobody can connect. After each thing done to it, it makes all
the moves it can make by itself. Accepting finds nothing until the listener is broken: from then on
it fails, first in whatever ways were planned. Somebody who waits does so for `patience`.

Waiting in vain has a trace. Where no timestamp records are written, the host tries out the data
file by appending nothing to it, which creates the file.
-/

namespace PacketLog

/-- A service on a host without a network, the failures planned for the next attempts to accept, and
whether the listener is broken. -/
structure Trial where
  service : Service
  failures : List Errno
  broken : Bool

/-- What waiting for the service to return comes to. -/
inductive Joined
  | notRunning
  | returned (result : Except IoError Unit)
  | timeout

namespace Trial

/-- Binds the configured address and sets up a service; nothing when it cannot be set up. -/
def prepare (config : Config) (storage : Storage) : Except IoError (Option Trial) :=
  (Isolation.bind config.listen).map fun address =>
    (Service.new? config address storage).map fun service =>
      { service, failures := [], broken := false }

/-- The moment that a clock set to the beginning of 1970 shows. -/
def moment (t : Trial) : Moment := ⟨t.service.now / 1000, 0, 0⟩

/-- Lets the service get on, with at most `rounds` failures to accept. -/
def settleWithin (t : Trial) : (rounds : Nat) → Trial
  | 0 => t
  | rounds + 1 =>
      let service := t.service.settle t.moment
      if t.broken then
        match service.failAccept? (.os (t.failures.headD Isolation.brokenListener)) with
        | some service => { t with service, failures := t.failures.tail }.settleWithin rounds
        | none => { t with service }
      else { t with service }

/-- Lets the service get on until it waits for something from outside. The failure of a broken
listener ends the acceptor, so that no more failures can come than are planned and one. -/
def settle (t : Trial) : Trial := t.settleWithin (t.failures.length + 2)

/-- Does something to the service and lets it get on. -/
def act (t : Trial) (change : Service → Service) : Trial :=
  { t with service := change t.service }.settle

/-- Starts the service. -/
def run (t : Trial) : Trial := t.act fun s => s.run?.getD s

/-- Sets the flag, and answers whether this call was the one to set it. -/
def trigger (t : Trial) : Bool × Trial :=
  let (flipped, service) := t.service.trigger
  (flipped, { t with service }.settle)

/-- Asks for shutdown several times at once. -/
def shutdown (t : Trial) (calls : Nat) : Trial :=
  t.act fun s => calls.repeat Service.callShutdown s

/-- How many of those who asked for shutdown were told that it is complete. -/
def returnedCalls (t : Trial) : Nat := t.service.callers.count .returned

/-- Starts the timestamp task. -/
def startTimestamps (t : Trial) : Trial := t.act Service.startTimestamps

/-- Plans failures for the next attempts to accept. -/
def planFailures (t : Trial) (failures : List Errno) : Trial :=
  { t with failures := t.failures ++ failures }

/-- Breaks the listener. -/
def breakListener (t : Trial) : Trial := { t with broken := true }.settle

/-- The failure of connecting to the service. -/
def connectError : IoError := .os Isolation.connectError

/-- The failure of binding the address a second time, as long as it is listened on. -/
def rebindError? (t : Trial) : Option IoError :=
  match t.broken, t.service.acceptor with
  | true, _ | _, .tearingDown _ | _, .returned _ => none
  | _, _ => some (.os Isolation.rebindError)

/-! ## Waiting -/

/-- How often the time of one back-off passes while somebody waits. -/
def patience : Nat := 20

/-- Lets the time of one back-off pass. -/
def pause (t : Trial) : Trial :=
  t.act fun s =>
    let s := s.pass Service.backOff
    s.resume?.getD s

/-- Lets time pass for somebody who waits. -/
def wait (t : Trial) : Trial := patience.repeat pause t

/-- The host tries out the data file of a service that writes no timestamp records. -/
def tryDataFile (t : Trial) : Trial :=
  let s := t.service
  if s.config.timestampInterval.isNone ∧ !s.flag.triggered then
    { t with service := { s with storage := (s.log.append [] s.storage).2 } }
  else t

/-- Waits for the service to return. -/
def join (t : Trial) : Joined × Trial :=
  match t.service.acceptor with
  | .idle => (.notRunning, t)
  | .returned result => (.returned result, t)
  | _ =>
      match t.wait.service.acceptor with
      | .returned result => (.returned result, t.wait)
      | _ => (.timeout, t.wait.tryDataFile)

/-- How many handlers are registered. -/
def registered (t : Trial) : Nat := t.service.registry.lock.size

/-- How many handlers were started and have not ended. -/
def live (t : Trial) : Nat := t.service.connections.countP (·.stage != .ended)

/-- Waits until some number of handlers is registered. -/
def awaitHandlers (t : Trial) (count : Nat) : Nat × Trial :=
  if t.registered = count then (count, t)
  else if t.wait.registered = count then (count, t.wait)
  else (t.wait.registered, t.wait.tryDataFile)

end Trial

end PacketLog
