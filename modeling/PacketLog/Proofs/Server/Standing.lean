import PacketLog.Proofs.Connection.Roster
import PacketLog.Proofs.Server.Occurrences

/-! # How everybody stands

What becomes of a service depends on little of it: the flag, the registry, how far each handler and
the acceptor have come, the permits, the timestamp tasks, and the teardown with those who wait for
it. This is its standing (`Service.standing`). `Standing.Step` says what can become of a standing
next, and every move of a service is such a step or the end of its teardown
(`Service.step_standing`), so that what the steps keep true holds of all services, whatever is read,
written and noted.
-/

namespace PacketLog

/-- How a handler stands: the peer it serves, the key it was registered under, how far its task has
come, and whether its session is over. -/
structure Seat where
  peer : SocketAddress
  key : Nat
  stage : HandlerStage
  finished : Bool
  deriving DecidableEq, Repr

/-- How everybody stands. -/
structure Standing where
  flag : Bool
  registry : Registry
  seats : List Seat
  permits : Option Nat
  acceptor : Acceptor
  timestamps : List TimestampTask
  slot : Option Nat
  teardown : Teardown
  callers : List Caller

/-- How a connection's handler stands. -/
def Connection.seat (c : Connection) : Seat := ⟨c.peer, c.key, c.stage, c.isOver⟩

/-- The guard of a handler, which it holds as long as it drives its session. -/
def Seat.guard (seat : Seat) : Guard := ⟨seat.key, seat.peer, seat.stage == .serving⟩

/-- How everybody stands in a service. -/
def Service.standing (s : Service) : Standing where
  flag := s.flag.triggered
  registry := s.registry
  seats := s.connections.map Connection.seat
  permits := s.permits
  acceptor := s.acceptor
  timestamps := s.timestamps
  slot := s.slot
  teardown := s.teardown
  callers := s.callers

namespace Standing

/-- A permit comes back. -/
def returnPermit (t : Standing) : Standing := { t with permits := t.permits.map (· + 1) }

/-- The seat of a task changes. -/
def setSeat (t : Standing) (task : Nat) (seat : Seat) : Standing :=
  { t with seats := t.seats.set task seat }

/-- Timestamps may be started as long as the flag is not set. -/
inductive Starts (t : Standing) : Standing → Prop
  | not : Starts t t
  | started {task : TimestampTask} (early : t.flag = false) :
      Starts t { t with
        timestamps := t.timestamps ++ [task], slot := some t.timestamps.length }

/-- Somebody waits for the teardown. -/
def Awaited (t : Standing) : Prop :=
  .waiting ∈ t.callers ∨ ∃ result, t.acceptor = .tearingDown result

/-- The tasks that a lock finds in the registry. -/
def registered (t : Standing) : List Nat := t.registry.lock.entries.map Registration.task

/-- What can become of a standing next, but for the end of the teardown. -/
inductive Step (t : Standing) : Standing → Prop
  | stay : Step t t
  | trigger : Step t { t with flag := true }
  | call : Step t { t with flag := true, callers := t.callers ++ [.waiting] }
  | returnCaller {caller : Nat} (waiting : t.callers[caller]? = some .waiting)
      (done : t.teardown = .done) : Step t { t with callers := t.callers.set caller .returned }
  | startTimestamps {next : Standing} (starts : t.Starts next) : Step t next
  | run {next : Standing} (idle : t.acceptor = .idle) (starts : t.Starts next) :
      Step t { next with acceptor := .checking }
  | checkFlag (checking : t.acceptor = .checking) :
      Step t { t with acceptor := if t.flag then .leaving (.ok ()) else .awaitingPermit }
  | acquire {left : Option Nat} (awaiting : t.acceptor = .awaitingPermit)
      (permit : t.permits = left.map (· + 1)) :
      Step t { t with acceptor := .accepting, permits := left }
  | enroll {peer : SocketAddress} {key : Nat} (accepting : t.acceptor = .accepting)
      (offered : t.registry.lock.offer? = some key) :
      Step t { t with
        registry := (t.registry.lock.register ⟨peer, t.seats.length⟩).lock
        seats := t.seats ++ [⟨peer, key, .serving, false⟩]
        acceptor := .checking }
  | refuse (accepting : t.acceptor = .accepting) (refused : t.registry.lock.offer? = none) :
      Step t { t.returnPermit with registry := t.registry.lock, acceptor := .checking }
  | retry (accepting : t.acceptor = .accepting) :
      Step t { t.returnPermit with acceptor := .checking }
  | pause (accepting : t.acceptor = .accepting) : Step t { t with acceptor := .backingOff }
  | fail {e : IoError} (accepting : t.acceptor = .accepting) :
      Step t { t.returnPermit with acceptor := .leaving (.error e) }
  | resume (pausing : t.acceptor = .backingOff) :
      Step t { t.returnPermit with acceptor := .checking }
  | giveUpWaiting (flag : t.flag) (awaiting : t.acceptor = .awaitingPermit) :
      Step t { t with acceptor := .leaving (.ok ()) }
  | giveUpPermit (flag : t.flag) (holding : t.acceptor.holdsPermit) :
      Step t { t.returnPermit with acceptor := .leaving (.ok ()) }
  | closeListener {result : Except IoError Unit} (leaving : t.acceptor = .leaving result) :
      Step t { t with flag := true, acceptor := .tearingDown result }
  | finishRun {result : Except IoError Unit} (waiting : t.acceptor = .tearingDown result)
      (done : t.teardown = .done) : Step t { t with acceptor := .returned result }
  | work {task : Nat} {seat : Seat} {finished : Bool} (found : t.seats[task]? = some seat)
      (serving : seat.stage = .serving) (going : seat.finished = false) :
      Step t (t.setSeat task { seat with finished })
  | leave {task : Nat} {seat : Seat} (found : t.seats[task]? = some seat)
      (serving : seat.stage = .serving) (finished : seat.finished) :
      Step t { t.setSeat task { seat with stage := .leaving } with
        registry := t.registry.post seat.key }
  | endTask {task : Nat} {seat : Seat} (found : t.seats[task]? = some seat)
      (leaving : seat.stage = .leaving) :
      Step t (t.returnPermit.setSeat task { seat with stage := .ended })
  | getOn {task : Nat} {timestamp next : TimestampTask}
      (found : t.timestamps[task]? = some timestamp) (running : timestamp.isDone = false) :
      Step t { t with timestamps := t.timestamps.set task next }
  | beginTeardown (awaited : t.Awaited) (notStarted : t.teardown = .notStarted) :
      Step t { t with
        registry := t.registry.lock.drain.2
        teardown := .joiningHandlers t.registered t.registered.length }
  | joinHandler {task count : Nat} {rest : List Nat} {seat : Seat}
      (joining : t.teardown = .joiningHandlers (task :: rest) count)
      (found : t.seats[task]? = some seat) (ended : seat.stage = .ended) :
      Step t { t with teardown := .joiningHandlers rest count }
  | takeTimestamps {count : Nat} (joined : t.teardown = .joiningHandlers [] count) :
      Step t { t with teardown := .joiningTimestamps t.slot, slot := none }
  | joinTimestamps {waited : Option Nat} (joining : t.teardown = .joiningTimestamps waited)
      (ended : ∀ task, waited = some task →
        ∃ timestamp, t.timestamps[task]? = some timestamp ∧ timestamp.isDone) :
      Step t { t with teardown := .removing }

/-- The end of the teardown: the file was removed. -/
def Finishes (t next : Standing) : Prop :=
  t.teardown = .removing ∧ next = { t with teardown := .done }

/-! ## The registry -/

/-- The registry with the guards of all handlers. A handler holds its guard until it leaves. -/
def roster (t : Standing) : Roster := ⟨t.registry, t.seats.map Seat.guard, none⟩

variable {t next : Standing}

/-- **What a step does to the registry** is what can be done to any registry. -/
theorem Step.roster (step : Step t next) :
    Relation.ReflTransGen Roster.Step t.roster next.roster := by
  -- A handler that keeps its guard, or has left already, changes nothing for the registry.
  have unchanged : ∀ {task : Nat} {seat after : Seat}, t.seats[task]? = some seat →
      after.guard = seat.guard → (t.setSeat task after).roster = t.roster := by
    intro task seat after found same
    have guards : (t.seats.set task after).map Seat.guard = t.seats.map Seat.guard :=
      Roster.map_set_of_same found same
    exact congrArg (fun guards => (⟨t.registry, guards, none⟩ : Roster)) guards
  cases step with
  | startTimestamps starts => cases starts <;> exact .refl
  | run idle starts => cases starts <;> exact .refl
  | @enroll peer key accepting offered =>
      have offer : t.roster.Step _ := @Roster.Step.offer t.roster key peer rfl offered
      have registered := (Relation.ReflTransGen.single offer).tail
        (@Roster.Step.register _ ⟨key, peer, true⟩ rfl)
      have counted := registered.tail (.count rfl)
      have count : t.roster.guards.length = t.seats.length := List.length_map _
      let seat : Seat := ⟨peer, key, .serving, false⟩
      have guards : (t.seats ++ [seat]).map Seat.guard = t.roster.guards ++ [⟨key, peer, true⟩] :=
        List.map_append
      rw [count, ← guards] at counted
      exact counted
  | refuse accepting refused => exact .single (.refuse rfl refused)
  | @work task seat finished found serving going =>
      have same : (t.setSeat task { seat with finished }).roster = t.roster := unchanged found rfl
      rw [same]
  | @leave task seat found serving finished =>
      have held : t.roster.guards[task]? = some seat.guard := by
        rw [Standing.roster, List.getElem?_map, found]
        rfl
      have dropped := Roster.Step.drop held (by rw [Seat.guard, serving]; rfl)
      have guards : (t.seats.set task { seat with stage := .leaving }).map Seat.guard =
          t.roster.guards.set task seat.guard.dropped := List.map_set
      rw [← guards] at dropped
      exact .single dropped
  | @endTask task seat found leaving =>
      have same : (t.returnPermit.setSeat task { seat with stage := .ended }).roster =
          (t.setSeat task { seat with stage := .ended }).roster := rfl
      rw [same, unchanged found (by rw [Seat.guard, Seat.guard, leaving]; rfl)]
  | beginTeardown awaited notStarted => exact .single (.join rfl)
  | _ => exact .refl

end Standing

namespace Service

variable {s next : Service}

/-! ## Moves as steps -/

private theorem standing_requestShutdown :
    s.requestShutdown.standing = { s.standing with flag := true } := by
  unfold requestShutdown
  dsimp only
  split <;> rfl

private theorem starts_startTimestamps : s.standing.Starts s.startTimestamps.standing := by
  unfold startTimestamps
  split
  · exact .not
  · split
    · exact .not
    · rename_i early
      exact .started (Bool.not_eq_true _ ▸ early)

private theorem step_catchSignal? {signal : Signal} (moved : s.catchSignal? signal = some next) :
    s.standing.Step next.standing := by
  unfold catchSignal? at moved
  split at moved
  · exact nomatch moved
  · obtain rfl := Option.some.inj moved
    exact .trigger

private theorem step_returnCaller? {caller : Nat} (moved : s.returnCaller? caller = some next) :
    s.standing.Step next.standing := by
  unfold returnCaller? at moved
  split at moved
  · rename_i told
    obtain rfl := Option.some.inj moved
    exact .returnCaller told.1 told.2
  · exact nomatch moved

/-! ### The acceptor -/

private theorem step_run? (moved : s.run? = some next) : s.standing.Step next.standing := by
  unfold run? at moved
  split at moved
  · rename_i idle
    obtain rfl := Option.some.inj moved
    exact .run idle (starts_startTimestamps (s := s.note (.listening s.address)))
  · exact nomatch moved

private theorem step_checkFlag? (moved : s.checkFlag? = some next) :
    s.standing.Step next.standing := by
  unfold checkFlag? at moved
  split at moved
  · rename_i checking
    obtain rfl := Option.some.inj moved
    exact .checkFlag checking
  · exact nomatch moved

private theorem step_acquire? (moved : s.acquire? = some next) : s.standing.Step next.standing := by
  unfold acquire? at moved
  split at moved
  · rename_i awaiting unlimited
    obtain rfl := Option.some.inj moved
    have none : s.standing.permits = s.permits.map (· + 1) := by rw [unlimited]; exact unlimited
    exact .acquire awaiting none
  · rename_i left awaiting permit
    obtain rfl := Option.some.inj moved
    have one : s.standing.permits = (some left).map (· + 1) := permit
    exact .acquire awaiting one
  · exact nomatch moved

private theorem step_accept? {peer : SocketAddress} (moved : s.accept? peer = some next) :
    s.standing.Step next.standing := by
  unfold accept? at moved
  split at moved
  · rename_i accepting
    obtain rfl := Option.some.inj moved
    unfold dispatch
    dsimp only
    split
    · rename_i refused
      exact .refuse accepting refused
    · rename_i key offered
      have enrolled := @Standing.Step.enroll s.standing peer key accepting offered
      have count : s.standing.seats.length = s.connections.length := List.length_map _
      let connection : Connection := ⟨peer, key, s.newSession, .serving, false, false⟩
      have seats : (s.connections ++ [connection]).map Connection.seat =
          s.standing.seats ++ [⟨peer, key, .serving, false⟩] := List.map_append
      rw [count, ← seats] at enrolled
      exact enrolled
  · exact nomatch moved

private theorem step_failAccept? {e : IoError} (moved : s.failAccept? e = some next) :
    s.standing.Step next.standing := by
  unfold failAccept? at moved
  split at moved
  · rename_i accepting
    cases verdict : AcceptVerdict.of e with
    | again =>
        rw [verdict] at moved
        obtain rfl := Option.some.inj moved
        exact .retry accepting
    | backOff =>
        rw [verdict] at moved
        obtain rfl := Option.some.inj moved
        exact .pause accepting
    | stop =>
        rw [verdict] at moved
        obtain rfl := Option.some.inj moved
        exact .fail accepting
  · exact nomatch moved

private theorem step_resume? (moved : s.resume? = some next) : s.standing.Step next.standing := by
  unfold resume? at moved
  split at moved
  · rename_i pausing
    obtain rfl := Option.some.inj moved
    exact .resume pausing
  · exact nomatch moved

private theorem step_heedFlag? (moved : s.heedFlag? = some next) :
    s.standing.Step next.standing := by
  unfold heedFlag? at moved
  split at moved
  · rename_i flag
    split at moved
    · rename_i awaiting
      obtain rfl := Option.some.inj moved
      exact .giveUpWaiting flag awaiting
    · rename_i accepting
      obtain rfl := Option.some.inj moved
      exact .giveUpPermit flag (congrArg Acceptor.holdsPermit accepting)
    · rename_i pausing
      obtain rfl := Option.some.inj moved
      exact .giveUpPermit flag (congrArg Acceptor.holdsPermit pausing)
    · exact nomatch moved
  · exact nomatch moved

private theorem step_closeListener? (moved : s.closeListener? = some next) :
    s.standing.Step next.standing := by
  unfold closeListener? at moved
  split at moved
  · rename_i result leaving
    obtain rfl := Option.some.inj moved
    have closed : { s.requestShutdown with acceptor := .tearingDown result }.standing =
        { s.standing with flag := true, acceptor := .tearingDown result } :=
      congrArg (fun t : Standing => { t with acceptor := .tearingDown result })
        standing_requestShutdown
    rw [closed]
    exact .closeListener leaving
  · exact nomatch moved

private theorem step_finishRun? (moved : s.finishRun? = some next) :
    s.standing.Step next.standing := by
  unfold finishRun? at moved
  split at moved
  · rename_i result waiting done
    obtain rfl := Option.some.inj moved
    exact .finishRun waiting done
  · exact nomatch moved

/-! ### Handlers -/

private theorem seats_modify {connections : List Connection} {task : Nat} {c : Connection}
    (found : connections[task]? = some c) (f : Connection → Connection) :
    (connections.modify task f).map Connection.seat =
      (connections.map Connection.seat).set task (f c).seat := by
  rw [List.modify_eq_set_getElem?, found]
  exact List.map_set

/-- Every connection has its seat. -/
theorem seat_of_connection {task : Nat} {c : Connection} (found : s.connections[task]? = some c) :
    s.standing.seats[task]? = some c.seat := by
  rw [standing, List.getElem?_map, found]
  rfl

/-- A connection that is served is there, its handler drives its session, and the session goes on.
-/
theorem seat_of_serving? {task : Nat} {c : Connection} (served : s.serving? task = some c) :
    s.connections[task]? = some c ∧ c.stage = .serving ∧ c.isOver = false := by
  obtain ⟨found, serving⟩ := Option.filter_eq_some_iff.mp served
  rw [Bool.and_eq_true, beq_iff_eq, Bool.not_eq_true'] at serving
  exact ⟨found, serving⟩

/-- A handler works on its session, which goes on or ends. -/
private theorem step_modify {task : Nat} {c : Connection} (served : s.serving? task = some c)
    {f : Connection → Connection} (same : (f c).seat = { c.seat with finished := (f c).isOver }) :
    s.standing.Step { s with connections := s.connections.modify task f }.standing := by
  obtain ⟨found, serving, going⟩ := seat_of_serving? served
  have set : { s with connections := s.connections.modify task f }.standing =
      s.standing.setSeat task { c.seat with finished := (f c).isOver } := by
    rw [← same]
    exact congrArg (fun seats => { s.standing with seats }) (seats_modify found f)
  rw [set]
  exact .work (seat_of_connection found) serving going

/-- What a served session does is a step of how everybody stands. -/
theorem step_setSession {task : Nat} {c : Connection} (served : s.serving? task = some c)
    (session : Session) : s.standing.Step (s.setSession task session).standing :=
  step_modify served rfl

private theorem step_receive? {task : Nat} {bytes : Bytes}
    (moved : s.receive? task bytes = some next) :
    s.standing.Step next.standing := by
  obtain ⟨c, served, moved⟩ := Option.bind_eq_some_iff.mp moved
  split at moved
  · split at moved
    · obtain rfl := Option.some.inj moved
      exact step_setSession served _
    · exact nomatch moved
  · exact nomatch moved

private theorem step_failReceive? {task : Nat} {e : IoError}
    (moved : s.failReceive? task e = some next) : s.standing.Step next.standing := by
  obtain ⟨c, served, moved⟩ := Option.bind_eq_some_iff.mp moved
  split at moved
  · obtain rfl := Option.some.inj moved
    exact step_setSession served _
  · exact nomatch moved

/-- However the append of a packet ends, its handler has worked on its session. -/
theorem step_packetAppended {task : Nat} {c : Connection} (served : s.serving? task = some c)
    (packet rest : Bytes) (result : Except LogError Unit) :
    s.standing.Step (s.packetAppended task c packet rest result).standing :=
  step_setSession served (c.session.appended rest result)

private theorem step_append? {task : Nat} (moved : s.append? task = some next) :
    s.standing.Step next.standing := by
  obtain ⟨c, served, moved⟩ := Option.bind_eq_some_iff.mp moved
  split at moved
  · rename_i packet rest appending
    obtain rfl := Option.some.inj moved
    exact step_packetAppended served packet rest (s.log.appendAsync packet s.storage).1
  · exact nomatch moved

private theorem step_snapshot? {task : Nat} (moved : s.snapshot? task = some next) :
    s.standing.Step next.standing := by
  obtain ⟨c, served, moved⟩ := Option.bind_eq_some_iff.mp moved
  split at moved
  · obtain rfl := Option.some.inj moved
    exact step_setSession served _
  · exact nomatch moved

private theorem step_send? {task count : Nat} (moved : s.send? task count = some next) :
    s.standing.Step next.standing := by
  obtain ⟨c, served, moved⟩ := Option.bind_eq_some_iff.mp moved
  split at moved
  · split at moved
    · obtain rfl := Option.some.inj moved
      exact step_setSession served _
    · exact nomatch moved
  · exact nomatch moved

private theorem step_failSend? {task : Nat} {e : IoError} (moved : s.failSend? task e = some next) :
    s.standing.Step next.standing := by
  obtain ⟨c, served, moved⟩ := Option.bind_eq_some_iff.mp moved
  split at moved
  · obtain rfl := Option.some.inj moved
    exact step_setSession served _
  · exact nomatch moved

private theorem step_heedClose? {task : Nat} (moved : s.heedClose? task = some next) :
    s.standing.Step next.standing := by
  obtain ⟨c, served, moved⟩ := Option.bind_eq_some_iff.mp moved
  split at moved
  · split at moved
    · obtain rfl := Option.some.inj moved
      exact step_setSession served _
    · obtain rfl := Option.some.inj moved
      exact step_setSession served _
    · exact nomatch moved
  · exact nomatch moved

private theorem step_crash? {task : Nat} (moved : s.crash? task = some next) :
    s.standing.Step next.standing := by
  obtain ⟨c, served, moved⟩ := Option.bind_eq_some_iff.mp moved
  obtain rfl := Option.some.inj moved
  exact step_modify served rfl

private theorem step_leave? {task : Nat} (moved : s.leave? task = some next) :
    s.standing.Step next.standing := by
  obtain ⟨c, found, moved⟩ := Option.bind_eq_some_iff.mp moved
  split at moved
  · rename_i told
    obtain rfl := Option.some.inj moved
    change s.standing.Step { s.standing with
      registry := s.registry.post c.key
      seats := (s.connections.modify task ({ · with stage := .leaving })).map Connection.seat }
    rw [seats_modify found]
    exact .leave (seat_of_connection found) told.1 told.2
  · exact nomatch moved

private theorem step_endTask? {task : Nat} (moved : s.endTask? task = some next) :
    s.standing.Step next.standing := by
  obtain ⟨c, found, moved⟩ := Option.bind_eq_some_iff.mp moved
  split at moved
  · rename_i leaving
    obtain rfl := Option.some.inj moved
    change s.standing.Step { s.standing.returnPermit with
      seats := (s.connections.modify task ({ · with stage := .ended })).map Connection.seat }
    rw [seats_modify found]
    exact .endTask (seat_of_connection found) leaving
  · exact nomatch moved

/-! ### Timestamps -/

private theorem standing_setTimestamp (task : Nat) (next : TimestampTask) :
    (s.setTimestamp task next).standing =
      { s.standing with timestamps := s.timestamps.set task next } := by
  unfold setTimestamp
  dsimp only
  split <;> rfl

private theorem step_pollTimestamp? {task : Nat} {timerFirst : Bool}
    (moved : s.pollTimestamp? task timerFirst = some next) : s.standing.Step next.standing := by
  obtain ⟨timestamp, found, moved⟩ := Option.bind_eq_some_iff.mp moved
  dsimp only at moved
  split at moved
  · rename_i starting
    obtain rfl := Option.some.inj moved
    rw [standing_setTimestamp]
    exact .getOn found (by rw [TimestampTask.isDone, starting]; rfl)
  · rename_i deadline waiting
    obtain rfl := Option.some.inj moved
    rw [standing_setTimestamp]
    exact .getOn found (by rw [TimestampTask.isDone, waiting]; rfl)
  · exact nomatch moved

/-- However the append of a record ends, its timestamp task has got on. -/
theorem step_recordAppended {task : Nat} {t : TimestampTask} (found : s.timestamps[task]? = some t)
    (appending : t.phase = .appending) (record : Bytes) (timerFirst : Bool)
    (result : Except LogError Unit) :
    s.standing.Step (s.recordAppended task t record timerFirst result).standing := by
  have running : t.isDone = false := by rw [TimestampTask.isDone, appending]; rfl
  unfold recordAppended
  rw [standing_setTimestamp]
  cases result <;> exact .getOn found running

private theorem step_writeTimestamp? {task : Nat} {moment : Moment} {timerFirst : Bool}
    (moved : s.writeTimestamp? task moment timerFirst = some next) :
    s.standing.Step next.standing := by
  obtain ⟨t, found, moved⟩ := Option.bind_eq_some_iff.mp moved
  split at moved
  · rename_i appending
    obtain rfl := Option.some.inj moved
    let appended := s.log.appendAsync moment.record s.storage
    exact step_recordAppended (s := { s with storage := appended.2 }) found appending
      moment.record timerFirst appended.1
  · exact nomatch moved

/-! ### The teardown -/

private theorem awaited_of_isAwaited (awaited : s.isAwaited) : s.standing.Awaited := by
  rw [isAwaited, Bool.or_eq_true] at awaited
  obtain caller | acceptor := awaited
  · exact .inl (List.contains_iff_mem.mp caller)
  · split at acceptor
    · rename_i result tearing
      exact .inr ⟨result, tearing⟩
    · exact nomatch acceptor

private theorem standing_askToClose (tasks : List Nat) :
    (s.askToClose tasks).standing = s.standing := by
  have seats : (s.askToClose tasks).standing.seats = s.standing.seats := by
    unfold askToClose standing
    dsimp only
    generalize s.connections = connections
    induction tasks generalizing connections with
    | nil => rfl
    | cons task tasks ih =>
        rw [List.foldl_cons, ih]
        exact map_modify fun _ => rfl
  exact congrArg (fun seats => { s.standing with seats }) seats

private theorem step_beginTeardown? (moved : s.beginTeardown? = some next) :
    s.standing.Step next.standing := by
  unfold beginTeardown? at moved
  split at moved
  · rename_i told
    obtain rfl := Option.some.inj moved
    have asked := standing_askToClose (s := s.lockRegistry) s.standing.registered
    have begun := Standing.Step.beginTeardown (awaited_of_isAwaited told.1) told.2
    have same := congrArg (fun t : Standing => { t with
      registry := s.registry.lock.drain.2
      teardown := .joiningHandlers s.standing.registered s.standing.registered.length }) asked
    exact (congrArg s.standing.Step same).mpr begun
  · exact nomatch moved

private theorem step_joinHandler? (moved : s.joinHandler? = some next) :
    s.standing.Step next.standing := by
  unfold joinHandler? at moved
  split at moved
  · rename_i joining
    obtain ⟨c, found, moved⟩ := Option.bind_eq_some_iff.mp moved
    split at moved
    · rename_i ended
      obtain rfl := Option.some.inj moved
      split <;> exact .joinHandler joining (seat_of_connection found) ended
    · exact nomatch moved
  · rename_i joined
    obtain rfl := Option.some.inj moved
    exact .takeTimestamps joined
  · exact nomatch moved

private theorem step_joinTimestamp? (moved : s.joinTimestamp? = some next) :
    s.standing.Step next.standing := by
  unfold joinTimestamp? at moved
  split at moved
  · rename_i joining
    obtain rfl := Option.some.inj moved
    exact .joinTimestamps joining nofun
  · rename_i task joining
    obtain ⟨timestamp, found, moved⟩ := Option.bind_eq_some_iff.mp moved
    split at moved
    · rename_i done
      obtain rfl := Option.some.inj moved
      have ended : ∀ other, some task = some other →
          ∃ timestamp, s.standing.timestamps[other]? = some timestamp ∧ timestamp.isDone := by
        rintro _ ⟨⟩
        exact ⟨timestamp, found, done⟩
      split <;> exact .joinTimestamps joining ended
    · exact nomatch moved
  · exact nomatch moved

/-- Removing the file is the end of the teardown. -/
theorem finishes_removeFile? (moved : s.removeFile? = some next) :
    s.standing.Finishes next.standing ∧ next.storage = (s.log.remove s.storage).2 := by
  unfold removeFile? at moved
  split at moved
  · rename_i removing
    obtain rfl := Option.some.inj moved
    exact ⟨⟨removing, rfl⟩, rfl⟩
  · exact nomatch moved

/-- **One move.** Whatever part of the service makes it, it is a step of how everybody stands, but
for the removal of the file, which is the last. -/
theorem step_standing {move : Move} (moved : s.step move = some next) :
    s.standing.Step next.standing ∨ move = .removeFile ∧ s.standing.Finishes next.standing ∧
      next.storage = (s.log.remove s.storage).2 := by
  cases move with
  | trigger =>
      obtain rfl := Option.some.inj moved
      exact .inl .trigger
  | catchSignal signal => exact .inl (step_catchSignal? moved)
  | callShutdown =>
      obtain rfl := Option.some.inj moved
      have same :=
        congrArg (fun t : Standing => { t with callers := s.callers ++ [Caller.waiting] })
        (standing_requestShutdown (s := s))
      exact .inl ((congrArg s.standing.Step same).mpr .call)
  | returnCaller caller => exact .inl (step_returnCaller? moved)
  | run => exact .inl (step_run? moved)
  | startTimestamps =>
      obtain rfl := Option.some.inj moved
      exact .inl (.startTimestamps starts_startTimestamps)
  | checkFlag => exact .inl (step_checkFlag? moved)
  | acquire => exact .inl (step_acquire? moved)
  | accept peer => exact .inl (step_accept? moved)
  | failAccept e => exact .inl (step_failAccept? moved)
  | resume => exact .inl (step_resume? moved)
  | heedFlag => exact .inl (step_heedFlag? moved)
  | closeListener => exact .inl (step_closeListener? moved)
  | finishRun => exact .inl (step_finishRun? moved)
  | receive task bytes => exact .inl (step_receive? moved)
  | failReceive task e => exact .inl (step_failReceive? moved)
  | append task => exact .inl (step_append? moved)
  | snapshot task => exact .inl (step_snapshot? moved)
  | send task count => exact .inl (step_send? moved)
  | failSend task e => exact .inl (step_failSend? moved)
  | heedClose task => exact .inl (step_heedClose? moved)
  | crash task => exact .inl (step_crash? moved)
  | leave task => exact .inl (step_leave? moved)
  | endTask task => exact .inl (step_endTask? moved)
  | pass duration =>
      obtain rfl := Option.some.inj moved
      exact .inl .stay
  | pollTimestamp task timerFirst => exact .inl (step_pollTimestamp? moved)
  | writeTimestamp task moment timerFirst =>
      have written : s.writeTimestamp? task moment timerFirst = some next := moved
      exact .inl (step_writeTimestamp? written)
  | beginTeardown => exact .inl (step_beginTeardown? moved)
  | joinHandler => exact .inl (step_joinHandler? moved)
  | joinTimestamp => exact .inl (step_joinTimestamp? moved)
  | removeFile => exact .inr ⟨rfl, finishes_removeFile? moved⟩

end Service

end PacketLog
