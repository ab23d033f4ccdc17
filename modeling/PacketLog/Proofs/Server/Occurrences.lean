import PacketLog.Proofs.Session.Happenings
import PacketLog.Server.Moves

/-! # What the moves of the service do to the log and the sessions

Most moves have nothing to do with the log or a session. The others make something happen to one
session, append a timestamp or remove the file (`Service.occurrence`), and each does no more than
that (`Service.step_occurs`): it leaves the other sessions alone, and the storage too unless it is
an operation on the log (`Service.step_operates`). -/

namespace PacketLog

/-- What a move of the service amounts to for the log and the sessions. -/
inductive Occurrence
  | session (task : Nat) (happening : Happening)
  | timestamp (task : Nat) (record : Bytes) (result : Except LogError Unit)
  | removal
  | quiet

namespace Service

/-- The sessions, by task. -/
def sessions (s : Service) : List Session := s.connections.map (·.session)

/-- The phase of the session of a task. -/
def phase? (s : Service) (task : Nat) : Option Phase := s.sessions[task]?.map (·.phase)

/-- The session that a new connection gets. -/
def newSession (s : Service) : Session :=
  .new s.config.initialCapacity s.config.maxPacketSize s.config.readSize

/-- What a move is about to amount to. -/
def occurrence (s : Service) : Move → Occurrence
  | .receive task bytes => .session task (.received bytes)
  | .failReceive task e => .session task (.receiveFailed e)
  | .append task =>
      match s.phase? task with
      | some (.appending packet _) =>
          .session task (.appended packet (s.log.appendAsync packet s.storage).1)
      | _ => .quiet
  | .snapshot task => .session task (.snapshotTaken (s.log.snapshot s.storage))
  | .send task count =>
      match s.phase? task with
      | some (.replying left _) => .session task (.taking left count)
      | _ => .quiet
  | .failSend task e => .session task (.sendFailed e)
  | .heedClose task =>
      match s.phase? task with
      | some (.replying _ _) => .session task .unanswered
      | _ => .session task .closed
  | .writeTimestamp task moment _ =>
      .timestamp task moment.record (s.log.appendAsync moment.record s.storage).1
  | .removeFile => .removal
  | _ => .quiet

/-- Nothing else amounts to the removal of the file. -/
theorem eq_removeFile_of_occurrence {s : Service} {move : Move}
    (occurred : s.occurrence move = .removal) : move = .removeFile := by
  cases move with
  | removeFile => rfl
  | append | send | heedClose =>
      rw [occurrence] at occurred
      split at occurred <;> exact nomatch occurred
  | _ => exact nomatch occurred

/-- What an occurrence can change. -/
def Occurs (s next : Service) : Occurrence → Prop
  | .session task happening => ∃ session after, s.sessions[task]? = some session ∧
      session.Takes happening after ∧ next.sessions = s.sessions.set task after ∧
      happening.Touches s.log s.storage next.storage
  | .timestamp _ record result => (∃ moment : Moment, record = moment.record) ∧
      next.sessions = s.sessions ∧ s.log.appendAsync record s.storage = (result, next.storage)
  | .removal => next.sessions = s.sessions
  | .quiet => (next.sessions = s.sessions ∨ next.sessions = s.sessions ++ [s.newSession]) ∧
      next.storage = s.storage

/-! ## Moves that leave the log and the sessions alone -/

/-- The part of a service that the log and the sessions depend on. -/
def logSide (s : Service) : Config × Storage × List Session := (s.config, s.storage, s.sessions)

variable {s next : Service}

/-- What a change of one connection leaves as it is. -/
theorem map_modify {α : Type} {project : Connection → α} {connections : List Connection}
    {task : Nat} {f : Connection → Connection} (same : ∀ c, project (f c) = project c) :
    (connections.modify task f).map project = connections.map project := by
  apply List.ext_getElem?
  intro i
  rw [List.getElem?_map, List.getElem?_map, List.getElem?_modify]
  cases connections[i]? with
  | none => rfl
  | some c => by_cases here : task = i <;> simp [here, same]

private theorem sessions_setSession (task : Nat) (session : Session) :
    (s.setSession task session).sessions = s.sessions.set task session := by
  apply List.ext_getElem?
  intro i
  rw [sessions, sessions, setSession, List.getElem?_map, List.getElem?_set, List.getElem?_modify,
    List.getElem?_map, List.length_map]
  by_cases here : task = i
  · subst here
    by_cases inside : task < s.connections.length
    · simp [inside]
    · simp [inside]
  · simp [here]

private theorem logSide_requestShutdown : s.requestShutdown.logSide = s.logSide := by
  unfold requestShutdown
  dsimp only
  split <;> rfl

private theorem logSide_startTimestamps : s.startTimestamps.logSide = s.logSide := by
  unfold startTimestamps
  split
  · rfl
  · split <;> rfl

private theorem logSide_setTimestamp (task : Nat) (t : TimestampTask) :
    (s.setTimestamp task t).logSide = s.logSide := by
  unfold setTimestamp
  dsimp only
  split <;> rfl

/-- The end of an append of a timestamp task leaves the log and the sessions alone. -/
theorem logSide_recordAppended (task : Nat) (t : TimestampTask) (record : Bytes)
    (timerFirst : Bool) (result : Except LogError Unit) :
    (s.recordAppended task t record timerFirst result).logSide = s.logSide := by
  unfold recordAppended
  rw [logSide_setTimestamp]
  cases result <;> rfl

private theorem logSide_askToClose (tasks : List Nat) :
    (s.askToClose tasks).logSide = s.logSide := by
  have sessions : (s.askToClose tasks).sessions = s.sessions := by
    unfold askToClose Service.sessions
    dsimp only
    generalize s.connections = connections
    induction tasks generalizing connections with
    | nil => rfl
    | cons task tasks ih =>
        rw [List.foldl_cons, ih]
        exact map_modify fun _ => rfl
  exact congrArg (fun sessions => (s.config, s.storage, sessions)) sessions

private theorem logSide_catchSignal? {signal : Signal} (moved : s.catchSignal? signal = some next) :
    next.logSide = s.logSide := by
  unfold catchSignal? at moved
  split at moved
  · exact nomatch moved
  · obtain rfl := Option.some.inj moved
    rfl

private theorem logSide_returnCaller? {caller : Nat} (moved : s.returnCaller? caller = some next) :
    next.logSide = s.logSide := by
  unfold returnCaller? at moved
  split at moved
  · obtain rfl := Option.some.inj moved
    rfl
  · exact nomatch moved

/-- Starting the service leaves the log and the sessions alone. -/
theorem logSide_run? (moved : s.run? = some next) : next.logSide = s.logSide := by
  unfold run? at moved
  split at moved
  · obtain rfl := Option.some.inj moved
    exact logSide_startTimestamps
  · exact nomatch moved

private theorem logSide_checkFlag? (moved : s.checkFlag? = some next) :
    next.logSide = s.logSide := by
  unfold checkFlag? at moved
  split at moved
  · obtain rfl := Option.some.inj moved
    rfl
  · exact nomatch moved

private theorem logSide_acquire? (moved : s.acquire? = some next) : next.logSide = s.logSide := by
  unfold acquire? at moved
  split at moved
  · obtain rfl := Option.some.inj moved
    rfl
  · obtain rfl := Option.some.inj moved
    rfl
  · exact nomatch moved

private theorem logSide_failAccept? {e : IoError} (moved : s.failAccept? e = some next) :
    next.logSide = s.logSide := by
  unfold failAccept? at moved
  split at moved
  · cases verdict : AcceptVerdict.of e with
    | again | backOff | stop =>
        rw [verdict] at moved
        obtain rfl := Option.some.inj moved
        rfl
  · exact nomatch moved

private theorem logSide_resume? (moved : s.resume? = some next) : next.logSide = s.logSide := by
  unfold resume? at moved
  split at moved
  · obtain rfl := Option.some.inj moved
    rfl
  · exact nomatch moved

private theorem logSide_heedFlag? (moved : s.heedFlag? = some next) : next.logSide = s.logSide := by
  unfold heedFlag? at moved
  split at moved
  · split at moved
    · obtain rfl := Option.some.inj moved
      rfl
    · obtain rfl := Option.some.inj moved
      rfl
    · obtain rfl := Option.some.inj moved
      rfl
    · exact nomatch moved
  · exact nomatch moved

private theorem logSide_closeListener? (moved : s.closeListener? = some next) :
    next.logSide = s.logSide := by
  unfold closeListener? at moved
  split at moved
  · obtain rfl := Option.some.inj moved
    exact logSide_requestShutdown
  · exact nomatch moved

private theorem logSide_finishRun? (moved : s.finishRun? = some next) :
    next.logSide = s.logSide := by
  unfold finishRun? at moved
  split at moved
  · obtain rfl := Option.some.inj moved
    rfl
  · exact nomatch moved

private theorem logSide_crash? {task : Nat} (moved : s.crash? task = some next) :
    next.logSide = s.logSide := by
  obtain ⟨c, _, moved⟩ := Option.bind_eq_some_iff.mp moved
  obtain rfl := Option.some.inj moved
  exact congrArg (fun sessions => (s.config, s.storage, sessions)) (map_modify fun _ => rfl)

private theorem logSide_leave? {task : Nat} (moved : s.leave? task = some next) :
    next.logSide = s.logSide := by
  obtain ⟨c, _, moved⟩ := Option.bind_eq_some_iff.mp moved
  split at moved
  · obtain rfl := Option.some.inj moved
    exact congrArg (fun sessions => (s.config, s.storage, sessions)) (map_modify fun _ => rfl)
  · exact nomatch moved

private theorem logSide_endTask? {task : Nat} (moved : s.endTask? task = some next) :
    next.logSide = s.logSide := by
  obtain ⟨c, _, moved⟩ := Option.bind_eq_some_iff.mp moved
  split at moved
  · obtain rfl := Option.some.inj moved
    exact congrArg (fun sessions => (s.config, s.storage, sessions)) (map_modify fun _ => rfl)
  · exact nomatch moved

private theorem logSide_pollTimestamp? {task : Nat} {timerFirst : Bool}
    (moved : s.pollTimestamp? task timerFirst = some next) : next.logSide = s.logSide := by
  obtain ⟨t, _, moved⟩ := Option.bind_eq_some_iff.mp moved
  dsimp only at moved
  split at moved
  · obtain rfl := Option.some.inj moved
    exact logSide_setTimestamp _ _
  · obtain rfl := Option.some.inj moved
    exact logSide_setTimestamp _ _
  · exact nomatch moved

private theorem logSide_beginTeardown? (moved : s.beginTeardown? = some next) :
    next.logSide = s.logSide := by
  unfold beginTeardown? at moved
  split at moved
  · obtain rfl := Option.some.inj moved
    exact logSide_askToClose (s := s.lockRegistry) _
  · exact nomatch moved

private theorem logSide_joinHandler? (moved : s.joinHandler? = some next) :
    next.logSide = s.logSide := by
  unfold joinHandler? at moved
  split at moved
  · obtain ⟨c, _, moved⟩ := Option.bind_eq_some_iff.mp moved
    split at moved
    · obtain rfl := Option.some.inj moved
      cases c.crashed <;> rfl
    · exact nomatch moved
  · obtain rfl := Option.some.inj moved
    rfl
  · exact nomatch moved

private theorem logSide_joinTimestamp? (moved : s.joinTimestamp? = some next) :
    next.logSide = s.logSide := by
  unfold joinTimestamp? at moved
  split at moved
  · obtain rfl := Option.some.inj moved
    rfl
  · obtain ⟨t, _, moved⟩ := Option.bind_eq_some_iff.mp moved
    split at moved
    · obtain rfl := Option.some.inj moved
      by_cases dead : t.phase = .dead <;> simp only [dead, ↓reduceIte] <;> rfl
    · exact nomatch moved
  · exact nomatch moved

/-! ## One move -/

private theorem occurs_of_logSide (same : next.logSide = s.logSide) :
    next.config = s.config ∧ s.Occurs next .quiet := by
  simp only [logSide, Prod.mk.injEq] at same
  exact ⟨same.1, .inl same.2.2, same.2.1⟩

private theorem sessions_of_serving? {task : Nat} {c : Connection}
    (served : s.serving? task = some c) :
    s.sessions[task]? = some c.session ∧ s.phase? task = some c.session.phase := by
  have found := (Option.filter_eq_some_iff.mp served).1
  have session : s.sessions[task]? = some c.session := by
    rw [sessions, List.getElem?_map, found]
    rfl
  exact ⟨session, by rw [phase?, session]; rfl⟩

/-- A move that moves one session and nothing else. -/
private theorem occurs_setSession {task : Nat} {c : Connection} {after : Session}
    {happening : Happening} (served : s.serving? task = some c)
    (taken : c.session.Takes happening after)
    (untouched : happening.Touches s.log s.storage s.storage) :
    (s.setSession task after).config = s.config ∧
      s.Occurs (s.setSession task after) (.session task happening) :=
  ⟨rfl, c.session, after, (sessions_of_serving? served).1, taken, sessions_setSession task after,
    untouched⟩

private theorem occurs_receive? {task : Nat} {bytes : Bytes}
    (moved : s.receive? task bytes = some next) :
    next.config = s.config ∧ s.Occurs next (s.occurrence (.receive task bytes)) := by
  obtain ⟨c, served, moved⟩ := Option.bind_eq_some_iff.mp moved
  split at moved
  · rename_i reading
    split at moved
    · obtain rfl := Option.some.inj moved
      exact occurs_setSession served (.received reading) rfl
    · exact nomatch moved
  · exact nomatch moved

private theorem occurs_failReceive? {task : Nat} {e : IoError}
    (moved : s.failReceive? task e = some next) :
    next.config = s.config ∧ s.Occurs next (s.occurrence (.failReceive task e)) := by
  obtain ⟨c, served, moved⟩ := Option.bind_eq_some_iff.mp moved
  split at moved
  · rename_i reading
    obtain rfl := Option.some.inj moved
    exact occurs_setSession served (.receiveFailed reading) rfl
  · exact nomatch moved

private theorem occurs_append? {task : Nat} (moved : s.append? task = some next) :
    next.config = s.config ∧ s.Occurs next (s.occurrence (.append task)) := by
  obtain ⟨c, served, moved⟩ := Option.bind_eq_some_iff.mp moved
  obtain ⟨session, phase⟩ := sessions_of_serving? served
  split at moved
  · rename_i packet rest appending
    rw [appending] at phase
    rw [occurrence, phase]
    dsimp only at moved ⊢
    obtain rfl := Option.some.inj moved
    have set := sessions_setSession (s := s) task
      (c.session.appended rest (s.log.appendAsync packet s.storage).1)
    exact ⟨rfl, c.session, _, session, .appended appending, set, rfl⟩
  · exact nomatch moved

private theorem occurs_snapshot? {task : Nat} (moved : s.snapshot? task = some next) :
    next.config = s.config ∧ s.Occurs next (s.occurrence (.snapshot task)) := by
  obtain ⟨c, served, moved⟩ := Option.bind_eq_some_iff.mp moved
  split at moved
  · rename_i rest snapshotting
    obtain rfl := Option.some.inj moved
    exact occurs_setSession served (.snapshotTaken snapshotting) ⟨rfl, rfl⟩
  · exact nomatch moved

private theorem occurs_send? {task count : Nat} (moved : s.send? task count = some next) :
    next.config = s.config ∧ s.Occurs next (s.occurrence (.send task count)) := by
  obtain ⟨c, served, moved⟩ := Option.bind_eq_some_iff.mp moved
  have phase := (sessions_of_serving? served).2
  split at moved
  · rename_i left rest replying
    rw [replying] at phase
    rw [occurrence, phase]
    split at moved
    · rename_i within
      obtain rfl := Option.some.inj moved
      exact occurs_setSession served (.taking replying within) (Happening.touches_taking ..)
    · exact nomatch moved
  · exact nomatch moved

private theorem occurs_failSend? {task : Nat} {e : IoError}
    (moved : s.failSend? task e = some next) :
    next.config = s.config ∧ s.Occurs next (s.occurrence (.failSend task e)) := by
  obtain ⟨c, served, moved⟩ := Option.bind_eq_some_iff.mp moved
  split at moved
  · rename_i replying
    obtain rfl := Option.some.inj moved
    exact occurs_setSession served (.sendFailed replying (List.cons_ne_nil _ _)) rfl
  · exact nomatch moved

private theorem occurs_heedClose? {task : Nat} (moved : s.heedClose? task = some next) :
    next.config = s.config ∧ s.Occurs next (s.occurrence (.heedClose task)) := by
  obtain ⟨c, served, moved⟩ := Option.bind_eq_some_iff.mp moved
  have phase := (sessions_of_serving? served).2
  split at moved
  · split at moved
    · rename_i reading
      rw [reading] at phase
      rw [occurrence, phase]
      obtain rfl := Option.some.inj moved
      exact occurs_setSession served (.closed reading) rfl
    · rename_i replying
      rw [replying] at phase
      rw [occurrence, phase]
      obtain rfl := Option.some.inj moved
      exact occurs_setSession served (.unanswered replying) rfl
    · exact nomatch moved
  · exact nomatch moved

private theorem occurs_writeTimestamp? {task : Nat} {moment : Moment} {timerFirst : Bool}
    (moved : s.writeTimestamp? task moment timerFirst = some next) :
    next.config = s.config ∧
      s.Occurs next (s.occurrence (.writeTimestamp task moment timerFirst)) := by
  obtain ⟨t, _, moved⟩ := Option.bind_eq_some_iff.mp moved
  rw [occurrence]
  cases answer : s.log.appendAsync moment.record s.storage with
  | mk result storage =>
      simp only [answer] at moved
      have same : next.logSide = (s.config, storage, s.sessions) := by
        split at moved
        · obtain rfl := Option.some.inj moved
          exact logSide_recordAppended task t moment.record timerFirst result
        · exact nomatch moved
      simp only [logSide, Prod.mk.injEq] at same
      obtain ⟨config, rfl, sessions⟩ := same
      exact ⟨config, ⟨moment, rfl⟩, sessions, answer⟩

private theorem occurs_accept? {peer : SocketAddress} (moved : s.accept? peer = some next) :
    next.config = s.config ∧ s.Occurs next (s.occurrence (.accept peer)) := by
  unfold accept? at moved
  split at moved
  · obtain rfl := Option.some.inj moved
    unfold dispatch
    dsimp only
    split
    · exact occurs_of_logSide rfl
    · refine ⟨rfl, .inr ?_, rfl⟩
      exact List.map_append
  · exact nomatch moved

private theorem occurs_removeFile? (moved : s.removeFile? = some next) :
    next.config = s.config ∧ s.Occurs next (s.occurrence .removeFile) := by
  unfold removeFile? at moved
  split at moved
  · obtain rfl := Option.some.inj moved
    exact ⟨rfl, rfl⟩
  · exact nomatch moved

/-- **What a move can do.** It never changes the configuration, and the log and the sessions only as
what it amounts to allows. -/
theorem step_occurs {move : Move} (moved : s.step move = some next) :
    next.config = s.config ∧ s.Occurs next (s.occurrence move) := by
  cases move with
  | trigger =>
      obtain rfl := Option.some.inj moved
      exact occurs_of_logSide rfl
  | catchSignal signal => exact occurs_of_logSide (logSide_catchSignal? moved)
  | callShutdown =>
      obtain rfl := Option.some.inj moved
      exact occurs_of_logSide logSide_requestShutdown
  | returnCaller caller => exact occurs_of_logSide (logSide_returnCaller? moved)
  | run => exact occurs_of_logSide (logSide_run? moved)
  | startTimestamps =>
      obtain rfl := Option.some.inj moved
      exact occurs_of_logSide logSide_startTimestamps
  | checkFlag => exact occurs_of_logSide (logSide_checkFlag? moved)
  | acquire => exact occurs_of_logSide (logSide_acquire? moved)
  | accept peer => exact occurs_accept? moved
  | failAccept e => exact occurs_of_logSide (logSide_failAccept? moved)
  | resume => exact occurs_of_logSide (logSide_resume? moved)
  | heedFlag => exact occurs_of_logSide (logSide_heedFlag? moved)
  | closeListener => exact occurs_of_logSide (logSide_closeListener? moved)
  | finishRun => exact occurs_of_logSide (logSide_finishRun? moved)
  | receive task bytes => exact occurs_receive? moved
  | failReceive task e => exact occurs_failReceive? moved
  | append task => exact occurs_append? moved
  | snapshot task => exact occurs_snapshot? moved
  | send task count => exact occurs_send? moved
  | failSend task e => exact occurs_failSend? moved
  | heedClose task => exact occurs_heedClose? moved
  | crash task => exact occurs_of_logSide (logSide_crash? moved)
  | leave task => exact occurs_of_logSide (logSide_leave? moved)
  | endTask task => exact occurs_of_logSide (logSide_endTask? moved)
  | pass duration =>
      obtain rfl := Option.some.inj moved
      exact occurs_of_logSide rfl
  | pollTimestamp task timerFirst => exact occurs_of_logSide (logSide_pollTimestamp? moved)
  | writeTimestamp task moment timerFirst => exact occurs_writeTimestamp? moved
  | beginTeardown => exact occurs_of_logSide (logSide_beginTeardown? moved)
  | joinHandler => exact occurs_of_logSide (logSide_joinHandler? moved)
  | joinTimestamp => exact occurs_of_logSide (logSide_joinTimestamp? moved)
  | removeFile => exact occurs_removeFile? moved

/-! ## The files -/

/-- What a move does to the files: nothing, or one operation on the log. -/
inductive Operates (s next : Service) : Prop
  | none (same : next.storage = s.storage)
  | append {data : Bytes} {result : Except LogError Unit}
      (answered : s.log.appendAsync data s.storage = (result, next.storage))
  | remove (stage : s.teardown = .removing) (removed : next.storage = (s.log.remove s.storage).2)

/-- Only the removal of the file does anything to the files but append to the log. -/
theorem stored_by_step {move : Move} (moved : s.step move = some next)
    (stays : move ≠ .removeFile) : next.storage = s.storage ∨
      ∃ data result, s.log.appendAsync data s.storage = (result, next.storage) := by
  have occurs := (step_occurs moved).2
  cases occurred : s.occurrence move with
  | session task happening =>
      rw [occurred] at occurs
      rcases occurs with ⟨_, _, _, _, _, touches⟩
      cases happening with
      | appended packet result => exact .inr ⟨packet, result, touches⟩
      | snapshotTaken result => exact .inl touches.2
      | _ => exact .inl touches
  | timestamp task record result =>
      rw [occurred] at occurs
      exact .inr ⟨record, result, occurs.2.2⟩
  | removal => exact absurd (eq_removeFile_of_occurrence occurred) stays
  | quiet =>
      rw [occurred] at occurs
      exact .inl occurs.2

/-- **Moves and the log.** A move leaves the files alone or is an operation on the log. -/
theorem step_operates {move : Move} (moved : s.step move = some next) : s.Operates next := by
  by_cases stays : move = .removeFile
  · subst stays
    have removed : s.removeFile? = some next := moved
    unfold removeFile? at removed
    split at removed
    · rename_i stage
      obtain rfl := Option.some.inj removed
      exact .remove stage rfl
    · exact nomatch removed
  · rcases stored_by_step moved stays with same | ⟨_, _, answered⟩
    · exact .none same
    · exact .append answered

end Service

end PacketLog
