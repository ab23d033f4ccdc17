import Mathlib
import PacketLog.Proofs.Config.Layers
import PacketLog.Proofs.Server.Settling

/-! # Nobody waits in vain

What the service waits for from outside can come (`Service.step_isSome_of_meets`), and as long as it
runs there is something that it waits for or wants done: parts of it never wait just for each other
(`Service.waits_for_something`). A handler that goes on waits for its peer or for the file, unless
it can get on by itself; an acceptor without a permit has handlers that go on; and a teardown waits
for handlers and for a timestamp task that are there (`Standing.Present`).
-/

namespace PacketLog

/-! ## What can come -/

/-- Whether a move is what somebody waited for. -/
def Demand.Meets (move : Move) : Demand → Prop
  | .connection => (∃ peer, move = .accept peer) ∨ ∃ e, move = .failAccept e
  | .resources _ => move = .resume
  | .bytes task size => (∃ bytes, bytes.length ≤ size ∧ move = .receive task bytes) ∨
      ∃ e, move = .failReceive task e
  | .delivery task left => (∃ count, count ≤ left.length ∧ move = .send task count) ∨
      ∃ e, move = .failSend task e
  | .instant task _ => ∃ timerFirst, move = .pollTimestamp task timerFirst

namespace Service

variable {start s next : Service} {move : Move} {task : Nat} {demand : Demand}

/-- The handler of a task waits for bytes, or for their delivery, as the phase of its session
says. -/
theorem handlerDemand?_eq_some : s.handlerDemand? task = some demand ↔
    ∃ c, s.serving? task = some c ∧
      (c.session.phase = .reading ∧ demand = .bytes task c.session.readSize ∨
        ∃ first left rest, c.session.phase = .replying (first :: left) rest ∧
          demand = .delivery task (first :: left)) := by
  rw [handlerDemand?, Option.bind_eq_bind, Option.bind_eq_some_iff]
  refine exists_congr fun c => and_congr_right fun _ => ?_
  cases c.session.phase with
  | replying left rest => cases left <;> simp [eq_comm]
  | _ => simp [eq_comm]

/-- A timestamp task waits for an instant. -/
theorem timestampDemand?_eq_some : s.timestampDemand? task = some demand ↔
    ∃ t deadline, s.timestamps[task]? = some t ∧ t.phase = .waiting deadline ∧
      demand = .instant task deadline := by
  rw [timestampDemand?, Option.bind_eq_bind, Option.bind_eq_some_iff]
  refine exists_congr fun t => ?_
  cases t.phase <;> simp [eq_comm]

/-- What is waited for, part by part. -/
theorem mem_demands_iff : demand ∈ s.demands ↔ demand ∈ s.acceptorDemands ∨
    (∃ task, s.handlerDemand? task = some demand) ∨
      ∃ task, s.timestampDemand? task = some demand := by
  have handlers : (∃ task < s.connections.length, s.handlerDemand? task = some demand) ↔
      ∃ task, s.handlerDemand? task = some demand := by
    refine exists_congr fun task => and_iff_right_of_imp fun wanted => ?_
    obtain ⟨c, served, -⟩ := handlerDemand?_eq_some.mp wanted
    exact lt_length_of_serving? served
  have timestamps : (∃ task < s.timestamps.length, s.timestampDemand? task = some demand) ↔
      ∃ task, s.timestampDemand? task = some demand := by
    refine exists_congr fun task => and_iff_right_of_imp fun wanted => ?_
    obtain ⟨t, deadline, found, -⟩ := timestampDemand?_eq_some.mp wanted
    exact (List.getElem?_eq_some_iff.mp found).1
  simp only [demands, List.mem_append, List.mem_filterMap, List.mem_range, handlers, timestamps,
    or_assoc]

/-- **What is waited for can come.** -/
theorem step_isSome_of_meets (wanted : demand ∈ s.demands) (meets : demand.Meets move) :
    (s.step move).isSome := by
  obtain acceptor | ⟨task, handler⟩ | ⟨task, timestamp⟩ := mem_demands_iff.mp wanted
  · rw [acceptorDemands] at acceptor
    split at acceptor
    · rename_i accepting
      obtain rfl := List.mem_singleton.mp acceptor
      obtain ⟨peer, rfl⟩ | ⟨e, rfl⟩ := meets
      · simp [step, accept?, accepting]
      · simp only [step, failAccept?, accepting]
        split <;> rfl
    · rename_i backingOff
      obtain rfl := List.mem_singleton.mp acceptor
      obtain rfl := meets
      simp [step, resume?, backingOff]
    · exact absurd acceptor List.not_mem_nil
  · obtain ⟨c, served, ⟨reading, rfl⟩ | ⟨first, left, rest, replying, rfl⟩⟩ :=
      handlerDemand?_eq_some.mp handler
    · obtain ⟨bytes, fits, rfl⟩ | ⟨e, rfl⟩ := meets
      · simp [step, receive?, served, reading, fits]
      · simp [step, failReceive?, served, reading]
    · obtain ⟨count, fits, rfl⟩ | ⟨e, rfl⟩ := meets
      · have fits : count ≤ left.length + 1 := fits
        simp [step, send?, served, replying, fits]
      · simp [step, failSend?, served, replying]
  · obtain ⟨t, deadline, found, waiting, rfl⟩ := timestampDemand?_eq_some.mp timestamp
    obtain ⟨timerFirst, rfl⟩ := meets
    simp [step, pollTimestamp?, found, waiting]

end Service

/-! ## Who is waited for -/

namespace Standing

variable {t next : Standing}

/-- Whoever the teardown waits for, or will, is there. -/
structure Present (t : Standing) : Prop where
  slot : ∀ task, t.slot = some task → task < t.timestamps.length
  handlers : ∀ awaited count, t.teardown = .joiningHandlers awaited count →
    ∀ task ∈ awaited, task < t.seats.length
  timestamp : ∀ task, t.teardown = .joiningTimestamps (some task) → task < t.timestamps.length

/-- The handlers that a lock finds in the registry are there. -/
theorem Orderly.lt_of_mem_registered (orderly : t.Orderly) {task : Nat}
    (member : task ∈ t.registered) : task < t.seats.length := by
  obtain ⟨entry, entered, rfl⟩ := List.mem_map.mp member
  obtain ⟨key, found⟩ := Registry.mem_entries_iff.mp entered
  obtain ⟨guard, there, -⟩ := (orderly.roster.lock rfl).owned found
  have inside := (List.getElem?_eq_some_iff.mp there).1
  rwa [Standing.roster, List.length_map] at inside

private theorem Present.starts (present : t.Present) (starts : t.Starts next) : next.Present := by
  cases starts with
  | not => exact present
  | started =>
      refine ⟨fun task same => ?_, present.handlers, fun task waits => ?_⟩
      · obtain rfl := Option.some.inj same
        simp
      · have inside := present.timestamp task waits
        simp only [List.length_append, List.length_singleton]
        omega

/-- **Whoever is waited for is there**, whatever happens. -/
theorem Step.present (step : Step t next) (orderly : t.Orderly) (present : t.Present) :
    next.Present := by
  cases step with
  | startTimestamps starts => exact present.starts starts
  | run idle starts =>
      have started := present.starts starts
      exact ⟨started.slot, started.handlers, started.timestamp⟩
  | enroll accepting offered =>
      refine ⟨present.slot, fun awaited count joining task member => ?_, present.timestamp⟩
      have inside := present.handlers awaited count joining task member
      simp only [List.length_append, List.length_singleton]
      omega
  | work found | leave found | endTask found =>
      refine ⟨present.slot, fun awaited count joining task member => ?_, present.timestamp⟩
      have inside := present.handlers awaited count joining task member
      simpa [setSeat, returnPermit] using inside
  | getOn found running =>
      refine ⟨fun task same => ?_, present.handlers, fun task waits => ?_⟩
      · simpa using present.slot task same
      · simpa using present.timestamp task waits
  | beginTeardown awaited notStarted =>
      refine ⟨present.slot, fun awaited count joining task member => ?_, fun task waits => ?_⟩
      · obtain ⟨rfl, -⟩ := Teardown.joiningHandlers.inj joining
        exact orderly.lt_of_mem_registered member
      · cases waits
  | @joinHandler first count rest seat joining found ended =>
      refine ⟨present.slot, fun awaited others now task member => ?_, fun task waits => ?_⟩
      · obtain ⟨rfl, -⟩ := Teardown.joiningHandlers.inj now
        exact present.handlers _ _ joining task (List.mem_cons_of_mem _ member)
      · cases waits
  | takeTimestamps joined =>
      refine ⟨by simp, by simp, fun task waits => ?_⟩
      exact present.slot task (Teardown.joiningTimestamps.inj waits)
  | joinTimestamps joining ended => exact ⟨present.slot, by simp, by simp⟩
  | _ => exact ⟨present.slot, present.handlers, present.timestamp⟩

end Standing

namespace Service

variable {start s : Service} {task : Nat} {move : Move}

/-- Among others, too, whoever is waited for is there. -/
theorem Lives.present {config : Config} {address : SocketAddress} {storage : Storage}
    (begun : new? config address storage = some start) (lives : start.Lives s) :
    s.standing.Present := by
  have fresh : start.standing.Present := by
    rw [new?] at begun
    split at begun
    · cases begun
    · obtain rfl := Option.some.inj begun
      exact ⟨by simp [standing], by simp [standing], by simp [standing]⟩
  refine (lives.keeps (P := fun t => t.Orderly ∧ t.Present) ⟨(orderly_of_new begun).1, fresh⟩
    (fun t next step kept => ⟨step.orderly kept.1, step.present kept.1 kept.2⟩)
    fun t next finishes kept => ⟨finishes.orderly kept.1, ?_⟩).2
  obtain ⟨-, rfl⟩ := finishes
  exact ⟨kept.2.slot, by simp, by simp⟩

/-! ## Who waits -/

private theorem emptyReply_mem (possible : s.emptyReplyMove? task = some move)
    (inside : task < s.connections.length) : move ∈ s.quietMoves := by
  simp only [quietMoves, List.mem_append, List.mem_filterMap, List.mem_range]
  grind

private theorem poll_mem (possible : s.pollMove? task = some move)
    (inside : task < s.timestamps.length) : move ∈ s.quietMoves := by
  simp only [quietMoves, List.mem_append, List.mem_filterMap, List.mem_range]
  grind

/-- A handler that goes on and cannot get any further by itself waits for its peer or for the
file. -/
theorem waits_of_goesOn {c : Connection} (still : StillFor quietMoves s)
    (found : s.connections[task]? = some c) (goesOn : c.stage ≠ .ended) :
    (∃ demand, s.handlerDemand? task = some demand) ∨
      ∃ errand, s.handlerErrand? task = some errand := by
  have inside := (List.getElem?_eq_some_iff.mp found).1
  cases stage : c.stage with
  | ended => exact absurd stage goesOn
  | leaving =>
      have stuck := still (.endTask task) (by simp [quietMoves, inside])
      simp [step, endTask?, found, stage] at stuck
  | serving =>
      cases finished : c.isOver with
      | true =>
          have stuck := still (.leave task) (by simp [quietMoves, inside])
          simp [step, leave?, found, stage, finished] at stuck
      | false =>
          have served : s.serving? task = some c := by simp [serving?, found, stage, finished]
          cases phase : c.session.phase with
          | reading => exact .inl ⟨_, handlerDemand?_eq_some.mpr ⟨c, served, .inl ⟨phase, rfl⟩⟩⟩
          | appending packet rest =>
              exact .inr ⟨_, handlerErrand?_eq_some.mpr
                ⟨c, served, .inl ⟨packet, rest, phase, rfl⟩⟩⟩
          | snapshotting rest =>
              exact .inr ⟨_, handlerErrand?_eq_some.mpr ⟨c, served, .inr ⟨rest, phase, rfl⟩⟩⟩
          | replying left rest =>
              cases left with
              | nil =>
                  have possible : s.emptyReplyMove? task = some (.send task 0) := by
                    simp [emptyReplyMove?, served, phase]
                  have stuck := still (.send task 0) (emptyReply_mem possible inside)
                  simp [step, send?, served, phase] at stuck
              | cons first left =>
                  exact .inl ⟨_, handlerDemand?_eq_some.mpr
                    ⟨c, served, .inr ⟨first, left, rest, phase, rfl⟩⟩⟩
          | ended ending => simp [Connection.isOver, Session.ending?, phase] at finished

/-- A timestamp task that goes on and cannot get any further by itself waits for an instant, unless
the flag is set, or for its append. -/
theorem waits_of_running {t : TimestampTask} (still : StillFor quietMoves s)
    (found : s.timestamps[task]? = some t) (running : t.isDone = false) :
    (s.flag.triggered = false ∧ ∃ demand, s.timestampDemand? task = some demand) ∨
      ∃ errand, s.timestampErrand? task = some errand := by
  have inside := (List.getElem?_eq_some_iff.mp found).1
  have poll : s.isDue t = true → (t.phase = .starting ∨ ∃ d, t.phase = .waiting d) → False := by
    intro due phase
    have possible : s.pollMove? task = some (.pollTimestamp task false) := by
      simp [pollMove?, found, due]
    have stuck := still (.pollTimestamp task false) (poll_mem possible inside)
    obtain phase | ⟨d, phase⟩ := phase <;>
      simp [step, pollTimestamp?, found, phase] at stuck
  cases phase : t.phase with
  | starting => exact (poll (by simp [isDue, phase]) (.inl phase)).elim
  | waiting deadline =>
      refine .inl ⟨?_, _, timestampDemand?_eq_some.mpr ⟨t, deadline, found, phase, rfl⟩⟩
      cases set : s.flag.triggered with
      | false => rfl
      | true => exact (poll (by simp [isDue, phase, set]) (.inr ⟨deadline, phase⟩)).elim
  | appending =>
      exact .inr ⟨_, timestampErrand?_eq_some.mpr ⟨t, found, phase, rfl⟩⟩
  | stopped | dead => simp [TimestampTask.isDone, phase] at running

/-- Something is waited for, or there is something to do. -/
def IsBusy (s : Service) : Prop := s.demands ≠ [] ∨ s.errands ≠ []

private theorem busy_of_handler (waits : (∃ demand, s.handlerDemand? task = some demand) ∨
    ∃ errand, s.handlerErrand? task = some errand) : s.IsBusy := by
  obtain ⟨demand, wanted⟩ | ⟨errand, wanted⟩ := waits
  · exact .inl (List.ne_nil_of_mem (mem_demands_iff.mpr (.inr (.inl ⟨task, wanted⟩))))
  · exact .inr (List.ne_nil_of_mem (mem_errands_iff.mpr (.inl ⟨task, wanted⟩)))

/-- An acceptor that cannot get a permit has handlers that go on. -/
theorem exists_goesOn_of_awaitingPermit {bound : Option Nat} (room : bound ≠ some 0)
    (total : s.permits.map (· + s.acceptor.permitsHeld + s.handlersGoingOn) = bound)
    (still : StillFor quietMoves s) (awaiting : s.acceptor = .awaitingPermit) :
    ∃ (task : Nat) (c : Connection), s.connections[task]? = some c ∧ c.stage ≠ .ended := by
  have stuck := still .acquire (by simp [quietMoves])
  have none_left : s.permits = some 0 := by
    cases permits : s.permits with
    | none => simp [step, acquire?, awaiting, permits] at stuck
    | some left =>
        cases left with
        | zero => rfl
        | succ left => simp [step, acquire?, awaiting, permits] at stuck
  rw [none_left, awaiting] at total
  have going : s.handlersGoingOn ≠ 0 := by
    intro zero
    rw [zero] at total
    exact room total.symm
  obtain ⟨c, member, goesOn⟩ := List.countP_pos_iff.mp (Nat.pos_of_ne_zero going)
  obtain ⟨task, found⟩ := List.mem_iff_getElem?.mp member
  exact ⟨task, c, found, by simpa [HandlerStage.goesOn] using goesOn⟩

/-- A teardown that somebody waits for, and that cannot get any further by itself, waits for a
handler that goes on, or something is to be done with the file. -/
theorem waits_of_teardown (orderly : s.standing.Orderly) (present : s.standing.Present)
    (still : StillFor quietMoves s) (awaited : s.isAwaited) (goesOn : s.teardown ≠ .done) :
    (∃ tasks count task c, s.teardown = .joiningHandlers tasks count ∧ task ∈ tasks ∧
      s.connections[task]? = some c ∧ c.stage ≠ .ended) ∨ s.errands ≠ [] := by
  cases teardown : s.teardown with
  | notStarted =>
      have stuck := still .beginTeardown (by simp [quietMoves])
      simp [step, beginTeardown?, awaited, teardown] at stuck
  | joiningHandlers tasks count =>
      have stuck := still .joinHandler (by simp [quietMoves])
      cases tasks with
      | nil => simp [step, joinHandler?, teardown] at stuck
      | cons task rest =>
          have inside := present.handlers _ count teardown task List.mem_cons_self
          rw [standing, List.length_map] at inside
          have found := List.getElem?_eq_getElem inside
          refine .inl ⟨_, _, task, _, rfl, List.mem_cons_self, found, fun ended => ?_⟩
          simp [step, joinHandler?, teardown, found, ended] at stuck
  | joiningTimestamps waited =>
      have stuck := still .joinTimestamp (by simp [quietMoves])
      cases waited with
      | none => simp [step, joinTimestamp?, teardown] at stuck
      | some task =>
          have inside : task < s.timestamps.length := present.timestamp task teardown
          have found := List.getElem?_eq_getElem inside
          have set : s.flag.triggered = true := orderly.asked (.inr (by simp [standing, teardown]))
          cases running : s.timestamps[task].isDone with
          | true => simp [step, joinTimestamp?, teardown, found, running] at stuck
          | false =>
              obtain ⟨unset, -⟩ | ⟨errand, wanted⟩ := waits_of_running still found running
              · cases unset.symm.trans set
              · exact .inr (List.ne_nil_of_mem
                  (mem_errands_iff.mpr (.inr (.inl ⟨task, wanted⟩))))
  | removing => exact .inr (List.ne_nil_of_mem (removal_mem_errands_iff.mpr teardown))
  | done => exact absurd teardown goesOn

/-- **Nobody waits in vain.** A service that runs, and has not returned, never waits just for
itself: when it cannot get any further by itself, it waits for something from outside, or wants
something done with its file. -/
theorem waits_for_something {config : Config} {address : SocketAddress} {storage : Storage}
    (begun : new? config address storage = some start) (room : config.maxConnections ≠ some 0)
    (lives : start.Lives s) (still : StillFor quietMoves s) :
    s.acceptor = .idle ∨ (∃ result, s.acceptor = .returned result) ∨ s.IsBusy := by
  obtain ⟨orderly, total, -⟩ := lives_in_order begun lives
  cases acceptor : s.acceptor with
  | idle => exact .inl rfl
  | checking =>
      have stuck := still .checkFlag (by simp [quietMoves])
      simp [step, checkFlag?, acceptor] at stuck
  | awaitingPermit =>
      obtain ⟨task, c, found, goesOn⟩ :=
        exists_goesOn_of_awaitingPermit room total still acceptor
      exact .inr (.inr (busy_of_handler (waits_of_goesOn still found goesOn)))
  | accepting | backingOff =>
      exact .inr (.inr (.inl (by simp [demands, acceptorDemands, acceptor])))
  | leaving result =>
      have stuck := still .closeListener (by simp [quietMoves])
      simp [step, closeListener?, acceptor] at stuck
  | tearingDown result =>
      have goesOn : s.teardown ≠ .done := by
        intro done
        have stuck := still .finishRun (by simp [quietMoves])
        simp [step, finishRun?, acceptor, done] at stuck
      obtain ⟨-, -, task, c, -, -, found, goesOn⟩ | errands := waits_of_teardown orderly
        (lives.present begun) still (by simp [isAwaited, acceptor]) goesOn
      · exact .inr (.inr (busy_of_handler (waits_of_goesOn still found goesOn)))
      · exact .inr (.inr (.inr errands))
  | returned result => exact .inr (.inl ⟨result, rfl⟩)

/-- A service with a configuration that was loaded begins with tasks that keep their pace. -/
theorem paced_of_new {arguments : List Bytes} {contentsOf : Path → Except IoError Bytes}
    {config : Config} {address : SocketAddress} {storage : Storage}
    (loaded : Config.load arguments contentsOf = .ok config)
    (begun : new? config address storage = some start) : start.Paced := by
  rw [new?] at begun
  split at begun
  · cases begun
  · obtain rfl := Option.some.inj begun
    refine ⟨fun zero => ?_, fun t member => absurd member List.not_mem_nil⟩
    exact absurd (Config.interval_pos_of_load loaded zero) (Nat.lt_irrefl 0)

/-- **The program waits for something**, too: a service with a configuration that was loaded,
whatever happened to it among others, either has something to wait for or to do after it got on
without its files, or does not run. -/
theorem getOn_waits_for_something {arguments : List Bytes}
    {contentsOf : Path → Except IoError Bytes} {config : Config} {address : SocketAddress}
    {storage : Storage} (loaded : Config.load arguments contentsOf = .ok config)
    (begun : new? config address storage = some start) (lives : start.Lives s) :
    s.getOn.acceptor = .idle ∨ (∃ result, s.getOn.acceptor = .returned result) ∨
      s.getOn.IsBusy := by
  have gotOn : s.Lives s.getOn := (reachable_makeMoves _ _).lives
  exact waits_for_something begun (Config.valid_of_load loaded).connections (lives.trans gotOn)
    (still_getOn (lives.paced (paced_of_new loaded begun)))

end Service

end PacketLog
