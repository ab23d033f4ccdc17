import Mathlib
import PacketLog.Proofs.Server.Permits
import PacketLog.Proofs.Server.Shutdown
import PacketLog.Proofs.Server.Twins

/-! # Services whose files are kept elsewhere

Exactly the reports of errands are listened to (`Service.report?_isSome_iff`). When a service does
an errand on its own files, it does what a report of the log's answer would do
(`Service.step_errandMove`), so that keeping the files elsewhere makes a difference to the files
only. A service lives among others that report and change files (`Service.Lives`): what depends on
how everybody stands is the same for it as for a service left alone, so that its permits add up and
its shutdown is orderly (`Service.lives_in_order`), whatever is reported. -/

namespace PacketLog

/-- Whether a report is of an errand. -/
def Report.isOf : Report → Errand → Bool
  | .appended task _, .append other _ => task = other
  | .snapshotTaken task _, .snapshot other => task = other
  | .recordAppended task _ _ _, .record other => task = other
  | .removed _, .removal => true
  | _, _ => false

namespace Service

variable {start s next : Service} {task : Nat} {errand : Errand} {moment : Moment}

/-! ## Moves in a row -/

/-- Rows of moves can be put one after another. -/
theorem Reachable.trans (first : start.Reachable s) (later : s.Reachable next) :
    start.Reachable next := by
  induction later with
  | refl => exact first
  | step move _ moved ih => exact ih.step move moved

/-- Making moves of a kind keeps what each of them keeps. -/
theorem makeMoves_keeps {P : Service → Prop} {kind : Service → List Move}
    (keeps : ∀ s next, ∀ move ∈ kind s, s.step move = some next → P s → P next) (holds : P s)
    (most : Nat) : P (s.makeMoves kind most) := by
  induction most generalizing s with
  | zero => exact holds
  | succ most ih =>
      rw [makeMoves]
      cases found : (kind s).findSome? s.step with
      | none => exact holds
      | some next =>
          obtain ⟨move, member, moved⟩ := List.exists_of_findSome?_eq_some found
          exact ih (keeps s next move member moved holds)

/-- Making moves of a kind is a row of moves. -/
theorem reachable_makeMoves (kind : Service → List Move) (most : Nat) :
    s.Reachable (s.makeMoves kind most) :=
  makeMoves_keeps (P := s.Reachable) (fun _ _ move _ moved before => before.step move moved) .refl
    most

/-- A service that is left alone makes moves. -/
theorem reachable_settle (moment : Moment) : s.Reachable (s.settle moment) :=
  reachable_makeMoves _ _

/-- The moves that need nothing from outside, and no file either. -/
inductive Quiet (s : Service) : Move → Prop
  | poll {task : Nat} {t : TimestampTask} (found : s.timestamps[task]? = some t)
      (due : s.isDue t = true) : Quiet s (.pollTimestamp task false)
  | checkFlag : Quiet s .checkFlag
  | heedFlag : Quiet s .heedFlag
  | acquire : Quiet s .acquire
  | closeListener : Quiet s .closeListener
  | heedClose (task : Nat) : Quiet s (.heedClose task)
  | emptyReply {task : Nat} {c : Connection} {rest : Bytes} (served : s.serving? task = some c)
      (phase : c.session.phase = .replying [] rest) : Quiet s (.send task 0)
  | leave (task : Nat) : Quiet s (.leave task)
  | endTask (task : Nat) : Quiet s (.endTask task)
  | beginTeardown : Quiet s .beginTeardown
  | joinHandler : Quiet s .joinHandler
  | joinTimestamp : Quiet s .joinTimestamp
  | finishRun : Quiet s .finishRun
  | returnCaller (caller : Nat) : Quiet s (.returnCaller caller)

/-- No other moves are tried when a service gets on without its files. -/
theorem quiet_of_mem {move : Move} (member : move ∈ s.quietMoves) : s.Quiet move := by
  simp only [quietMoves, List.mem_append, List.mem_filterMap, List.mem_map, List.mem_cons,
    List.not_mem_nil, or_false] at member
  obtain (((((((⟨task, -, found⟩ | rfl | rfl | rfl | rfl) | ⟨task, -, rfl⟩) | ⟨task, -, found⟩) |
    ⟨task, -, rfl⟩) | ⟨task, -, rfl⟩) | rfl | rfl | rfl | rfl) | ⟨caller, -, rfl⟩) := member
  · obtain ⟨t, there, found⟩ := Option.bind_eq_some_iff.mp found
    split at found
    · exact Option.some.inj found ▸ .poll there ‹_›
    · exact nomatch found
  · exact .checkFlag
  · exact .heedFlag
  · exact .acquire
  · exact .closeListener
  · exact .heedClose task
  · obtain ⟨c, served, found⟩ := Option.bind_eq_some_iff.mp found
    split at found
    · exact Option.some.inj found ▸ .emptyReply served ‹_›
    · exact nomatch found
  · exact .leave task
  · exact .endTask task
  · exact .beginTeardown
  · exact .joinHandler
  · exact .joinTimestamp
  · exact .finishRun
  · exact .returnCaller caller

/-- A service that gets on without its files leaves them as they are. -/
theorem storage_getOn : s.getOn.storage = s.storage := by
  apply makeMoves_keeps (P := fun now : Service => now.storage = s.storage) _ rfl
  intro now next move member moved same
  have plain : move.usesLog = false := by cases quiet_of_mem member <;> rfl
  exact (storage_step plain moved).trans same

/-! ## Errands -/

/-- The connection of a task is one of those there are. -/
theorem lt_length_of_serving? {c : Connection} (served : s.serving? task = some c) :
    task < s.connections.length :=
  (List.getElem?_eq_some_iff.mp (Option.filter_eq_some_iff.mp served).1).1

/-- A handler wants its packet appended, or a snapshot taken, as the phase of its session says. -/
theorem handlerErrand?_eq_some : s.handlerErrand? task = some errand ↔
    ∃ c, s.serving? task = some c ∧
      ((∃ packet rest, c.session.phase = .appending packet rest ∧ errand = .append task packet) ∨
        ∃ rest, c.session.phase = .snapshotting rest ∧ errand = .snapshot task) := by
  rw [handlerErrand?, Option.bind_eq_bind, Option.bind_eq_some_iff]
  refine exists_congr fun c => and_congr_right fun _ => ?_
  cases c.session.phase <;> simp [eq_comm]

/-- A timestamp task wants its record appended when it has set that off. -/
theorem timestampErrand?_eq_some : s.timestampErrand? task = some errand ↔
    ∃ t, s.timestamps[task]? = some t ∧ t.phase = .appending ∧ errand = .record task := by
  rw [timestampErrand?, Option.bind_eq_bind, Option.bind_eq_some_iff]
  refine exists_congr fun t => and_congr_right fun _ => ?_
  cases t.phase <;> simp [eq_comm]

/-- **What there is to do**: for the handlers, for the timestamp tasks, and for the teardown. -/
theorem mem_errands_iff : errand ∈ s.errands ↔ (∃ task, s.handlerErrand? task = some errand) ∨
    (∃ task, s.timestampErrand? task = some errand) ∨
      s.teardown = .removing ∧ errand = .removal := by
  have handlers : (∃ task < s.connections.length, s.handlerErrand? task = some errand) ↔
      ∃ task, s.handlerErrand? task = some errand := by
    refine exists_congr fun task => and_iff_right_of_imp fun wanted => ?_
    obtain ⟨c, served, -⟩ := handlerErrand?_eq_some.mp wanted
    exact lt_length_of_serving? served
  have timestamps : (∃ task < s.timestamps.length, s.timestampErrand? task = some errand) ↔
      ∃ task, s.timestampErrand? task = some errand := by
    refine exists_congr fun task => and_iff_right_of_imp fun wanted => ?_
    obtain ⟨t, found, -⟩ := timestampErrand?_eq_some.mp wanted
    exact (List.getElem?_eq_some_iff.mp found).1
  have teardown : errand ∈ (if s.teardown = .removing then [Errand.removal] else []) ↔
      s.teardown = .removing ∧ errand = .removal := by
    split <;> simp [*]
  simp only [errands, List.mem_append, List.mem_filterMap, List.mem_range, handlers, timestamps,
    teardown, or_assoc]

/-- A packet is to be appended when its handler wants that. -/
theorem append_mem_errands_iff {packet : Bytes} :
    .append task packet ∈ s.errands ↔ s.handlerErrand? task = some (.append task packet) := by
  simp [mem_errands_iff, handlerErrand?_eq_some, timestampErrand?_eq_some]

/-- A snapshot is to be taken when a handler wants one. -/
theorem snapshot_mem_errands_iff :
    .snapshot task ∈ s.errands ↔ s.handlerErrand? task = some (.snapshot task) := by
  simp [mem_errands_iff, handlerErrand?_eq_some, timestampErrand?_eq_some]

/-- A record is to be appended when a timestamp task wants that. -/
theorem record_mem_errands_iff :
    .record task ∈ s.errands ↔ s.timestampErrand? task = some (.record task) := by
  simp [mem_errands_iff, handlerErrand?_eq_some, timestampErrand?_eq_some]

/-- The file is to be removed when the teardown has come that far. -/
theorem removal_mem_errands_iff : .removal ∈ s.errands ↔ s.teardown = .removing := by
  simp [mem_errands_iff, handlerErrand?_eq_some, timestampErrand?_eq_some]

/-- **Reports.** Somebody listens to a report exactly if it is of an errand. -/
theorem report?_isSome_iff (report : Report) :
    (s.report? report).isSome ↔ ∃ errand ∈ s.errands, report.isOf errand := by
  cases report with
  | appended task result =>
      have heard : (s.report? (.appended task result)).isSome ↔
          ∃ packet, s.handlerErrand? task = some (.append task packet) := by
        rw [report?, handlerErrand?]
        cases s.serving? task with
        | none => simp
        | some c => cases phase : c.session.phase <;> simp [phase]
      rw [heard]
      refine ⟨fun ⟨packet, wanted⟩ => ⟨_, append_mem_errands_iff.mpr wanted, by simp [Report.isOf]⟩,
        fun ⟨errand, member, isOf⟩ => ?_⟩
      cases errand with
      | append other packet =>
          obtain rfl : task = other := of_decide_eq_true isOf
          exact ⟨packet, append_mem_errands_iff.mp member⟩
      | _ => exact nomatch isOf
  | snapshotTaken task result =>
      have heard : (s.report? (.snapshotTaken task result)).isSome ↔
          s.handlerErrand? task = some (.snapshot task) := by
        rw [report?, handlerErrand?]
        cases s.serving? task with
        | none => simp
        | some c => cases phase : c.session.phase <;> simp [phase]
      rw [heard]
      refine ⟨fun wanted => ⟨_, snapshot_mem_errands_iff.mpr wanted, by simp [Report.isOf]⟩,
        fun ⟨errand, member, isOf⟩ => ?_⟩
      cases errand with
      | snapshot other =>
          obtain rfl : task = other := of_decide_eq_true isOf
          exact snapshot_mem_errands_iff.mp member
      | _ => exact nomatch isOf
  | recordAppended task record timerFirst result =>
      have heard : (s.report? (.recordAppended task record timerFirst result)).isSome ↔
          s.timestampErrand? task = some (.record task) := by
        rw [report?, timestampErrand?]
        cases s.timestamps[task]? with
        | none => simp
        | some t => cases phase : t.phase <;> simp [phase]
      rw [heard]
      refine ⟨fun wanted => ⟨_, record_mem_errands_iff.mpr wanted, by simp [Report.isOf]⟩,
        fun ⟨errand, member, isOf⟩ => ?_⟩
      cases errand with
      | record other =>
          obtain rfl : task = other := of_decide_eq_true isOf
          exact record_mem_errands_iff.mp member
      | _ => exact nomatch isOf
  | removed result =>
      have heard : (s.report? (.removed result)).isSome ↔ s.teardown = .removing := by
        rw [report?]
        split <;> simp [*]
      rw [heard]
      refine ⟨fun removing => ⟨_, removal_mem_errands_iff.mpr removing, rfl⟩,
        fun ⟨errand, member, isOf⟩ => ?_⟩
      cases errand with
      | removal => exact removal_mem_errands_iff.mp member
      | _ => exact nomatch isOf

/-- What there is to report when an errand is done on the service's own files, and the files
afterwards. -/
def carryOut (s : Service) (moment : Moment) : Errand → Report × Storage
  | .append task packet =>
      let appended := s.log.appendAsync packet s.storage
      (.appended task appended.1, appended.2)
  | .snapshot task => (.snapshotTaken task (s.log.snapshot s.storage), s.storage)
  | .record task =>
      let appended := s.log.appendAsync moment.record s.storage
      (.recordAppended task moment.record false appended.1, appended.2)
  | .removal =>
      let removed := s.log.remove s.storage
      (.removed removed.1, removed.2)

/-- **Errands.** A service that does an errand on its own files does what a report of the log's
answer would do, on the files as they are then. -/
theorem step_errandMove (member : errand ∈ s.errands) (moment : Moment) :
    s.step (errandMove moment errand) =
      { s with storage := (s.carryOut moment errand).2 }.report? (s.carryOut moment errand).1 := by
  obtain ⟨task, wanted⟩ | ⟨task, wanted⟩ | ⟨removing, rfl⟩ := mem_errands_iff.mp member
  · obtain ⟨c, served, ⟨packet, rest, appending, rfl⟩ | ⟨rest, snapshotting, rfl⟩⟩ :=
      handlerErrand?_eq_some.mp wanted
    · have there : { s with storage := (s.carryOut moment (.append task packet)).2 }.serving? task =
          some c := served
      change s.append? task = Service.report? _ (.appended task _)
      rw [append?, report?, served, there, Option.bind_eq_bind, Option.bind_some, Option.bind_some]
      simp only [appending]
      rfl
    · change s.snapshot? task = Service.report? _ (.snapshotTaken task _)
      have there : { s with storage := (s.carryOut moment (.snapshot task)).2 }.serving? task =
          some c := served
      rw [snapshot?, report?, served, there, Option.bind_eq_bind, Option.bind_some,
        Option.bind_some]
      simp only [snapshotting]
      rfl
  · obtain ⟨t, found, appending, rfl⟩ := timestampErrand?_eq_some.mp wanted
    change s.writeTimestamp? task moment false = Service.report? _ (.recordAppended task _ _ _)
    simp only [writeTimestamp?, report?, found, Option.bind_eq_bind, Option.bind_some, appending]
    rfl
  · change s.removeFile? = Service.report? _ (.removed _)
    simp only [removeFile?, report?, removing, if_true]
    rfl

/-! ## Among others -/

/-- What can become of a service among others: it makes a move, somebody reports what became of an
errand, or others change the files. -/
inductive Lives (start : Service) : Service → Prop
  | refl : Lives start start
  | move {s next : Service} (move : Move) (before : Lives start s)
      (moved : s.step move = some next) : Lives start next
  | told {s next : Service} (report : Report) (before : Lives start s)
      (told : s.report? report = some next) : Lives start next
  | changed {s : Service} (storage : Storage) (before : Lives start s) :
      Lives start { s with storage }

/-- Lives can be put one after another. -/
theorem Lives.trans (first : start.Lives s) (later : s.Lives next) : start.Lives next := by
  induction later with
  | refl => exact first
  | move move _ moved ih => exact ih.move move moved
  | told report _ told ih => exact ih.told report told
  | changed storage _ ih => exact ih.changed storage

/-- A service that is left alone is among others who do nothing. -/
theorem Reachable.lives (reached : start.Reachable s) : start.Lives s := by
  induction reached with
  | refl => exact .refl
  | step move _ moved ih => exact ih.move move moved

/-- **A report**, whatever it says, is a step of how everybody stands, but for the end of the
teardown. -/
theorem standing_report? {report : Report} (told : s.report? report = some next) :
    s.standing.Step next.standing ∨ s.standing.Finishes next.standing := by
  cases report with
  | appended task result =>
      obtain ⟨c, served, told⟩ := Option.bind_eq_some_iff.mp told
      split at told
      · rename_i packet rest appending
        obtain rfl := Option.some.inj told
        exact .inl (step_packetAppended served packet rest result)
      · exact nomatch told
  | snapshotTaken task result =>
      obtain ⟨c, served, told⟩ := Option.bind_eq_some_iff.mp told
      split at told
      · obtain rfl := Option.some.inj told
        exact .inl (step_setSession served _)
      · exact nomatch told
  | recordAppended task record timerFirst result =>
      obtain ⟨t, found, told⟩ := Option.bind_eq_some_iff.mp told
      split at told
      · rename_i appending
        obtain rfl := Option.some.inj told
        exact .inl (step_recordAppended found appending record timerFirst result)
      · exact nomatch told
  | removed result =>
      change (if s.teardown = .removing then some (s.fileRemoved result) else none) = _ at told
      split at told
      · rename_i removing
        obtain rfl := Option.some.inj told
        exact .inr ⟨removing, rfl⟩
      · exact nomatch told

/-- What every step keeps true of how everybody stands is kept true among others. -/
theorem Lives.keeps {P : Standing → Prop} (lives : start.Lives s) (holds : P start.standing)
    (step : ∀ t next : Standing, t.Step next → P t → P next)
    (finishes : ∀ t next : Standing, t.Finishes next → P t → P next) : P s.standing := by
  induction lives with
  | refl => exact holds
  | move move _ moved ih =>
      obtain stepped | ⟨-, finished, -⟩ := step_standing moved
      · exact step _ _ stepped ih
      · exact finishes _ _ finished ih
  | told report _ told ih =>
      obtain stepped | finished := standing_report? told
      · exact step _ _ stepped ih
      · exact finishes _ _ finished ih
  | changed storage _ ih => exact ih

/-- A service among others stays in order. -/
theorem Lives.orderly (lives : start.Lives s) (orderly : start.standing.Orderly) :
    s.standing.Orderly :=
  lives.keeps orderly (fun _ _ step orderly => step.orderly orderly)
    fun _ _ finishes orderly => finishes.orderly orderly

/-- **Order among others.** Whatever others report and do to the files, a service from its beginning
on is in order and no permit is made or lost. When anybody is told that the shutdown is complete,
all is over, unless timestamps were started more than once. -/
theorem lives_in_order {config : Config} {address : SocketAddress} {storage : Storage}
    (begun : new? config address storage = some start) (lives : start.Lives s) :
    s.standing.Orderly ∧
      s.permits.map (· + s.acceptor.permitsHeld + s.handlersGoingOn) = config.maxConnections ∧
      (.returned ∈ s.callers ∨ (∃ result, s.acceptor = .returned result) →
        s.timestamps.length ≤ 1 → s.standing.Final) := by
  have orderly : s.standing.Orderly := lives.orderly (orderly_of_new begun).1
  have total : s.standing.permitTotal = start.standing.permitTotal :=
    lives.keeps (P := fun t => t.permitTotal = start.standing.permitTotal) rfl
      (fun _ _ step same => step.permitTotal_eq.trans same)
      (fun _ _ finishes same => finishes.permitTotal_eq.trans same)
  rw [permitTotal_of_new begun, permitTotal_standing] at total
  exact ⟨orderly, total, fun told once => orderly.final (orderly.told told) once⟩

end Service

end PacketLog
