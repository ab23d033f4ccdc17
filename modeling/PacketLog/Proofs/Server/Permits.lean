import Mathlib
import PacketLog.Proofs.Server.History
import PacketLog.Proofs.Server.Standing

/-! # Permits

Where connections are bounded, each needs a permit. It lies ready, is in the hand of the acceptor,
or belongs to a handler until its task has ended. Permits come and go on many ways: a connection is
accepted, refused by the registry or fails to come, the acceptor pauses or leaves, a handler ends or
breaks down. On none of them is a permit made or lost (`Standing.Step.permitTotal_eq`), so that at
any time they add up to the bound (`Service.permits_add_up`). -/

namespace PacketLog

/-- The permits in the hand of the acceptor: one or none. -/
def Acceptor.permitsHeld (acceptor : Acceptor) : Nat := acceptor.holdsPermit.toNat

/-- Whether the task of a handler goes on. It keeps the permit for its connection as long. -/
def HandlerStage.goesOn (stage : HandlerStage) : Bool := stage != .ended

namespace Standing

/-- All permits: those that lie ready, those in hand, and those of the handlers whose tasks go on.
There is no such number where connections are not bounded. -/
def permitTotal (t : Standing) : Option Nat :=
  t.permits.map (· + t.acceptor.permitsHeld + t.seats.countP (·.stage.goesOn))

variable {t next : Standing}

/-- The permits add up to the same number where the acceptor and the handlers have one more between
them and one less lies ready, or the other way round. -/
theorem permitTotal_eq_of_moved (ready : Option Nat) (before after : Nat)
    (permits : t.permits = ready.map (· + before))
    (permitsNext : next.permits = ready.map (· + after))
    (balance : after + next.acceptor.permitsHeld + next.seats.countP (·.stage.goesOn) =
      before + t.acceptor.permitsHeld + t.seats.countP (·.stage.goesOn)) :
    next.permitTotal = t.permitTotal := by
  rw [permitTotal, permitTotal, permits, permitsNext]
  cases ready with
  | none => rfl
  | some ready =>
      simp only [Option.map_some, Option.some.injEq]
      omega

/-- The acceptor keeps the permit that it holds, or its lack of one. -/
theorem permitTotal_of_acceptor {acceptor : Acceptor}
    (same : acceptor.holdsPermit = t.acceptor.holdsPermit) :
    { t with acceptor }.permitTotal = t.permitTotal := by
  rw [permitTotal, permitTotal, Acceptor.permitsHeld, same]
  rfl

/-- The acceptor gives its permit back. -/
theorem permitTotal_returnPermit {acceptor : Acceptor} (held : t.acceptor.holdsPermit = true)
    (empty : acceptor.holdsPermit = false) :
    { t.returnPermit with acceptor }.permitTotal = t.permitTotal := by
  apply permitTotal_eq_of_moved t.permits 0 1
  · simp
  · rfl
  · simp only [Acceptor.permitsHeld, held, empty, returnPermit, Bool.toNat_true, Bool.toNat_false]

/-- A handler that goes on keeps its permit. -/
theorem permitTotal_setSeat {task : Nat} {before seat : Seat} (found : t.seats[task]? = some before)
    (same : seat.stage.goesOn = before.stage.goesOn) :
    (t.setSeat task seat).permitTotal = t.permitTotal := by
  have view : (t.seats.set task seat).map (·.stage.goesOn) = t.seats.map (·.stage.goesOn) :=
    Roster.map_set_of_same found same
  have count := congrArg (List.countP id) view
  rw [List.countP_map, List.countP_map] at count
  exact congrArg (fun going => t.permits.map (· + t.acceptor.permitsHeld + going)) count

/-- **One step** makes and loses no permit. -/
theorem Step.permitTotal_eq (step : Step t next) : next.permitTotal = t.permitTotal := by
  cases step with
  | startTimestamps starts => cases starts <;> rfl
  | run idle starts =>
      have same : Acceptor.checking.holdsPermit = t.acceptor.holdsPermit := by rw [idle]; rfl
      cases starts <;> exact permitTotal_of_acceptor same
  | checkFlag checking =>
      apply permitTotal_of_acceptor
      rw [checking]
      split <;> rfl
  | @acquire left awaiting permit =>
      apply permitTotal_eq_of_moved left 1 0 permit
      · simp
      · simp [Acceptor.permitsHeld, Acceptor.holdsPermit, awaiting]
  | @enroll peer key accepting offered =>
      -- The permit goes from the hand of the acceptor to the new handler.
      apply permitTotal_eq_of_moved t.permits 0 0
      · simp
      · simp
      · simp [Acceptor.permitsHeld, Acceptor.holdsPermit, accepting, HandlerStage.goesOn]
        omega
  | refuse accepting refused | retry accepting | fail accepting =>
      exact permitTotal_returnPermit (congrArg Acceptor.holdsPermit accepting) rfl
  | pause accepting =>
      exact permitTotal_of_acceptor (congrArg Acceptor.holdsPermit accepting).symm
  | resume pausing => exact permitTotal_returnPermit (congrArg Acceptor.holdsPermit pausing) rfl
  | giveUpWaiting flag awaiting =>
      exact permitTotal_of_acceptor (congrArg Acceptor.holdsPermit awaiting).symm
  | giveUpPermit flag holding => exact permitTotal_returnPermit holding rfl
  | closeListener leaving =>
      exact permitTotal_of_acceptor (congrArg Acceptor.holdsPermit leaving).symm
  | finishRun waiting done =>
      exact permitTotal_of_acceptor (congrArg Acceptor.holdsPermit waiting).symm
  | work found serving going => exact permitTotal_setSeat found rfl
  | @leave task seat found serving finished =>
      have same : { seat with stage := .leaving }.stage.goesOn = seat.stage.goesOn := by
        rw [serving]
        rfl
      exact permitTotal_setSeat found same
  | @endTask task before found leaving =>
      rcases List.getElem?_eq_some_iff.mp found with ⟨inside, rfl⟩
      have one : 0 < t.seats.countP (·.stage.goesOn) :=
        List.countP_pos_iff.mpr ⟨_, List.getElem_mem inside, by rw [leaving]; rfl⟩
      apply permitTotal_eq_of_moved t.permits 0 1
      · simp
      · rfl
      · have keeps : HandlerStage.leaving.goesOn = true := rfl
        have gives : HandlerStage.ended.goesOn = false := rfl
        simp only [setSeat, returnPermit, List.countP_set inside, leaving, keeps, gives]
        simp only [↓reduceIte, Bool.false_eq_true]
        omega
  | _ => rfl

/-- The end of the teardown makes and loses no permit. -/
theorem Finishes.permitTotal_eq (finishes : t.Finishes next) :
    next.permitTotal = t.permitTotal := by
  rcases finishes with ⟨_, rfl⟩
  rfl

end Standing

namespace Service

variable {start s next : Service} {config : Config} {bound : Nat}

/-- The handlers whose tasks go on. -/
def handlersGoingOn (s : Service) : Nat := s.connections.countP (·.stage.goesOn)

/-- The sessions that go on. -/
def sessionsGoingOn (s : Service) : Nat :=
  s.connections.countP fun c => c.stage == .serving && !c.isOver

/-- The permits in all are those that are free, that of the acceptor, and those of the handlers that
go on. -/
theorem permitTotal_standing :
    s.standing.permitTotal = s.permits.map (· + s.acceptor.permitsHeld + s.handlersGoingOn) := by
  rw [Standing.permitTotal, standing, List.countP_map]
  rfl

/-- At the beginning there are as many permits as configured. -/
theorem permitTotal_of_new {address : SocketAddress} {storage : Storage}
    (begun : new? config address storage = some start) :
    start.standing.permitTotal = config.maxConnections := by
  rw [new?] at begun
  split at begun
  · exact nomatch begun
  · obtain rfl := Option.some.inj begun
    exact Option.map_id'

/-- **No run** makes or loses a permit. -/
theorem Reachable.permitTotal_eq (reached : start.Reachable s) :
    s.standing.permitTotal = start.standing.permitTotal := by
  induction reached with
  | refl => rfl
  | step move before moved ih =>
      rcases step_standing moved with step | ⟨_, finishes, _⟩
      · exact step.permitTotal_eq.trans ih
      · exact finishes.permitTotal_eq.trans ih

private theorem sessionsGoingOn_le : s.sessionsGoingOn ≤ s.handlersGoingOn := by
  apply List.countP_mono_left
  intro c _ going
  rw [Bool.and_eq_true, beq_iff_eq] at going
  rw [going.1]
  rfl

/-- An acceptor that waits for a permit gets one as soon as one lies ready. -/
theorem acquire?_isSome_iff {left : Nat} (permits : s.permits = some left)
    (awaiting : s.acceptor = .awaitingPermit) : s.acquire?.isSome ↔ 0 < left := by
  rw [acquire?, awaiting, permits]
  cases left <;> simp

/-- **Permits add up.** Where connections are bounded, the permits that lie ready, the one in the
hand of the acceptor and those of the handlers whose tasks go on are as many as the bound, in every
state that a service can get to. So no more sessions go on at once, an acceptor that waits for a
permit gets one exactly if fewer handlers than the bound go on, and once all have ended and the
acceptor has none in hand, all permits lie ready. -/
theorem permits_add_up {address : SocketAddress} {storage : Storage}
    (begun : new? config address storage = some start)
    (bounded : config.maxConnections = some bound) (reached : start.Reachable s) :
    ∃ left, s.permits = some left ∧
      left + s.acceptor.permitsHeld + s.handlersGoingOn = bound ∧
      s.sessionsGoingOn ≤ bound ∧
      (s.acceptor = .awaitingPermit → (s.acquire?.isSome ↔ s.handlersGoingOn < bound)) ∧
      ((∀ c ∈ s.connections, c.stage = .ended) → s.acceptor.holdsPermit = false → left = bound) := by
  have total := reached.permitTotal_eq
  rw [permitTotal_of_new begun, bounded, permitTotal_standing, Option.map_eq_some_iff] at total
  rcases total with ⟨left, permits, sum⟩
  refine ⟨left, permits, sum, ?_, ?_, ?_⟩
  · have fewer := s.sessionsGoingOn_le
    omega
  · intro awaiting
    have none : s.acceptor.permitsHeld = 0 := by rw [awaiting]; rfl
    rw [acquire?_isSome_iff permits awaiting]
    omega
  · intro ended empty
    have none : s.acceptor.permitsHeld = 0 := by rw [Acceptor.permitsHeld, empty]; rfl
    have gone : s.handlersGoingOn = 0 := by
      rw [handlersGoingOn, List.countP_eq_zero]
      intro c member
      rw [ended c member]
      decide
    omega

/-- Two permits: a handler breaks down, accepting fails once for a while and once for one
connection, and the registry refuses a connection that comes in during shutdown. One handler goes
on. -/
theorem permits_with_one_handler_left :
    let config : Config :=
      ⟨.loopback 9, false, [47, 108], none, 8, 4, 16, some 2, "info", none⟩
    let moves : List Move :=
      [.run, .checkFlag, .acquire, .accept (.loopback 1), .checkFlag, .acquire,
        .failAccept (.os Errno.tooManyFiles), .resume, .checkFlag, .acquire,
        .failAccept (.bare .connectionReset), .checkFlag, .acquire, .accept (.loopback 2), .crash 1,
        .leave 1, .endTask 1, .checkFlag, .acquire, .callShutdown, .beginTeardown,
        .accept (.loopback 3)]
    ∃ start past s, new? config (.loopback 9) (.ofTree ⟨[]⟩ []) = some start ∧
      start.play moves = some (past, s) ∧ s.handlersGoingOn = 1 ∧ s.permits = some 1 := by
  intro config moves
  rcases Option.isSome_iff_exists.mp (rfl : (new? config (.loopback 9) (.ofTree ⟨[]⟩ [])).isSome)
    with ⟨start, begun⟩
  have outcome : ((new? config (.loopback 9) (.ofTree ⟨[]⟩ [])).bind fun start =>
      (start.play moves).map fun played =>
        (played.2.handlersGoingOn, played.2.acceptor.permitsHeld)) = some (1, 0) := by cbv
  rw [begun, Option.bind_some, Option.map_eq_some_iff] at outcome
  rcases outcome with ⟨⟨past, s⟩, played, same⟩
  rcases Prod.mk.inj same with ⟨going, held⟩
  rcases permits_add_up begun rfl (reachable_iff_history.mpr ⟨past, history_of_play played⟩) with
    ⟨left, permits, sum, _⟩
  dsimp only at going held
  have one : left = 1 := by omega
  exact ⟨start, past, s, begun, played, going, one ▸ permits⟩

end Service

end PacketLog
