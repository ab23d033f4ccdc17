import Mathlib
import PacketLog.Proofs.Server.Acceptance
import PacketLog.Proofs.Server.Settling
import PacketLog.Server.Trial

/-! # Trials

What is done in a trial leads the service no further than its moves and changes of its files do, and
nobody comes (`Trial.tried_course`). So whatever is done, and in whatever order, the service stays
in order: its permits are with the acceptor or free, nobody is registered, and who is told that the
shutdown is complete can rely on it (`Trial.course_in_order`). -/

namespace PacketLog

/-- A service lived on while nobody came. -/
structure Service.Tried (start s : Service) : Prop where
  lives : start.Lives s
  nobody : s.connections = []

namespace Service.Tried

variable {start s next : Service} (orderly : start.standing.Orderly)

include orderly

/-- Nobody comes by a move of anything but the acceptor's luck. -/
theorem move (tried : start.Tried s) (move : Move) (lonely : ∀ peer, move ≠ .accept peer)
    (moved : s.step move = some next) : start.Tried next := by
  refine ⟨tried.lives.move move moved, ?_⟩
  have same : next.peers = s.peers := by
    have received := step_receives (tried.lives.orderly orderly) moved
    generalize outcome : move.outcome? = what at received
    cases received with
    | @accepted peer =>
        cases move with
        | accept peer => exact absurd rfl (lonely peer)
        | _ => exact nomatch outcome
    | retried _ _ _ peers | failed _ _ _ peers | heeded _ _ _ peers | aside _ peers => exact peers
  rw [peers, peers, tried.nobody] at same
  exact List.map_eq_nil_iff.mp same

/-- A move that may be impossible is tried. -/
theorem attempt (tried : start.Tried s) (move : Move) (lonely : ∀ peer, move ≠ .accept peer) :
    start.Tried ((s.step move).getD s) := by
  cases moved : s.step move with
  | none => exact tried
  | some next => exact tried.move orderly move lonely moved

/-- The service gets on by itself. -/
theorem settle (tried : start.Tried s) (moment : Moment) : start.Tried (s.settle moment) := by
  apply makeMoves_keeps (P := start.Tried) _ tried
  intro now next move member moved before
  refine before.move orderly move (fun peer => ?_) moved
  rintro rfl
  obtain quiet | errand := List.mem_append.mp member
  · exact nomatch quiet_of_mem quiet
  · obtain ⟨errand, -, made⟩ := List.mem_map.mp errand
    cases errand <;> exact nomatch made

/-- Several ask for shutdown. -/
theorem callShutdown (tried : start.Tried s) (calls : Nat) :
    start.Tried (calls.repeat Service.callShutdown s) := by
  induction calls with
  | zero => exact tried
  | succ calls ih => exact ih.move orderly .callShutdown (by simp) rfl

omit orderly in
/-- Others change the files. -/
theorem changed (tried : start.Tried s) (storage : Storage) :
    start.Tried { s with storage } :=
  ⟨tried.lives.changed storage, tried.nobody⟩

end Service.Tried

/-! ## Addresses -/

namespace Isolation

variable {address found : SocketAddress}

/-- Whoever leaves the choice of a port to the host gets one. -/
theorem port_bound_pos (address : SocketAddress) : 0 < (bound address).port := by
  rcases address with ⟨ip, _ | port⟩ | ⟨ip, scope, _ | port⟩ <;>
    simp [bound, SocketAddress.port, anyPort]

/-- Whoever asks for a port gets it. -/
theorem bound_of_port_pos (given : 0 < address.port) : bound address = address := by
  rcases address with ⟨ip, _ | port⟩ | ⟨ip, scope, _ | port⟩
  · exact nomatch given
  · rfl
  · exact nomatch given
  · rfl

/-- **Binding.** An address that can be bound can be bound as it was found to be, too. -/
theorem bind_eq_ok (could : bind address = .ok found) :
    found = bound address ∧ bind found = .ok found := by
  have allowed : bindError? address = none ∧ bound address = found := by
    rw [bind] at could
    split at could
    · exact nomatch could
    · exact ⟨‹_›, Except.ok.inj could⟩
  obtain ⟨allowed, rfl⟩ := allowed
  refine ⟨rfl, ?_⟩
  have again : bindError? (bound address) = none := by
    rcases address with ⟨ip, _ | port⟩ | ⟨ip, scope, _ | port⟩
    · rfl
    · exact allowed
    · simpa [bindError?, bound, SocketAddress.port, anyPort, firstFreePort] using allowed
    · exact allowed
  rw [bind, again, bound_of_port_pos (port_bound_pos address)]

end Isolation

/-! ## What is done -/

namespace Trial

/-- What can be done in a trial. -/
inductive Act
  | run
  | trigger
  | shutdown (calls : Nat)
  | startTimestamps
  | planFailures (failures : List Errno)
  | breakListener
  | pause
  | join
  | awaitHandlers (count : Nat)
  | changeFiles (storage : Storage)

/-- Does something in a trial. -/
def perform (t : Trial) : Act → Trial
  | .run => t.run
  | .trigger => t.trigger.2
  | .shutdown calls => t.shutdown calls
  | .startTimestamps => t.startTimestamps
  | .planFailures failures => t.planFailures failures
  | .breakListener => t.breakListener
  | .pause => t.pause
  | .join => t.join.2
  | .awaitHandlers count => (t.awaitHandlers count).2
  | .changeFiles storage => { t with service := { t.service with storage } }

variable {start : Service} {t : Trial}

section

variable (orderly : start.standing.Orderly)

include orderly

/-- The service gets on, and accepting fails as planned. -/
theorem tried_settleWithin (tried : start.Tried t.service) (rounds : Nat) :
    start.Tried (t.settleWithin rounds).service := by
  induction rounds generalizing t with
  | zero => exact tried
  | succ rounds ih =>
      have settled := tried.settle orderly t.moment
      rw [settleWithin]
      split
      · split
        · rename_i service failed
          exact ih (settled.move orderly (.failAccept _) (by simp) failed)
        · exact settled
      · exact settled

/-- Something is done to the service, which then gets on. -/
theorem tried_act {change : Service → Service} (changed : start.Tried (change t.service)) :
    start.Tried (t.act change).service :=
  tried_settleWithin orderly changed _

/-- Time passes, and an acceptor that waits for resources tries again. -/
theorem tried_pause (tried : start.Tried t.service) : start.Tried t.pause.service := by
  have passed : start.Tried (t.service.pass Service.backOff) :=
    tried.move orderly (.pass _) (by simp) rfl
  exact tried_act orderly (passed.attempt orderly .resume (by simp))

/-- Somebody waits. -/
theorem tried_wait (tried : start.Tried t.service) : start.Tried t.wait.service := by
  have waits : ∀ times : Nat, start.Tried (times.repeat pause t).service := by
    intro times
    induction times with
    | zero => exact tried
    | succ times ih => exact tried_pause orderly ih
  exact waits patience

omit orderly in
/-- The data file is tried out. -/
theorem tried_tryDataFile (tried : start.Tried t.service) : start.Tried t.tryDataFile.service := by
  rw [tryDataFile]
  split
  · exact tried.changed _
  · exact tried

/-- Somebody waits for the service to return. -/
theorem tried_join (tried : start.Tried t.service) : start.Tried t.join.2.service := by
  have waited := tried_wait orderly tried
  rw [join]
  split
  · exact tried
  · exact tried
  · split
    · exact waited
    · exact tried_tryDataFile waited

/-- Somebody waits for handlers. -/
theorem tried_awaitHandlers (tried : start.Tried t.service) (count : Nat) :
    start.Tried (t.awaitHandlers count).2.service := by
  have waited := tried_wait orderly tried
  rw [awaitHandlers]
  split
  · exact tried
  · split
    · exact waited
    · exact tried_tryDataFile waited

/-- **One thing is done.** -/
theorem tried_perform (tried : start.Tried t.service) (act : Act) :
    start.Tried (t.perform act).service := by
  cases act with
  | run => exact tried_act orderly (tried.attempt orderly .run (by simp))
  | trigger =>
      exact tried_settleWithin orderly (t := { t with service := t.service.trigger.2 })
        (tried.move orderly .trigger (by simp) rfl) _
  | shutdown calls => exact tried_act orderly (tried.callShutdown orderly calls)
  | startTimestamps =>
      exact tried_act orderly (tried.move orderly .startTimestamps (by simp) rfl)
  | planFailures failures => exact tried
  | breakListener => exact tried_settleWithin orderly (t := { t with broken := true }) tried _
  | pause => exact tried_pause orderly tried
  | join => exact tried_join orderly tried
  | awaitHandlers count => exact tried_awaitHandlers orderly tried count
  | changeFiles storage => exact tried.changed storage

/-- **Trials.** Whatever is done in a trial, in whatever order, the service lives on, and nobody
comes. -/
theorem tried_course (tried : start.Tried t.service) (acts : List Act) :
    start.Tried (acts.foldl perform t).service := by
  induction acts generalizing t with
  | nil => exact tried
  | cons act acts ih => exact ih (tried_perform orderly tried act)

end

/-! ## Getting on in a trial -/

/-- An acceptor that has left its loop does not accept any more, whatever moves are made. -/
private theorem left_settle {s : Service} (orderly : s.standing.Orderly) (moment : Moment)
    (left : s.acceptor.result?.isSome) : (s.settle moment).acceptor ≠ .accepting := by
  have kept : (s.settle moment).standing.Orderly ∧
      (s.settle moment).acceptor.result?.isSome := by
    apply Service.makeMoves_keeps
      (P := fun now : Service => now.standing.Orderly ∧ now.acceptor.result?.isSome) _
      ⟨orderly, left⟩
    rintro now next move - moved ⟨orderly, left⟩
    refine ⟨Service.orderly_of_step moved orderly, ?_⟩
    have received := Service.step_receives orderly moved
    generalize move.outcome? = outcome at received
    cases received with
    | accepted waiting | retried waiting | failed waiting =>
        rw [waiting] at left
        exact nomatch left
    | heeded _ within =>
        rw [within] at left
        exact nomatch left
    | aside same => rwa [same]
  intro accepting
  rw [accepting] at kept
  exact nomatch kept.2

/-- The failure of a broken listener ends the loop of the acceptor. -/
private theorem failAccept?_brokenListener {s next : Service}
    (failed : s.failAccept? (.os Isolation.brokenListener) = some next) :
    next.acceptor.result?.isSome := by
  rw [Service.failAccept?] at failed
  split at failed
  · have verdict : AcceptVerdict.of (.os Isolation.brokenListener) = .stop := by decide
    rw [verdict] at failed
    obtain rfl := Option.some.inj failed
    rfl
  · cases failed

/-- Whether the rounds of a trial are enough: accepting can fail as often as is planned and once
more, and not at all when the acceptor has left its loop. -/
private def Enough (t : Trial) (rounds : Nat) : Prop :=
  t.failures.length + 2 ≤ rounds ∨ t.service.acceptor.result?.isSome ∧ 1 ≤ rounds

private theorem rests_settleWithin {rounds : Nat} (orderly : t.service.standing.Orderly)
    (paced : t.service.Paced) (enough : t.Enough rounds) :
    let last := t.settleWithin rounds
    last.service.Rests ∧ (last.broken → last.service.acceptor ≠ .accepting) := by
  induction rounds generalizing t with
  | zero => rcases enough with enough | ⟨-, enough⟩ <;> exact absurd enough (by simp)
  | succ rounds ih =>
      have settled := Service.reachable_settle (s := t.service) t.moment
      have rests := Service.rests_settle paced t.moment
      rw [settleWithin]
      split
      · split
        · rename_i next failed
          have move : (t.service.settle t.moment).step (.failAccept _) = some next := failed
          have before := settled.lives.orderly orderly
          refine ih (Service.orderly_of_step move before)
            ((settled.lives.paced paced).step move) ?_
          obtain planned | ⟨left, -⟩ := enough
          · cases failures : t.failures with
            | nil =>
                rw [failures] at failed planned
                exact .inr ⟨failAccept?_brokenListener failed, Nat.le_of_succ_le_succ planned⟩
            | cons failure failures =>
                rw [failures] at planned
                exact .inl (Nat.le_of_succ_le_succ planned)
          · have accepting : (t.service.settle t.moment).acceptor = .accepting := by
              rw [Service.failAccept?] at failed
              split at failed
              · assumption
              · cases failed
            exact absurd accepting (left_settle orderly t.moment left)
        · rename_i stuck
          refine ⟨rests, fun _ accepting => ?_⟩
          obtain ⟨next, failed⟩ := Service.exists_failAccept accepting _
          cases stuck.symm.trans failed
      · exact ⟨rests, fun broken => absurd broken ‹_›⟩

/-- **Getting on.** A trial gets on until its service rests, and accepting has failed as often as it
could: no more failures can come than are planned and that of the listener. -/
theorem rests_settle (orderly : t.service.standing.Orderly) (paced : t.service.Paced) :
    t.settle.service.Rests ∧ (t.settle.broken → t.settle.service.acceptor ≠ .accepting) :=
  rests_settleWithin orderly paced (.inl (Nat.le_refl _))

/-! ## Whole trials -/

/-- A trial is of a service that has not been started, at the address that was bound. -/
theorem prepare_eq_ok {config : Config} {storage : Storage}
    (prepared : prepare config storage = .ok (some t)) :
    ∃ address, Isolation.bind config.listen = .ok address ∧
      Service.new? config address storage = some t.service := by
  rw [prepare] at prepared
  cases bound : Isolation.bind config.listen with
  | error e =>
      rw [bound] at prepared
      exact nomatch prepared
  | ok address =>
      rw [bound] at prepared
      obtain ⟨service, begun, rfl⟩ := Option.map_eq_some_iff.mp (Except.ok.inj prepared)
      exact ⟨address, rfl, begun⟩

/-- A service that has not been started listens nowhere else, and nobody has come. -/
private theorem fresh_of_new {config : Config} {address : SocketAddress} {storage : Storage}
    (begun : Service.new? config address storage = some start) :
    start.address = address ∧ start.connections = [] := by
  rw [Service.new?] at begun
  split at begun
  · cases begun
  · exact Option.some.inj begun ▸ ⟨rfl, rfl⟩

/-- A trial listens where it was asked to, at a port that was found for it if none was given. -/
theorem listens_where_asked {config : Config} {storage : Storage}
    (prepared : prepare config storage = .ok (some t)) :
    0 < t.service.address.port ∧
      (0 < config.listen.port → t.service.address = config.listen) := by
  obtain ⟨address, bound, begun⟩ := prepare_eq_ok prepared
  obtain ⟨rfl, -⟩ := Isolation.bind_eq_ok bound
  rw [(fresh_of_new begun).1]
  exact ⟨Isolation.port_bound_pos _, Isolation.bound_of_port_pos⟩

/-- When waiting for the service to return comes to that, the acceptor has returned. -/
theorem acceptor_of_join {result : Except IoError Unit} (returned : t.join.1 = .returned result) :
    t.join.2.service.acceptor = .returned result := by
  unfold join at returned ⊢
  cases acceptor : t.service.acceptor with
  | idle =>
      rw [acceptor] at returned
      exact nomatch returned
  | returned result => simp_all
  | _ => cases waited : t.wait.service.acceptor <;> simp_all

/-- **Order in trials.** Whatever is done in a trial, the free permits and those in the hand of the
acceptor add up to those configured, and nobody is registered or lives. Whoever was told that the
shutdown is complete can rely on it, unless timestamps were started more than once, and so can who
has waited for the service to return. -/
theorem course_in_order {config : Config} {storage : Storage}
    (prepared : prepare config storage = .ok (some t)) (acts : List Act) :
    let last := acts.foldl perform t
    last.service.permits.map (· + last.service.acceptor.permitsHeld) = config.maxConnections ∧
      last.registered = 0 ∧ last.live = 0 ∧
      (0 < last.returnedCalls → last.service.timestamps.length ≤ 1 →
        last.service.standing.Final) ∧
      (∀ result, last.join.1 = .returned result → last.join.2.service.timestamps.length ≤ 1 →
        last.join.2.service.standing.Final) := by
  obtain ⟨address, -, begun⟩ := prepare_eq_ok prepared
  have orderly := (Service.orderly_of_new begun).1
  intro last
  have tried : t.service.Tried last.service :=
    tried_course orderly ⟨.refl, (fresh_of_new begun).2⟩ acts
  have inOrder := Service.lives_in_order begun tried.lives
  have joined := Service.lives_in_order begun (tried_join orderly tried).lives
  refine ⟨?_, ?_, ?_, fun told => inOrder.2.2 (.inl (List.count_pos_iff.mp told)),
    fun result returned => joined.2.2 (.inr ⟨result, acceptor_of_join returned⟩)⟩
  · have total := inOrder.2.1
    rw [Service.handlersGoingOn, tried.nobody] at total
    exact total
  · have bounded := inOrder.1.roster.size_lock_le rfl
    rw [Service.standing, Standing.roster, tried.nobody] at bounded
    exact Nat.le_zero.mp bounded
  · rw [live, tried.nobody]
    rfl

end Trial

end PacketLog
