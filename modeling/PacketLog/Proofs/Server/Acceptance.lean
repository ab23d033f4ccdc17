import Mathlib
import PacketLog.Proofs.Server.Departure

/-! # What the acceptor makes of those who come

To the acceptor, a run of the service is a row of outcomes: connections, and failures to get one.
What each move does about them is told once (`Service.step_receives`), and so the outcomes tell how
its loop stands: it goes on until the flag is set or a failure is fatal, and whatever is neither
costs it nothing (`Acceptor.Settles`). The connections are served by handlers, one for each and in
order, but for the last of them that may have come after the registry was drained
(`Service.Received`).
-/

namespace PacketLog

/-- Whether a failed accept is fatal: it does not concern one connection only, and the host is not
out of resources. -/
def IoError.isFatalAccept (e : IoError) : Bool := !e.isTransientAccept && !e.isExhaustion

private theorem AcceptVerdict.of_eq_stop_iff {e : IoError} :
    AcceptVerdict.of e = .stop ↔ e.isFatalAccept = true := by
  rw [AcceptVerdict.of, IoError.isFatalAccept]
  cases e.isTransientAccept <;> cases e.isExhaustion <;> decide

/-- What a move comes to that ends a wait for a connection. -/
def Move.outcome? : Move → Option (Except IoError SocketAddress)
  | .accept peer => some (.ok peer)
  | .failAccept e => some (.error e)
  | _ => none

namespace Acceptor

/-- What came of waiting for connections, in order. -/
def outcomes (moves : List Move) : List (Except IoError SocketAddress) :=
  moves.filterMap Move.outcome?

/-- Those whose connections were accepted, in order. -/
def arrivals (outcomes : List (Except IoError SocketAddress)) : List SocketAddress :=
  outcomes.filterMap Except.toOption

/-- No failure was fatal. -/
def Harmless (outcomes : List (Except IoError SocketAddress)) : Prop :=
  ∀ e, .error e ∈ outcomes → e.isFatalAccept = false

/-- What the loop has ended with. -/
def result? : Acceptor → Option (Except IoError Unit)
  | .leaving result | .tearingDown result | .returned result => some result
  | _ => none

/-- How many outcomes there can still be once the flag is set. -/
def chances : Acceptor → Nat
  | .awaitingPermit | .accepting => 1
  | _ => 0

private theorem chances_le_one (acceptor : Acceptor) : acceptor.chances ≤ 1 := by
  cases acceptor with
  | awaitingPermit | accepting => exact Nat.le_refl _
  | _ => exact Nat.zero_le _

/-- What the loop has ended with after some outcomes: nothing yet, and no failure was fatal; or
well, since the flag is set, and no failure was fatal; or with the first failure that was, and that
was the last outcome. -/
inductive Settles (flag : Bool) (outcomes : List (Except IoError SocketAddress)) :
    Option (Except IoError Unit) → Prop
  | goesOn (harmless : Harmless outcomes) : Settles flag outcomes none
  | shutDown (set : flag = true) (harmless : Harmless outcomes) :
      Settles flag outcomes (some (.ok ()))
  | failed {before : List (Except IoError SocketAddress)} {e : IoError}
      (last : outcomes = before ++ [.error e]) (fatal : e.isFatalAccept = true)
      (harmless : Harmless before) : Settles flag outcomes (some (.error e))

variable {outcomes later : List (Except IoError SocketAddress)}

private theorem outcomes_cons (move : Move) (moves : List Move) :
    Acceptor.outcomes (move :: moves) = move.outcome?.toList ++ Acceptor.outcomes moves := by
  rw [Acceptor.outcomes, List.filterMap_cons]
  cases move.outcome? <;> rfl

private theorem harmless_append :
    Harmless (outcomes ++ later) ↔ Harmless outcomes ∧ Harmless later := by
  constructor
  · intro harmless
    exact ⟨fun e member => harmless e (List.mem_append_left _ member),
      fun e member => harmless e (List.mem_append_right _ member)⟩
  · rintro ⟨first, second⟩ e member
    exact (List.mem_append.mp member).elim (first e) (second e)

private theorem arrivals_append (outcomes later : List (Except IoError SocketAddress)) :
    arrivals (outcomes ++ later) = arrivals outcomes ++ arrivals later :=
  List.filterMap_append

end Acceptor

open Acceptor

namespace Service

variable {start s next last : Service} {move : Move} {moves : List Move} {peer : SocketAddress}
  {past : List Occurrence}

/-! ## One move -/

/-- What becomes of a connection that is accepted: it is handed to a handler of its own, which the
registry knows under one key, or the registry was drained before, and it is dropped. -/
inductive Accepts (s next : Service) (peer : SocketAddress) : Prop
  | handed {c : Connection} (opened : s.registry.closed = false)
      (connections : next.connections = s.connections ++ [c]) (served : c.peer = peer)
      (serving : c.stage = .serving ∧ c.isOver = false)
      (entry : next.registry.entry? c.key = some ⟨peer, s.connections.length⟩)
      (only : ∀ key entry, next.registry.entry? key = some entry →
        entry.task = s.connections.length → key = c.key) : Accepts s next peer
  | dropped (closed : s.registry.closed = true) (connections : next.connections = s.connections) :
      Accepts s next peer

/-- The peers of the connections that were handed to handlers. -/
def peers (s : Service) : List SocketAddress := s.connections.map Connection.peer

/-- What a move does about waiting for connections: one is accepted; a failure does not end the
loop, or it is fatal and does; the flag ends it; or the move has nothing to do with it. -/
inductive Receives (s next : Service) : Option (Except IoError SocketAddress) → Prop
  | accepted {peer : SocketAddress} (waiting : s.acceptor = .accepting)
      (goesOn : next.acceptor = .checking) (accepts : s.Accepts next peer) :
      Receives s next (some (.ok peer))
  | retried {e : IoError} (waiting : s.acceptor = .accepting) (harmless : e.isFatalAccept = false)
      (goesOn : next.acceptor = .checking ∨ next.acceptor = .backingOff)
      (peers : next.peers = s.peers) : Receives s next (some (.error e))
  | failed {e : IoError} (waiting : s.acceptor = .accepting) (fatal : e.isFatalAccept = true)
      (left : next.acceptor = .leaving (.error e)) (peers : next.peers = s.peers) :
      Receives s next (some (.error e))
  | heeded (set : s.flag.triggered = true) (within : s.acceptor.result? = none)
      (left : next.acceptor = .leaving (.ok ())) (peers : next.peers = s.peers) :
      Receives s next none
  | aside (result : next.acceptor.result? = s.acceptor.result?) (peers : next.peers = s.peers) :
      Receives s next none

private theorem dispatch_refused (refused : s.registry.lock.offer? = none) :
    (s.dispatch peer).connections = s.connections := by
  unfold dispatch
  dsimp only [lockRegistry]
  rw [refused]
  rfl

private theorem dispatch_offered {key : Nat} (offered : s.registry.lock.offer? = some key)
    (peer : SocketAddress) :
    ∃ c, (s.dispatch peer).connections = s.connections ++ [c] ∧
      c.seat = ⟨peer, key, .serving, false⟩ ∧
      (s.dispatch peer).registry.closed = s.registry.closed := by
  unfold dispatch
  dsimp only [lockRegistry]
  rw [offered]
  refine ⟨_, rfl, rfl, ?_⟩
  change (s.registry.lock.register _).lock.closed = s.registry.closed
  rw [Registry.closed_lock, Registry.closed_register, Registry.closed_lock]

/-- A handler that has just been registered has its entry, and no other. -/
theorem accepts_accept? (orderly : s.standing.Orderly) (moved : s.accept? peer = some next) :
    s.acceptor = .accepting ∧ next.acceptor = .checking ∧ s.Accepts next peer := by
  have stepped : s.step (.accept peer) = some next := moved
  have sound := (orderly_of_step stepped orderly).roster
  unfold accept? at moved
  split at moved
  · rename_i accepting
    obtain rfl := Option.some.inj moved
    refine ⟨accepting, rfl, ?_⟩
    cases offer : s.registry.lock.offer? with
    | none =>
        refine .dropped ?_ (dispatch_refused offer)
        rw [← Registry.closed_lock]
        exact Registry.offer?_eq_none_iff.mp offer
    | some key =>
        have opened : s.registry.closed = false := by
          rw [← Registry.closed_lock]
          exact (Registry.offer?_eq_some_iff.mp offer).1
        obtain ⟨c, connections, seat, closed⟩ := dispatch_offered offer peer
        obtain rfl : c.key = key := congrArg Seat.key seat
        obtain rfl : c.peer = peer := congrArg Seat.peer seat
        let next : Service := { s.dispatch c.peer with acceptor := .checking }
        have guard : next.standing.roster.guards[s.connections.length]? =
            some ⟨c.key, c.peer, true⟩ := by
          change ((s.dispatch c.peer).connections.map Connection.seat |>.map Seat.guard)[_]? = _
          rw [List.getElem?_map, List.getElem?_map, connections, List.getElem?_concat_length]
          exact congrArg (fun seat : Seat => some seat.guard) seat
        refine .handed opened connections rfl ?_ ?_ ?_
        · exact ⟨congrArg Seat.stage seat, congrArg Seat.finished seat⟩
        · exact (sound.entered (closed.trans opened) ⟨guard, rfl⟩).1
        · intro key entry found task
          obtain ⟨owner, place, same, _⟩ := sound.owned found
          rw [task, guard] at place
          obtain rfl := Option.some.inj place
          exact same.symm
  · exact nomatch moved

private theorem receives_failAccept? {e : IoError} (moved : s.failAccept? e = some next) :
    s.Receives next (some (.error e)) := by
  unfold failAccept? at moved
  split at moved
  · rename_i accepting
    cases verdict : AcceptVerdict.of e with
    | again =>
        rw [verdict] at moved
        obtain rfl := Option.some.inj moved
        exact .retried accepting (by grind [AcceptVerdict.of_eq_stop_iff]) (.inl rfl) rfl
    | backOff =>
        rw [verdict] at moved
        obtain rfl := Option.some.inj moved
        exact .retried accepting (by grind [AcceptVerdict.of_eq_stop_iff]) (.inr rfl) rfl
    | stop =>
        rw [verdict] at moved
        obtain rfl := Option.some.inj moved
        exact .failed accepting (AcceptVerdict.of_eq_stop_iff.mp verdict) rfl rfl
  · exact nomatch moved

private theorem receives_checkFlag? (moved : s.checkFlag? = some next) : s.Receives next none := by
  unfold checkFlag? at moved
  split at moved
  · rename_i checking
    obtain rfl := Option.some.inj moved
    by_cases set : s.flag.triggered
    · exact .heeded set (by rw [checking]; rfl) (if_pos set) rfl
    · refine .aside ?_ rfl
      rw [checking, if_neg set]
      rfl
  · exact nomatch moved

private theorem receives_heedFlag? (moved : s.heedFlag? = some next) : s.Receives next none := by
  unfold heedFlag? at moved
  split at moved
  · rename_i set
    split at moved
    · rename_i waiting
      obtain rfl := Option.some.inj moved
      exact .heeded set (by rw [waiting]; rfl) rfl rfl
    · rename_i waiting
      obtain rfl := Option.some.inj moved
      exact .heeded set (by rw [waiting]; rfl) rfl rfl
    · rename_i waiting
      obtain rfl := Option.some.inj moved
      exact .heeded set (by rw [waiting]; rfl) rfl rfl
    · exact nomatch moved
  · exact nomatch moved

private theorem receives_closeListener? (moved : s.closeListener? = some next) :
    s.Receives next none := by
  unfold closeListener? at moved
  split at moved
  · rename_i leaving
    obtain rfl := Option.some.inj moved
    have connections : s.requestShutdown.connections = s.connections := by
      unfold requestShutdown
      dsimp only
      split <;> rfl
    refine .aside ?_ (congrArg (List.map Connection.peer) connections)
    rw [leaving]
    rfl
  · exact nomatch moved

private theorem receives_finishRun? (moved : s.finishRun? = some next) : s.Receives next none := by
  unfold finishRun? at moved
  split at moved
  · rename_i waiting _
    obtain rfl := Option.some.inj moved
    refine .aside ?_ rfl
    rw [waiting]
    rfl
  · exact nomatch moved

/-- Nothing that leaves the acceptor alone has to do with waiting for connections. -/
theorem receives_of_standing (step : s.standing.Step next.standing)
    (same : next.acceptor = s.acceptor) : s.Receives next none := by
  have seats : next.standing.seats.map Seat.peer = s.standing.seats.map Seat.peer := by
    have acceptor : next.standing.acceptor = s.standing.acceptor := same
    generalize next.standing = after at step acceptor
    cases step with
    | startTimestamps starts => cases starts <;> rfl
    | run idle starts => cases starts <;> rfl
    | enroll accepting => exact nomatch acceptor.trans accepting
    | work found | leave found | endTask found => exact Roster.map_set_of_same found rfl
    | _ => rfl
  rw [standing, standing, List.map_map, List.map_map] at seats
  exact .aside (congrArg result? same) seats

/-- **One move.** -/
theorem step_receives (orderly : s.standing.Orderly) (moved : s.step move = some next) :
    s.Receives next move.outcome? := by
  cases move with
  | accept peer =>
      obtain ⟨waiting, goesOn, accepts⟩ := accepts_accept? orderly moved
      exact .accepted waiting goesOn accepts
  | failAccept e => exact receives_failAccept? moved
  | checkFlag => exact receives_checkFlag? moved
  | heedFlag => exact receives_heedFlag? moved
  | acquire | resume | run =>
      apply Receives.aside
      · grind [step, acquire?, resume?, run?, result?]
      · grind [step, acquire?, resume?, run?, peers, returnPermit, startTimestamps, note]
  | closeListener => exact receives_closeListener? moved
  | finishRun => exact receives_finishRun? moved
  | trigger | catchSignal | callShutdown | returnCaller | startTimestamps | pass =>
      apply receives_of_standing ((step_standing moved).resolve_right (by simp))
      grind [step, trigger, catchSignal?, callShutdown, requestShutdown, returnCaller?,
        startTimestamps, pass, note]
  | receive | failReceive | append | snapshot | send | failSend | heedClose | crash | leave |
    endTask =>
      apply receives_of_standing ((step_standing moved).resolve_right (by simp))
      have same := besideHandlers_step rfl moved
      simp_all [besideHandlers]
  | pollTimestamp | writeTimestamp =>
      apply receives_of_standing ((step_standing moved).resolve_right (by simp))
      have same := besideTimestamps_step rfl moved
      simp_all [besideTimestamps]
  | beginTeardown | joinHandler | joinTimestamp =>
      apply receives_of_standing ((step_standing moved).resolve_right (by simp))
      have same := besideTeardown_step rfl moved
      simp_all [besideTeardown]
  | removeFile =>
      have removed : s.removeFile? = some next := moved
      unfold removeFile? at removed
      split at removed
      · obtain rfl := Option.some.inj removed
        exact .aside rfl rfl
      · cases removed

/-! ## A whole run -/

/-- A registry that was drained stays so. -/
theorem closed_step (moved : s.step move = some next) (closed : s.registry.closed = true) :
    next.registry.closed = true := by
  have closedStanding : s.standing.registry.closed = true := closed
  change next.standing.registry.closed = true
  rcases step_standing moved with step | ⟨_, ⟨_, same⟩, _⟩
  · generalize next.standing = after at step
    cases step with
    | startTimestamps starts => cases starts <;> exact closed
    | run idle starts => cases starts <;> exact closed
    | enroll _ offered =>
        have opened := (Registry.offer?_eq_some_iff.mp offered).1
        rw [Registry.closed_lock, closedStanding] at opened
        exact nomatch opened
    | refuse => exact Registry.closed_lock.trans closed
    | beginTeardown => rfl
    | _ => exact closed
  · rw [same]
    exact closed

/-- What the outcomes so far tell of a service: what the loop of its acceptor has ended with, if it
has, and whom its handlers serve: all who came, in order, but for the last of them, which may have
come after the registry was drained. -/
structure Received (s : Service) (outcomes : List (Except IoError SocketAddress)) : Prop where
  settles : Settles s.flag.triggered outcomes s.acceptor.result?
  handed : ∃ dropped, arrivals outcomes = s.peers ++ dropped ∧
    (dropped ≠ [] → s.registry.closed = true)

namespace Receives

variable {outcome : Option (Except IoError SocketAddress)}
  {outcomes : List (Except IoError SocketAddress)} (receives : s.Receives next outcome)
include receives

private theorem settles (set : s.flag.triggered = true → next.flag.triggered = true)
    (settles : Settles s.flag.triggered outcomes s.acceptor.result?) :
    Settles next.flag.triggered (outcomes ++ outcome.toList) next.acceptor.result? := by
  -- While the loop goes on, no failure was fatal.
  have within : s.acceptor.result? = none → Harmless outcomes := by
    intro within
    rw [within] at settles
    cases settles with
    | goesOn harmless => exact harmless
  cases receives with
  | accepted waiting goesOn =>
      rw [goesOn]
      refine .goesOn (harmless_append.mpr ⟨within (by rw [waiting]; rfl), ?_⟩)
      rintro e (_ | ⟨_, ⟨⟩⟩)
  | @retried e waiting harmless goesOn =>
      have result : next.acceptor.result? = none := by
        rcases goesOn with now | now <;> rw [now] <;> rfl
      rw [result]
      refine .goesOn (harmless_append.mpr ⟨within (by rw [waiting]; rfl), ?_⟩)
      intro other member
      obtain rfl := Except.error.inj (List.mem_singleton.mp member)
      exact harmless
  | failed waiting fatal left =>
      rw [left]
      exact .failed rfl fatal (within (by rw [waiting]; rfl))
  | heeded triggered inside left =>
      rw [left, Option.toList_none, List.append_nil]
      exact .shutDown (set triggered) (within inside)
  | aside result =>
      rw [result, Option.toList_none, List.append_nil]
      generalize s.acceptor.result? = result at settles
      cases settles with
      | goesOn harmless => exact .goesOn harmless
      | shutDown triggered harmless => exact .shutDown (set triggered) harmless
      | failed last fatal harmless => exact .failed last fatal harmless

private theorem handed (closed : s.registry.closed = true → next.registry.closed = true)
    (handed : ∃ dropped, arrivals outcomes = s.peers ++ dropped ∧
      (dropped ≠ [] → s.registry.closed = true)) :
    ∃ dropped, arrivals (outcomes ++ outcome.toList) = next.peers ++ dropped ∧
      (dropped ≠ [] → next.registry.closed = true) := by
  obtain ⟨dropped, all, drained⟩ := handed
  rw [arrivals_append, all]
  cases receives with
  | @accepted peer _ _ accepts =>
      have arrived : arrivals (some (Except.ok peer)).toList = [peer] := rfl
      rw [arrived]
      cases accepts with
      | @handed c opened connections served =>
          -- Nobody was dropped before, since the registry was not drained.
          obtain rfl : dropped = [] := by
            by_contra some
            exact nomatch opened.symm.trans (drained some)
          refine ⟨[], ?_, fun some => absurd rfl some⟩
          rw [List.append_nil, List.append_nil, Service.peers, Service.peers, connections,
            List.map_append, ← served]
          rfl
      | dropped refused connections =>
          refine ⟨dropped ++ [peer], ?_, fun _ => closed refused⟩
          rw [List.append_assoc, Service.peers, Service.peers, connections]
  | retried _ _ _ peers | failed _ _ _ peers | heeded _ _ _ peers | aside _ peers =>
      refine ⟨dropped, ?_, fun some => closed (drained some)⟩
      rw [peers]
      exact List.append_nil _

end Receives

/-- **A whole run.** -/
theorem Received.play {outcomes : List (Except IoError SocketAddress)}
    (received : s.Received outcomes) (orderly : s.standing.Orderly)
    (played : s.play moves = some (past, last)) :
    last.Received (outcomes ++ Acceptor.outcomes moves) ∧ last.standing.Orderly := by
  induction moves generalizing s outcomes past with
  | nil =>
      obtain ⟨_, rfl⟩ := Prod.mk.inj (Option.some.inj played)
      rw [Acceptor.outcomes, List.filterMap_nil, List.append_nil]
      exact ⟨received, orderly⟩
  | cons move moves ih =>
      obtain ⟨next, rest, moved, onward, rfl⟩ := of_play_cons played
      have receives := step_receives orderly moved
      have now : next.Received (outcomes ++ move.outcome?.toList) :=
        ⟨receives.settles (step_proceeds moved).triggered received.settles,
          receives.handed (closed_step moved) received.handed⟩
      rw [outcomes_cons, ← List.append_assoc]
      exact ih now (orderly_of_step moved orderly) onward

/-! ## Going on after a failure -/

/-- The moves with which the acceptor gets over a failure that is not fatal. -/
def recovery (e : IoError) : List Move :=
  if e.isTransientAccept then [.checkFlag, .acquire] else [.resume, .checkFlag, .acquire]

/-- **A failure that is not fatal costs nothing**: unless the flag is set, the service can get back
to where it was, but for what it has noted. -/
theorem play_recovery {e : IoError} (harmless : e.isFatalAccept = false)
    (unset : s.flag.triggered = false) (moved : s.failAccept? e = some next) :
    ∃ past journal, next.play (recovery e) = some (past, { s with journal }) := by
  obtain ⟨config, address, storage, ⟨triggered⟩, registry, connections, permits, acceptor, now,
    timestamps, slot, teardown, callers, journal⟩ := s
  obtain rfl : triggered = false := unset
  unfold failAccept? at moved
  split at moved
  · rename_i accepting
    obtain rfl : acceptor = .accepting := accepting
    rw [recovery]
    by_cases transient : e.isTransientAccept
    · have verdict : AcceptVerdict.of e = .again := if_pos transient
      rw [verdict] at moved
      obtain rfl := Option.some.inj moved
      rw [if_pos transient]
      cases permits <;> exact ⟨_, _, rfl⟩
    · have exhausted : e.isExhaustion = true := by
        simpa [IoError.isFatalAccept, transient] using harmless
      have verdict : AcceptVerdict.of e = .backOff := by
        rw [AcceptVerdict.of, if_neg transient, if_pos exhausted]
      rw [verdict] at moved
      obtain rfl := Option.some.inj moved
      rw [if_neg transient]
      cases permits <;> exact ⟨_, _, rfl⟩
  · exact nomatch moved

/-! ## Ending on shutdown -/

private theorem chances_le (step : s.standing.Step next.standing) (set : s.flag.triggered = true) :
    next.acceptor.chances ≤ s.acceptor.chances := by
  change next.standing.acceptor.chances ≤ s.standing.acceptor.chances
  have flag : s.standing.flag = true := set
  generalize next.standing = after at step
  cases step with
  | startTimestamps starts => cases starts <;> exact Nat.le_refl _
  | run idle starts => exact Nat.zero_le _
  | checkFlag =>
      rw [flag]
      exact Nat.zero_le _
  | acquire awaiting =>
      rw [awaiting]
      exact Nat.le_refl _
  | enroll | refuse | retry | pause | fail | resume | giveUpWaiting | giveUpPermit |
    closeListener | finishRun => exact Nat.zero_le _
  | _ => exact Nat.le_refl _

private theorem chances_step (orderly : s.standing.Orderly) (moved : s.step move = some next)
    (set : s.flag.triggered = true) :
    move.outcome?.toList.length + next.acceptor.chances ≤ s.acceptor.chances := by
  have receives := step_receives orderly moved
  cases outcome : move.outcome? with
  | some result =>
      rw [outcome] at receives
      cases receives with
      | accepted waiting goesOn =>
          rw [waiting, goesOn]
          exact Nat.le_refl _
      | retried waiting _ goesOn =>
          rcases goesOn with now | now <;> rw [waiting, now] <;> exact Nat.le_refl _
      | failed waiting _ left =>
          rw [waiting, left]
          exact Nat.le_refl _
  | none =>
      rw [Option.toList_none, List.length_nil, Nat.zero_add]
      rcases step_standing moved with step | ⟨_, ⟨_, same⟩, _⟩
      · exact chances_le step set
      · have acceptor : next.acceptor = s.acceptor := congrArg Standing.acceptor same
        rw [acceptor]

/-- Once the flag is set, there is one more outcome at most. -/
theorem outcomes_le_chances (orderly : s.standing.Orderly) (set : s.flag.triggered = true)
    (played : s.play moves = some (past, last)) :
    (Acceptor.outcomes moves).length ≤ s.acceptor.chances := by
  induction moves generalizing s past with
  | nil => exact Nat.zero_le _
  | cons move moves ih =>
      obtain ⟨next, rest, moved, onward, rfl⟩ := of_play_cons played
      have now := chances_step orderly moved set
      have later := ih (orderly_of_step moved orderly) ((step_proceeds moved).triggered set) onward
      rw [outcomes_cons, List.length_append]
      omega

/-- Once the flag is set, the loop can end wherever it is. -/
theorem exists_leaving (set : s.flag.triggered = true) (running : s.acceptor ≠ .idle)
    (within : s.acceptor.result? = none) :
    ∃ move next, move.outcome? = none ∧ s.step move = some next ∧
      next.acceptor = .leaving (.ok ()) := by
  cases acceptor : s.acceptor with
  | idle => exact absurd acceptor running
  | checking =>
      refine ⟨.checkFlag, { s with acceptor := .leaving (.ok ()) }, rfl, ?_, rfl⟩
      rw [step, checkFlag?, acceptor]
      exact congrArg (fun next => some { s with acceptor := next }) (if_pos set)
  | awaitingPermit =>
      refine ⟨.heedFlag, { s with acceptor := .leaving (.ok ()) }, rfl, ?_, rfl⟩
      rw [step, heedFlag?, if_pos set, acceptor]
  | accepting | backingOff =>
      refine ⟨.heedFlag, { s.returnPermit with acceptor := .leaving (.ok ()) }, rfl, ?_, rfl⟩
      rw [step, heedFlag?, if_pos set, acceptor]
  | leaving result | tearingDown result | returned result =>
      rw [acceptor] at within
      cases within

/-- An acceptor that waits for a connection takes one. -/
theorem exists_accept (waiting : s.acceptor = .accepting) (peer : SocketAddress) :
    ∃ next, s.accept? peer = some next :=
  ⟨_, by rw [accept?, waiting]⟩

/-- An acceptor that waits for a connection may fail to get one. -/
theorem exists_failAccept (waiting : s.acceptor = .accepting) (e : IoError) :
    ∃ next, s.failAccept? e = some next := by
  rw [failAccept?, waiting]
  cases AcceptVerdict.of e <;> exact ⟨_, rfl⟩

private theorem failAccept?_keeps {e : IoError} (moved : s.failAccept? e = some next) :
    next.connections = s.connections ∧ next.registry = s.registry := by
  grind [failAccept?, returnPermit, note]

private theorem received_of_new {config : Config} {address : SocketAddress} {storage : Storage}
    (begun : new? config address storage = some start) : start.Received [] := by
  rw [new?] at begun
  split at begun
  · cases begun
  · obtain rfl := Option.some.inj begun
    refine ⟨.goesOn fun _ member => ?_, [], rfl, fun some => absurd rfl some⟩
    exact absurd member List.not_mem_nil

/-- **The acceptor accounts for everybody.** A service runs from its beginning, with any row of
connections and failures, and the flag set at any point of it. The loop of the acceptor ends well
when the flag is set, and badly with the first failure that is fatal, and in no other way. Whom its
handlers serve are all who came, in order, but for the last of them that came after the registry was
drained; a connection that is accepted before is handed to one handler, which the registry knows
under one key. A failure that is not fatal ends nothing and changes nothing that matters: unless the
flag is set, the service gets back to where it was. Once it is set, the loop can end wherever it is,
and does so after one more outcome at the latest. When the acceptor returns what its loop has ended
with, the whole teardown has been carried out, and no handler is left. -/
theorem acceptor_accounts_for_everybody {config : Config} {address : SocketAddress}
    {storage : Storage} (begun : new? config address storage = some start)
    (played : start.play moves = some (past, s)) :
    Settles s.flag.triggered (outcomes moves) s.acceptor.result? ∧
      (∃ dropped, arrivals (outcomes moves) = s.peers ++ dropped ∧
        (dropped ≠ [] → s.registry.closed = true)) ∧
      (s.acceptor = .accepting → ∀ peer, ∃ next, s.step (.accept peer) = some next ∧
        next.acceptor = .checking ∧ s.Accepts next peer) ∧
      (s.acceptor = .accepting → ∀ e, ∃ next, s.step (.failAccept e) = some next ∧
        next.connections = s.connections ∧ next.registry = s.registry ∧
        next.besideAcceptor = s.besideAcceptor ∧
        if e.isFatalAccept then next.acceptor = .leaving (.error e)
        else next.acceptor.result? = none ∧ (s.flag.triggered = false →
          ∃ past journal, next.play (recovery e) = some (past, { s with journal }))) ∧
      (s.flag.triggered = true →
        (s.acceptor ≠ .idle → s.acceptor.result? = none → ∃ move next, move.outcome? = none ∧
          s.step move = some next ∧ next.acceptor = .leaving (.ok ())) ∧
        ∀ later past last, s.play later = some (past, last) → (outcomes later).length ≤ 1) ∧
      ∀ result, s.acceptor = .returned result →
        (∀ c ∈ s.connections, c.isOver ∧ c.stage ≠ .serving) ∧
        ∃ done, start.Chronicle done s ∧ ∃ tasks waited, tasks.Nodup ∧
          Proceeding.stages done = Proceeding.wholeTeardown tasks waited := by
  obtain ⟨orderlyStart, notStarted⟩ := orderly_of_new begun
  obtain ⟨received, orderly⟩ := (received_of_new begun).play orderlyStart played
  refine ⟨received.settles, received.handed, ?_, ?_, ?_, ?_⟩
  · intro waiting peer
    obtain ⟨next, moved⟩ := exists_accept waiting peer
    obtain ⟨_, goesOn, accepts⟩ := accepts_accept? orderly moved
    exact ⟨next, moved, goesOn, accepts⟩
  · intro waiting e
    obtain ⟨next, moved⟩ := exists_failAccept waiting e
    have failed : s.step (.failAccept e) = some next := moved
    obtain ⟨connections, registry⟩ := failAccept?_keeps moved
    refine ⟨next, failed, connections, registry, besideAcceptor_step rfl failed, ?_⟩
    cases receives_failAccept? moved with
    | retried _ harmless goesOn =>
        rw [if_neg (by rw [harmless]; exact Bool.false_ne_true)]
        refine ⟨?_, fun unset => play_recovery harmless unset moved⟩
        rcases goesOn with now | now <;> rw [now] <;> rfl
    | failed _ fatal left =>
        rw [if_pos fatal]
        exact left
  · intro set
    refine ⟨exists_leaving set, fun later past last onward => ?_⟩
    exact (outcomes_le_chances orderly set onward).trans s.acceptor.chances_le_one
  · intro result returned
    have done : s.teardown = .done := orderly.told (.inr ⟨result, returned⟩)
    have reached : start.Reachable s := reachable_iff_history.mpr ⟨past, history_of_play played⟩
    obtain ⟨proceedings, chronicle⟩ := reached.chronicle
    have carried := chronicle.carried orderlyStart notStarted
    have prepared := orderly.prepared
    have standing : s.standing.teardown = .done := done
    rw [standing] at prepared
    rw [done] at carried
    refine ⟨fun c member => ?_, proceedings, chronicle, carried⟩
    have seat : c.seat ∈ s.standing.seats := List.mem_map_of_mem member
    exact ⟨orderly.finished c.seat seat (prepared.1 c.seat seat), prepared.1 c.seat seat⟩

/-- A failure of each of the two kinds that are not fatal, one connection that is served, and one
that comes after the registry was drained. -/
theorem arrival_after_the_registry_was_drained :
    let config : Config :=
      ⟨.loopback 9, false, [47, 108], none, 8, 4, 16, some 2, "info", none⟩
    let moves : List Move :=
      [.run, .checkFlag, .acquire, .failAccept (.bare .connectionAborted), .checkFlag, .acquire,
        .failAccept (.os Errno.tooManyFiles), .resume, .checkFlag, .acquire, .accept (.loopback 1),
        .checkFlag, .acquire, .callShutdown, .beginTeardown, .accept (.loopback 2), .checkFlag,
        .closeListener, .heedClose 0, .leave 0, .endTask 0, .joinHandler, .joinHandler,
        .joinTimestamp, .removeFile, .finishRun]
    ∃ start past s, new? config (.loopback 9) (.ofTree ⟨[]⟩ []) = some start ∧
      start.play moves = some (past, s) ∧ s.acceptor.result? = some (.ok ()) ∧
      arrivals (outcomes moves) = s.peers ++ [.loopback 2] ∧
      (∀ c ∈ s.connections, c.isOver ∧ c.stage ≠ .serving) := by
  intro config moves
  obtain ⟨start, begun⟩ : ∃ start, new? config (.loopback 9) (.ofTree ⟨[]⟩ []) = some start :=
    ⟨_, rfl⟩
  have outcome : ((new? config (.loopback 9) (.ofTree ⟨[]⟩ [])).bind fun start =>
      (start.play moves).map fun played => (played.2.acceptor, played.2.peers)) =
        some (.returned (.ok ()), [.loopback 1]) := by cbv
  rw [begun, Option.bind_some, Option.map_eq_some_iff] at outcome
  obtain ⟨⟨past, s⟩, played, same⟩ := outcome
  obtain ⟨returned, peers⟩ := Prod.mk.inj same
  obtain ⟨_, _, _, _, _, ends⟩ := acceptor_accounts_for_everybody begun played
  refine ⟨start, past, s, begun, played, ?_, ?_, (ends _ returned).1⟩
  · rw [returned]
    rfl
  · rw [peers]
    cbv

end Service

end PacketLog
