import Mathlib
import PacketLog.Proofs.Server.Errands
import PacketLog.Proofs.Server.Startup

/-! # Getting on until something is waited for

Every move that needs nothing from outside brings some part of the service closer to waiting, and
the others no further away from it (`Service.movesLeft_of_quiet`, `Service.movesLeft_of_errand`), as
long as the timestamp tasks wait between their records. So a service that gets on by itself stops,
and when it does, no such move is possible (`Service.rests_settle`, `Service.still_getOn`).
-/

namespace PacketLog

/-! ## Sums over the parts -/

private theorem sum_map_set {α : Type} {list : List α} (weight : α → Nat) {place : Nat}
    {old : α} (found : list[place]? = some old) (new : α) :
    ((list.set place new).map weight).sum + weight old = (list.map weight).sum + weight new := by
  induction list generalizing place with
  | nil => exact nomatch found
  | cons head rest ih =>
      cases place with
      | zero =>
          obtain rfl := Option.some.inj found
          simp only [List.set_cons_zero, List.map_cons, List.sum_cons]
          omega
      | succ place =>
          have same := ih found
          simp only [List.set_cons_succ, List.map_cons, List.sum_cons]
          omega

private theorem sum_map_modify {α : Type} {list : List α} (weight : α → Nat) {place : Nat}
    {old : α} (found : list[place]? = some old) (f : α → α) :
    ((list.modify place f).map weight).sum + weight old =
      (list.map weight).sum + weight (f old) := by
  have same : list.modify place f = list.set place (f old) := by
    rw [List.modify_eq_set_getElem?, found]
    rfl
  rw [same, sum_map_set weight found]

/-! ## Sessions -/

namespace Session

open Conversation (phaseWork)

variable {s : Session} {rest : Bytes}

private theorem phaseWork_appended (rest : Bytes) (result : Except LogError Unit) :
    phaseWork (s.appended rest result).phase < 5 * rest.length + 4 := by
  cases result with
  | ok => exact Nat.lt_succ_self _
  | error e => exact Nat.lt_of_le_of_lt (Conversation.phaseWork_digest_le s rest) (by omega)

private theorem phaseWork_snapshotTaken (rest : Bytes) (result : Except LogError Bytes) :
    phaseWork (s.snapshotTaken rest result).phase < 5 * rest.length + 3 := by
  cases result with
  | ok reply => exact Nat.lt_succ_self _
  | error e => exact Nat.succ_pos _

private theorem phaseWork_sent_nothing (rest : Bytes) :
    phaseWork (s.sent [] rest 0).phase < 5 * rest.length + 2 :=
  Nat.lt_of_le_of_lt (Conversation.phaseWork_digest_le s rest) (by omega)

end Session

/-! ## Timestamp tasks -/

namespace TimestampTask

variable {t : TimestampTask} {now : Nat} {flag : Bool}

/-- A poll that gets a task any further brings it closer to its next wait. -/
theorem movesLeft_poll_lt (paced : 0 < t.interval)
    (due : t.phase = .starting ∨
      ∃ deadline, t.phase = .waiting deadline ∧ (flag = true ∨ deadline ≤ now)) :
    (t.poll now flag false).movesLeft now < t.movesLeft now := by
  obtain ⟨interval, phase⟩ := t
  obtain rfl | ⟨deadline, rfl, due⟩ := due
  · cases flag <;> grind [poll, startWait, pollWait, wake, movesLeft]
  · cases flag <;> grind [poll, pollWait, wake, movesLeft]

/-- The end of an append brings a task closer to its next wait. -/
theorem movesLeft_appendDone_lt (paced : 0 < t.interval) (appending : t.phase = .appending) :
    (t.appendDone now flag false).movesLeft now < t.movesLeft now := by
  obtain ⟨interval, phase⟩ := t
  obtain rfl := appending
  cases flag <;> grind [appendDone, startWait, pollWait, wake, movesLeft]

end TimestampTask

/-! ## The registry -/

namespace Registry

private theorem length_filterMap_set_none {α : Type} (slots : List (Option α)) (key : Nat) :
    ((slots.set key none).filterMap id).length ≤ (slots.filterMap id).length := by
  induction slots generalizing key with
  | nil => exact Nat.le_refl _
  | cons slot slots ih =>
      cases key with
      | zero => cases slot <;> simp
      | succ key => cases slot <;> simpa using ih key

/-- Taking the lock registers nobody. -/
theorem size_lock_le (r : Registry) : r.lock.size ≤ r.size := by
  have struck : ∀ (keys : List Nat) (r : Registry), (keys.foldl strikeOff r).size ≤ r.size := by
    intro keys
    induction keys with
    | nil => exact fun r => Nat.le_refl _
    | cons key keys ih =>
        intro r
        refine (ih (r.strikeOff key)).trans ?_
        rw [strikeOff]
        split
        · exact length_filterMap_set_none r.slots key
        · exact Nat.le_refl _
  exact struck r.posted r

end Registry

namespace Service

variable {start s next : Service} {move : Move} {errand : Errand} {task : Nat}

/-! ## One move -/

/-- A service whose timestamp tasks wait between their records, and would. -/
structure Paced (s : Service) : Prop where
  configured : s.config.timestampInterval ≠ some 0
  running : ∀ t ∈ s.timestamps, 0 < t.interval

/-- Whatever ticks keeps its pace. -/
theorem Paced.ticks (paced : s.Paced) (ticks : s.Ticks next) (same : next.config = s.config) :
    next.Paced := by
  refine ⟨same ▸ paced.configured, fun t member => ?_⟩
  cases ticks with
  | passes now timestamps => exact paced.running t (timestamps ▸ member)
  | @starts seconds configured now timestamps =>
      rw [timestamps] at member
      obtain member | new := List.mem_append.mp member
      · exact paced.running t member
      · obtain rfl := List.mem_singleton.mp new
        have positive : seconds ≠ 0 := by
          rintro rfl
          exact paced.configured configured
        exact Nat.mul_pos (Nat.pos_of_ne_zero positive) (by decide)
  | polls found now timestamps =>
      rw [timestamps] at member
      obtain member | rfl := List.mem_or_eq_of_mem_set member
      · exact paced.running t member
      · rw [TimestampTask.interval_poll]
        exact paced.running _ (List.mem_of_getElem? found)
  | writes found now timestamps =>
      rw [timestamps] at member
      obtain member | rfl := List.mem_or_eq_of_mem_set member
      · exact paced.running t member
      · rw [TimestampTask.interval_appendDone]
        exact paced.running _ (List.mem_of_getElem? found)

/-- Every move keeps the pace. -/
theorem Paced.step (paced : s.Paced) (moved : s.step move = some next) : next.Paced :=
  paced.ticks (step_ticks moved) (step_occurs moved).1

/-- A report does no more to the timestamp tasks than their own moves do. -/
theorem ticks_report? {report : Report} (told : s.report? report = some next) :
    s.Ticks next ∧ next.config = s.config := by
  cases report with
  | appended task result | snapshotTaken task result =>
      obtain ⟨c, served, told⟩ := Option.bind_eq_some_iff.mp told
      split at told
      · obtain rfl := Option.some.inj told
        exact ⟨@Ticks.passes s _ 0 rfl rfl, rfl⟩
      · exact nomatch told
  | recordAppended task record timerFirst result =>
      obtain ⟨t, found, told⟩ := Option.bind_eq_some_iff.mp told
      split at told
      · obtain rfl := Option.some.inj told
        have time := timeSide_recordAppended (s := s) task t record timerFirst result
        have same := logSide_recordAppended (s := s) task t record timerFirst result
        exact ⟨.writes found (congrArg Prod.fst time) (congrArg Prod.snd time),
          congrArg Prod.fst same⟩
      · exact nomatch told
  | removed result =>
      rw [report?] at told
      split at told
      · obtain rfl := Option.some.inj told
        exact ⟨@Ticks.passes s _ 0 rfl rfl, rfl⟩
      · exact nomatch told

/-- A service among others keeps its pace. -/
theorem Lives.paced (lives : start.Lives s) (paced : start.Paced) : s.Paced := by
  induction lives with
  | refl => exact paced
  | move move _ moved ih => exact ih.step moved
  | told report _ told ih => exact ih.ticks (ticks_report? told).1 (ticks_report? told).2
  | changed storage _ ih => exact ⟨ih.configured, ih.running⟩

private theorem movesLeft_eq : s.movesLeft =
    s.acceptor.movesLeft + s.teardown.movesLeft s.registry.size + s.callers.count .waiting +
      (s.timestamps.map (·.movesLeft s.now)).sum +
      (s.connections.map Connection.movesLeft).sum := by
  rw [movesLeft, List.sum_eq_foldr, List.sum_eq_foldr]

private theorem movesLeft_setSession {c : Connection} {session : Session}
    (served : s.serving? task = some c)
    (less : Conversation.phaseWork session.phase < Conversation.phaseWork c.session.phase) :
    (s.setSession task session).movesLeft < s.movesLeft := by
  obtain ⟨found, serving, going⟩ := seat_of_serving? served
  have intact : c.crashed = false := (Bool.or_eq_false_iff.mp going).1
  have moved := sum_map_modify Connection.movesLeft found ({ · with session })
  have before : c.movesLeft = Conversation.phaseWork c.session.phase + 2 := by
    simp [Connection.movesLeft, serving, intact]
  have after : { c with session }.movesLeft = Conversation.phaseWork session.phase + 2 := by
    simp [Connection.movesLeft, serving, intact]
  simp only [movesLeft_eq, setSession]
  omega

private theorem movesLeft_setTimestamp {t after : TimestampTask}
    (found : s.timestamps[task]? = some t)
    (less : after.movesLeft s.now < t.movesLeft s.now) :
    (s.setTimestamp task after).movesLeft < s.movesLeft := by
  have moved := sum_map_set (·.movesLeft s.now) found after
  have fewer : { s with timestamps := s.timestamps.set task after }.movesLeft < s.movesLeft := by
    simp only [movesLeft_eq]
    omega
  unfold setTimestamp
  dsimp only
  split <;> exact fewer

private theorem movesLeft_recordAppended {t : TimestampTask} {record : Bytes}
    {timerFirst : Bool} {result : Except LogError Unit} (found : s.timestamps[task]? = some t)
    (less : (t.appendDone s.now s.flag.triggered timerFirst).movesLeft s.now <
      t.movesLeft s.now) :
    (s.recordAppended task t record timerFirst result).movesLeft < s.movesLeft := by
  cases result with
  | ok => exact movesLeft_setTimestamp (s := (s.note _).note _) found less
  | error e => exact movesLeft_setTimestamp (s := s.note _) found less

private theorem movesLeft_askToClose (tasks : List Nat) :
    (s.askToClose tasks).connections.map Connection.movesLeft =
      s.connections.map Connection.movesLeft := by
  have asked : ∀ connections : List Connection,
      (tasks.foldl (fun cs task => cs.modify task ({ · with closing := true })) connections).map
        Connection.movesLeft = connections.map Connection.movesLeft := by
    induction tasks with
    | nil => exact fun _ => rfl
    | cons task tasks ih => exact fun connections => (ih _).trans (map_modify fun _ => rfl)
  exact asked s.connections

private theorem movesLeft_pollTimestamp? {t : TimestampTask} (paced : s.Paced)
    (found : s.timestamps[task]? = some t) (due : s.isDue t = true)
    (moved : s.pollTimestamp? task false = some next) : next.movesLeft < s.movesLeft := by
  have positive := paced.running t (List.mem_of_getElem? found)
  obtain ⟨there, again, moved⟩ := Option.bind_eq_some_iff.mp moved
  obtain rfl := Option.some.inj (found.symm.trans again)
  dsimp only at moved
  split at moved
  · rename_i starting
    obtain rfl := Option.some.inj moved
    exact movesLeft_setTimestamp (s := s.note _) found
      (TimestampTask.movesLeft_poll_lt positive (.inl starting))
  · rename_i deadline waiting
    obtain rfl := Option.some.inj moved
    refine movesLeft_setTimestamp found
      (TimestampTask.movesLeft_poll_lt positive (.inr ⟨deadline, waiting, ?_⟩))
    simpa [isDue, waiting] using due
  · exact nomatch moved

private theorem movesLeft_heedClose? (moved : s.heedClose? task = some next) :
    next.movesLeft < s.movesLeft := by
  obtain ⟨c, served, moved⟩ := Option.bind_eq_some_iff.mp moved
  split at moved
  · split at moved
    · rename_i reading
      obtain rfl := Option.some.inj moved
      exact movesLeft_setSession served (by rw [reading]; exact Nat.one_pos)
    · rename_i left rest replying
      obtain rfl := Option.some.inj moved
      exact movesLeft_setSession served (by rw [replying]; exact Nat.succ_pos _)
    · exact nomatch moved
  · exact nomatch moved

private theorem movesLeft_leave? (moved : s.leave? task = some next) :
    next.movesLeft < s.movesLeft := by
  obtain ⟨c, found, moved⟩ := Option.bind_eq_some_iff.mp moved
  split at moved
  · rename_i leaves
    obtain rfl := Option.some.inj moved
    have left := sum_map_modify Connection.movesLeft found ({ · with stage := .leaving })
    have after : { c with stage := .leaving }.movesLeft = 1 := rfl
    have before : 2 ≤ c.movesLeft := by
      rw [Connection.movesLeft, leaves.1]
      exact Nat.le_add_left _ _
    have registered : (s.registry.post c.key).size = s.registry.size := rfl
    simp only [movesLeft_eq, registered]
    omega
  · exact nomatch moved

private theorem movesLeft_endTask? (moved : s.endTask? task = some next) :
    next.movesLeft < s.movesLeft := by
  obtain ⟨c, found, moved⟩ := Option.bind_eq_some_iff.mp moved
  split at moved
  · rename_i leaving
    obtain rfl := Option.some.inj moved
    have left := sum_map_modify Connection.movesLeft found ({ · with stage := .ended })
    have after : { c with stage := .ended }.movesLeft = 0 := rfl
    have before : c.movesLeft = 1 := by rw [Connection.movesLeft, leaving]
    simp only [movesLeft_eq, returnPermit]
    omega
  · cases moved

/-- The teardown waits for no more handlers than were registered. -/
private theorem movesLeft_beginTeardown? (moved : s.beginTeardown? = some next) :
    next.movesLeft < s.movesLeft := by
  unfold beginTeardown? at moved
  split at moved
  · rename_i begins
    obtain rfl := Option.some.inj moved
    let tasks := s.lockRegistry.registry.entries.map (·.task)
    have fewer : tasks.length ≤ s.registry.size := by
      rw [List.length_map]
      exact s.registry.size_lock_le
    have same := movesLeft_askToClose (s := s.lockRegistry) tasks
    have before : s.teardown.movesLeft s.registry.size = s.registry.size + 4 := by
      rw [begins.2, Teardown.movesLeft]
    change s.acceptor.movesLeft + (tasks.length + 3) + s.callers.count .waiting +
      (s.timestamps.map (·.movesLeft s.now)).sum +
      ((s.lockRegistry.askToClose tasks).connections.map Connection.movesLeft).sum < s.movesLeft
    rw [same, movesLeft_eq, before]
    change _ + _ + _ + _ + (s.connections.map Connection.movesLeft).sum < _
    omega
  · exact nomatch moved

private theorem movesLeft_returnCaller? {caller : Nat}
    (moved : s.returnCaller? caller = some next) : next.movesLeft < s.movesLeft := by
  unfold returnCaller? at moved
  split at moved
  · rename_i waits
    obtain ⟨inside, waiting⟩ := List.getElem?_eq_some_iff.mp waits.1
    have some_ : 0 < s.callers.count .waiting :=
      List.count_pos_iff.mpr (waiting ▸ List.getElem_mem inside)
    have fewer : (s.callers.set caller .returned).count .waiting <
        s.callers.count .waiting := by
      rw [List.count_set inside, waiting]
      simpa using some_
    obtain rfl := Option.some.inj moved
    simp only [movesLeft_eq]
    omega
  · exact nomatch moved

/-- **One quiet move** brings a part closer to waiting. -/
theorem movesLeft_of_quiet (paced : s.Paced) (quiet : s.Quiet move)
    (moved : s.step move = some next) : next.movesLeft < s.movesLeft := by
  cases quiet with
  | poll found due => exact movesLeft_pollTimestamp? paced found due moved
  | checkFlag => grind [step, checkFlag?, movesLeft, Acceptor.movesLeft]
  | heedFlag => grind [step, heedFlag?, returnPermit, movesLeft, Acceptor.movesLeft]
  | acquire => grind [step, acquire?, movesLeft, Acceptor.movesLeft]
  | closeListener =>
      grind [step, closeListener?, requestShutdown, trigger, note, movesLeft, Acceptor.movesLeft]
  | heedClose task => exact movesLeft_heedClose? moved
  | @emptyReply task c rest served replying =>
      obtain ⟨there, again, moved⟩ := Option.bind_eq_some_iff.mp moved
      obtain rfl := Option.some.inj (served.symm.trans again)
      simp only [replying, Nat.zero_le, if_true] at moved
      obtain rfl := Option.some.inj moved
      exact movesLeft_setSession served
        (by rw [replying]; exact Session.phaseWork_sent_nothing rest)
  | leave task => exact movesLeft_leave? moved
  | endTask task => exact movesLeft_endTask? moved
  | beginTeardown => exact movesLeft_beginTeardown? moved
  | joinHandler => grind [step, joinHandler?, note, movesLeft, Teardown.movesLeft]
  | joinTimestamp => grind [step, joinTimestamp?, note, movesLeft, Teardown.movesLeft]
  | finishRun => grind [step, finishRun?, movesLeft, Acceptor.movesLeft]
  | returnCaller caller => exact movesLeft_returnCaller? moved

/-- **One errand** brings a part closer to waiting. -/
theorem movesLeft_of_errand {moment : Moment} (paced : s.Paced) (member : errand ∈ s.errands)
    (moved : s.step (errandMove moment errand) = some next) : next.movesLeft < s.movesLeft := by
  obtain ⟨task, wanted⟩ | ⟨task, wanted⟩ | ⟨removing, rfl⟩ := mem_errands_iff.mp member
  · obtain ⟨c, served, ⟨packet, rest, appending, rfl⟩ | ⟨rest, snapshotting, rfl⟩⟩ :=
      handlerErrand?_eq_some.mp wanted
    · have moved : s.append? task = some next := moved
      simp only [append?, served, Option.bind_eq_bind, Option.bind_some, appending] at moved
      obtain rfl := Option.some.inj moved
      exact movesLeft_setSession served (by rw [appending]; exact Session.phaseWork_appended _ _)
    · have moved : s.snapshot? task = some next := moved
      simp only [snapshot?, served, Option.bind_eq_bind, Option.bind_some, snapshotting] at moved
      obtain rfl := Option.some.inj moved
      exact movesLeft_setSession served
        (by rw [snapshotting]; exact Session.phaseWork_snapshotTaken _ _)
  · obtain ⟨t, found, appending, rfl⟩ := timestampErrand?_eq_some.mp wanted
    have positive := paced.running t (List.mem_of_getElem? found)
    have moved : s.writeTimestamp? task moment false = some next := moved
    simp only [writeTimestamp?, found, Option.bind_eq_bind, Option.bind_some, appending] at moved
    obtain rfl := Option.some.inj moved
    exact movesLeft_recordAppended (s := { s with storage := _ }) found
      (TimestampTask.movesLeft_appendDone_lt positive appending)
  · grind [step, errandMove, removeFile?, fileRemoved, movesLeft, Teardown.movesLeft]

/-! ## Until nothing more is possible -/

/-- No move of a kind is possible. -/
def StillFor (kind : Service → List Move) (s : Service) : Prop :=
  ∀ move ∈ kind s, s.step move = none

/-- Moves of a kind that bring the service closer to waiting are made until none is possible. -/
theorem stillFor_makeMoves {kind : Service → List Move}
    (closer : ∀ s next : Service, s.Paced → ∀ move ∈ kind s, s.step move = some next →
      next.Paced ∧ next.movesLeft < s.movesLeft)
    (paced : s.Paced) {most : Nat} (enough : s.movesLeft ≤ most) :
    StillFor kind (s.makeMoves kind most) := by
  induction most generalizing s with
  | zero =>
      intro move member
      cases moved : s.step move with
      | none => exact moved
      | some next => exact absurd ((closer s next paced move member moved).2) (by omega)
  | succ most ih =>
      rw [makeMoves]
      cases found : (kind s).findSome? s.step with
      | none => exact fun move member => List.findSome?_eq_none_iff.mp found move member
      | some next =>
          obtain ⟨move, member, moved⟩ := List.exists_of_findSome?_eq_some found
          obtain ⟨still, less⟩ := closer s next paced move member moved
          exact ih still (by omega)

/-- **A service that got on without its files** cannot get any further without something from
outside or from its files. -/
theorem still_getOn (paced : s.Paced) : StillFor quietMoves s.getOn := by
  refine stillFor_makeMoves (fun s next paced move member moved => ?_) paced le_rfl
  exact ⟨paced.step moved, movesLeft_of_quiet paced (quiet_of_mem member) moved⟩

/-- A service that can get no further by itself, and wants nothing done with its file. -/
structure Rests (s : Service) : Prop where
  still : StillFor quietMoves s
  idle : s.errands = []

/-- An errand can always be done on the service's own files. -/
theorem step_errandMove_isSome (member : errand ∈ s.errands) (moment : Moment) :
    (s.step (errandMove moment errand)).isSome := by
  rw [step_errandMove member, report?_isSome_iff]
  refine ⟨errand, member, ?_⟩
  cases errand <;> simp [carryOut, Report.isOf]

/-- **A service that was left alone** cannot get any further without something from outside. -/
theorem rests_settle (paced : s.Paced) (moment : Moment) : (s.settle moment).Rests := by
  have still : StillFor (·.inwardMoves moment) (s.settle moment) := by
    refine stillFor_makeMoves (fun s next paced move member moved => ?_) paced le_rfl
    refine ⟨paced.step moved, ?_⟩
    obtain quiet | errand := List.mem_append.mp member
    · exact movesLeft_of_quiet paced (quiet_of_mem quiet) moved
    · obtain ⟨errand, wanted, rfl⟩ := List.mem_map.mp errand
      exact movesLeft_of_errand paced wanted moved
  refine ⟨fun move member => still move (List.mem_append_left _ member), ?_⟩
  refine List.eq_nil_iff_forall_not_mem.mpr fun errand member => ?_
  have stuck := still (errandMove moment errand)
    (List.mem_append_right _ (List.mem_map_of_mem member))
  simpa [stuck] using step_errandMove_isSome member moment

end Service

end PacketLog
