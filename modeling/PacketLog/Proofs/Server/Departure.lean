import PacketLog.Proofs.Server.Teardown

/-! # The way to the removal of the file

A service that nobody asks for shutdown from outside gets to its teardown in one way only: the
acceptor leaves its loop and closes the listener (`Service.Departs`), and the stages of the teardown
follow in order. `Service.Follows` says which moves must have been made when the acceptor and the
teardown are in some phase, and every move keeps it true (`Service.Follows.step`). So before the
file is removed all of this has been done (`Service.Follows.removal`), and as long as it has not
been removed, it is there and holds what it held (`Service.keeps_until_removal`).
-/

namespace PacketLog

/-- The moves with which the acceptor may leave its loop: it sees the flag when it looks at it or
while it waits, or a failure ends the loop. -/
def Move.endsLoop : Move → Bool
  | .checkFlag | .heedFlag | .failAccept _ => true
  | _ => false

/-- Whether the acceptor has left its loop. -/
def Acceptor.hasLeft : Acceptor → Bool
  | .leaving _ | .tearingDown _ | .returned _ => true
  | _ => false

/-- The moves that take the teardown to a phase, once the acceptor has left its loop. -/
def Teardown.course : Teardown → List Move
  | .notStarted => []
  | .joiningHandlers _ _ => [.closeListener, .beginTeardown]
  | .joiningTimestamps _ => [.closeListener, .beginTeardown, .joinHandler]
  | .removing => [.closeListener, .beginTeardown, .joinHandler, .joinTimestamp]
  | .done => [.closeListener, .beginTeardown, .joinHandler, .joinTimestamp, .removeFile]

/-- The move that carries out a stage of the teardown. -/
def Proceeding.MadeBy (move : Move) : Proceeding → Prop
  | .asked _ => True
  | .drained _ => move = .beginTeardown
  | .joined _ | .tookTimestamps _ => move = .joinHandler
  | .joinedTimestamps => move = .joinTimestamp
  | .removed => move = .removeFile

namespace Service

variable {s next : Service} {move : Move} {moves stretch : List Move}

/-- Among some moves there is one with which the acceptor may leave its loop, and after it come the
moves of a stretch. -/
def Passed (moves stretch : List Move) : Prop :=
  ∃ exit : Move, exit.endsLoop ∧ (exit :: stretch).Sublist moves

private theorem Passed.later (passed : Passed moves stretch) (move : Move) :
    Passed (moves ++ [move]) stretch := by
  rcases passed with ⟨exit, ends, sublist⟩
  exact ⟨exit, ends, sublist.trans (List.sublist_append_left _ _)⟩

private theorem Passed.extend (passed : Passed moves stretch) (move : Move) :
    Passed (moves ++ [move]) (stretch ++ [move]) := by
  rcases passed with ⟨exit, ends, sublist⟩
  exact ⟨exit, ends, sublist.append (List.Sublist.refl [move])⟩

/-! ## What a move does -/

/-- What a move does to the acceptor, as far as its loop is concerned. -/
inductive Departs (s next : Service) : Move → Prop
  | not {move : Move} (acceptor : next.acceptor = s.acceptor) : Departs s next move
  | loops {move : Move} (within : s.acceptor.hasLeft = false)
      (inside : next.acceptor.hasLeft = false) : Departs s next move
  | leaves {move : Move} (exit : move.endsLoop) (within : s.acceptor.hasLeft = false)
      (here : next.acceptor.isAway = false) : Departs s next move
  | closes (left : s.acceptor.hasLeft) (gone : next.acceptor.isAway) :
      Departs s next .closeListener
  | returns (away : s.acceptor.isAway) (gone : next.acceptor.isAway) : Departs s next .finishRun

private theorem step_departs (moved : s.step move = some next) : s.Departs next move := by
  cases move with
  | receive | failReceive | append | snapshot | send | failSend | heedClose | crash | leave |
    endTask =>
      have same := besideHandlers_step rfl moved
      exact .not (by simp_all [besideHandlers])
  | pollTimestamp | writeTimestamp =>
      have same := besideTimestamps_step rfl moved
      exact .not (by simp_all [besideTimestamps])
  | checkFlag =>
      apply Departs.leaves rfl
      · grind [step, checkFlag?, Acceptor.hasLeft]
      · grind [step, checkFlag?, Acceptor.isAway]
  | heedFlag =>
      apply Departs.leaves rfl
      · grind [step, heedFlag?, Acceptor.hasLeft]
      · grind [step, heedFlag?, Acceptor.isAway]
  | failAccept =>
      apply Departs.leaves rfl
      · grind [step, failAccept?, Acceptor.hasLeft]
      · grind [step, failAccept?, Acceptor.isAway]
  | run | acquire | accept | resume =>
      apply Departs.loops
      · grind [step, run?, acquire?, accept?, resume?, Acceptor.hasLeft]
      · grind [step, run?, acquire?, accept?, resume?, Acceptor.hasLeft]
  | closeListener =>
      change s.closeListener? = some next at moved
      unfold closeListener? at moved
      split at moved
      · rename_i leaving
        obtain rfl := Option.some.inj moved
        exact .closes (congrArg Acceptor.hasLeft leaving) rfl
      · cases moved
  | finishRun =>
      change s.finishRun? = some next at moved
      unfold finishRun? at moved
      split at moved
      · rename_i waiting _
        obtain rfl := Option.some.inj moved
        exact .returns (congrArg Acceptor.isAway waiting) rfl
      · cases moved
  | beginTeardown | joinHandler | joinTimestamp | removeFile =>
      have same := besideTeardown_step rfl moved
      exact .not (by simp_all [besideTeardown])
  | trigger | catchSignal | callShutdown | returnCaller | startTimestamps | pass =>
      apply Departs.not
      grind [step, trigger, catchSignal?, callShutdown, requestShutdown, returnCaller?,
        startTimestamps, pass, note]

private theorem hasLeft_of_isAway {acceptor : Acceptor} (away : acceptor.isAway) :
    acceptor.hasLeft := by
  cases acceptor <;> first | exact away | rfl

/-- An acceptor that is away does not come back. -/
theorem Departs.isAway (departs : s.Departs next move) (away : s.acceptor.isAway) :
    next.acceptor.isAway := by
  have left := hasLeft_of_isAway away
  cases departs with
  | not acceptor => rwa [acceptor]
  | loops within => exact nomatch within.symm.trans left
  | leaves _ within => exact nomatch within.symm.trans left
  | closes _ gone => exact gone
  | returns _ gone => exact gone

/-- Nobody starts to wait for the teardown but who calls for it. -/
theorem step_alone (moved : s.step move = some next) (own : move ≠ .callShutdown)
    (alone : s.callers = []) : next.callers = [] := by
  cases move with
  | callShutdown => exact absurd rfl own
  | checkFlag | acquire | accept | failAccept | resume | heedFlag =>
      have same := besideAcceptor_step rfl moved
      simp_all [besideAcceptor]
  | receive | failReceive | append | snapshot | send | failSend | heedClose | crash | leave |
    endTask =>
      have same := besideHandlers_step rfl moved
      simp_all [besideHandlers]
  | pollTimestamp | writeTimestamp =>
      have same := besideTimestamps_step rfl moved
      simp_all [besideTimestamps]
  | beginTeardown | joinHandler | joinTimestamp | removeFile =>
      have same := besideTeardown_step rfl moved
      simp_all [besideTeardown]
  | closeListener =>
      change s.closeListener? = some next at moved
      unfold closeListener? at moved
      split at moved
      · obtain rfl := Option.some.inj moved
        unfold requestShutdown
        dsimp only
        split <;> exact alone
      · cases moved
  | finishRun =>
      change s.finishRun? = some next at moved
      unfold finishRun? at moved
      split at moved
      · obtain rfl := Option.some.inj moved
        exact alone
      · cases moved
  | trigger | catchSignal | returnCaller | run | startTimestamps | pass =>
      grind [step, trigger, catchSignal?, returnCaller?, run?, startTimestamps, pass, note]

/-- The teardown begins when somebody waits for it. -/
theorem away_of_beginTeardown (moved : s.step .beginTeardown = some next)
    (alone : s.callers = []) : s.acceptor.isAway := by
  have begun : s.beginTeardown? = some next := moved
  unfold beginTeardown? at begun
  split at begun
  · rename_i told
    have awaited := told.1
    rw [isAwaited, alone] at awaited
    cases waiting : s.acceptor <;> simp_all [Acceptor.isAway]
  · cases begun

private theorem madeBy_of_proceeding {proceeding : Proceeding}
    (proceeds : s.proceeding? move = some proceeding) : proceeding.MadeBy move := by
  cases move with
  | joinHandler =>
      rw [proceeding?] at proceeds
      split at proceeds <;> obtain rfl := Option.some.inj proceeds <;> rfl
  | trigger | catchSignal | callShutdown | closeListener | beginTeardown | joinTimestamp |
    removeFile =>
      obtain rfl := Option.some.inj proceeds
      trivial
  | _ => cases proceeds

/-! ## What a run has done -/

/-- The moves that have been made account for how far the acceptor and the teardown have come, and
nobody from outside waits for the teardown. -/
structure Follows (s : Service) (moves : List Move) : Prop where
  alone : s.callers = []
  gone : s.teardown ≠ .notStarted → s.acceptor.isAway
  left : s.acceptor.hasLeft → Passed moves []
  away : s.acceptor.isAway → Passed moves [.closeListener]
  begun : s.teardown ≠ .notStarted → Passed moves s.teardown.course

/-- A service whose acceptor is about to look at the flag is at the beginning of its loop. -/
theorem follows_of_checking (checking : s.acceptor = .checking)
    (notStarted : s.teardown = .notStarted) (alone : s.callers = []) : s.Follows [] where
  alone := alone
  gone := fun begun => absurd notStarted begun
  left := checking ▸ nofun
  away := checking ▸ nofun
  begun := fun begun => absurd notStarted begun

namespace Follows

variable (follows : s.Follows moves) (moved : s.step move = some next)
include follows moved

private theorem step_left : next.acceptor.hasLeft → Passed (moves ++ [move]) [] := by
  intro gone
  cases step_departs moved with
  | not acceptor => exact (follows.left (acceptor ▸ gone)).later move
  | loops _ inside => exact nomatch inside.symm.trans gone
  | leaves exit _ _ => exact ⟨move, exit, List.sublist_append_right _ _⟩
  | closes left => exact (follows.left left).later _
  | returns away => exact (follows.left (hasLeft_of_isAway away)).later _

private theorem step_away : next.acceptor.isAway → Passed (moves ++ [move]) [.closeListener] := by
  intro gone
  cases step_departs moved with
  | not acceptor => exact (follows.away (acceptor ▸ gone)).later move
  | loops _ inside => exact nomatch inside.symm.trans (hasLeft_of_isAway gone)
  | leaves _ _ here => exact nomatch here.symm.trans gone
  | closes left => exact (follows.left left).extend .closeListener
  | returns away => exact (follows.away away).later _

/-- The teardown goes on only when the acceptor is away. -/
theorem away_of_begun (begun : next.teardown ≠ .notStarted) : s.acceptor.isAway := by
  by_cases notStarted : s.teardown = .notStarted
  · have proceeds := step_proceeds moved
    have named : ∀ stage, s.proceeding? move = some stage → stage.MadeBy move :=
      fun _ => madeBy_of_proceeding
    generalize s.proceeding? move = proceeding at proceeds named
    cases proceeds with
    | nothing _ teardown | asked _ teardown => exact absurd (teardown.trans notStarted) begun
    | drained =>
        obtain rfl := named _ rfl
        exact away_of_beginTeardown moved follows.alone
    | joined _ joining => cases notStarted.symm.trans joining
    | tookTimestamps _ joined => cases notStarted.symm.trans joined
    | joinedTimestamps _ joining => cases notStarted.symm.trans joining
    | removed _ removing => cases notStarted.symm.trans removing
  · exact follows.gone notStarted

private theorem step_begun :
    next.teardown ≠ .notStarted → Passed (moves ++ [move]) next.teardown.course := by
  intro gone
  have proceeds := step_proceeds moved
  have named : ∀ stage, s.proceeding? move = some stage → stage.MadeBy move :=
    fun _ => madeBy_of_proceeding
  generalize s.proceeding? move = proceeding at proceeds named
  cases proceeds with
  | nothing _ teardown | asked _ teardown =>
      rw [teardown] at gone ⊢
      exact (follows.begun gone).later move
  | drained _ _ teardown =>
      obtain rfl := named _ rfl
      rw [teardown]
      have away := follows.away_of_begun moved (teardown ▸ nofun)
      exact (follows.away away).extend .beginTeardown
  | joined _ joining teardown =>
      have begun := follows.begun (joining ▸ nofun)
      rw [joining] at begun
      rw [teardown]
      exact begun.later move
  | tookTimestamps _ joined teardown =>
      obtain rfl := named _ rfl
      have begun := follows.begun (joined ▸ nofun)
      rw [joined] at begun
      rw [teardown]
      exact begun.extend .joinHandler
  | joinedTimestamps _ joining teardown =>
      obtain rfl := named _ rfl
      have begun := follows.begun (joining ▸ nofun)
      rw [joining] at begun
      rw [teardown]
      exact begun.extend .joinTimestamp
  | removed _ removing teardown =>
      obtain rfl := named _ rfl
      have begun := follows.begun (removing ▸ nofun)
      rw [removing] at begun
      rw [teardown]
      exact begun.extend .removeFile

/-- **One move.** -/
theorem step (own : move ≠ .callShutdown) : next.Follows (moves ++ [move]) where
  alone := step_alone moved own follows.alone
  gone := fun begun => (step_departs moved).isAway (follows.away_of_begun moved begun)
  left := follows.step_left moved
  away := follows.step_away moved
  begun := follows.step_begun moved

end Follows

/-- **A whole run.** -/
theorem Follows.play {before later : List Move} {past : List Occurrence} {last : Service}
    (follows : s.Follows before) (own : .callShutdown ∉ later)
    (played : s.play later = some (past, last)) : last.Follows (before ++ later) := by
  induction later generalizing s before past with
  | nil =>
      obtain ⟨_, rfl⟩ := Prod.mk.inj (Option.some.inj played)
      rw [List.append_nil]
      exact follows
  | cons move later ih =>
      rcases of_play_cons played with ⟨next, rest, moved, onward, rfl⟩
      rw [List.mem_cons, not_or] at own
      rw [← List.singleton_append, ← List.append_assoc]
      exact ih (follows.step moved (Ne.symm own.1)) own.2 onward

/-- The last move of a run is made where the others have led. -/
theorem play_snoc {past : List Occurrence} {last : Service}
    (played : s.play (moves ++ [move]) = some (past, last)) :
    ∃ before middle, s.play moves = some (before, middle) ∧ middle.step move = some last := by
  induction moves generalizing s past with
  | nil =>
      rcases of_play_cons played with ⟨next, rest, moved, onward, rfl⟩
      obtain ⟨_, rfl⟩ := Prod.mk.inj (Option.some.inj onward)
      exact ⟨[], s, rfl, moved⟩
  | cons first rest ih =>
      rcases of_play_cons played with ⟨next, later, moved, onward, rfl⟩
      rcases ih onward with ⟨before, middle, reached, final⟩
      refine ⟨s.occurrence first :: before, middle, ?_, final⟩
      rw [play, moved]
      exact congrArg (Option.map _) reached

/-- **The removal of the file comes last.** Before it the acceptor has left its loop for good, it
has closed the listener, and the teardown has begun, has joined all handlers and has joined the
timestamp task. -/
theorem Follows.removal {past : List Occurrence} {last : Service} (follows : s.Follows [])
    (own : .callShutdown ∉ moves)
    (played : s.play (moves ++ [.removeFile]) = some (past, last)) :
    Passed moves [.closeListener, .beginTeardown, .joinHandler, .joinTimestamp] ∧
      ∃ before middle, s.play moves = some (before, middle) ∧ middle.acceptor.isAway := by
  rcases play_snoc played with ⟨before, middle, reached, moved⟩
  rcases follows.play own reached with ⟨_, gone, _, _, begun⟩
  have removed : middle.removeFile? = some last := moved
  unfold removeFile? at removed
  split at removed
  · rename_i removing
    rw [removing] at begun gone
    exact ⟨begun nofun, before, middle, reached, gone nofun⟩
  · exact nomatch removed

/-! ## The file until then -/

/-- **Until it is removed the file stays**, and holds what it held, if nobody else interferes. -/
theorem keeps_until_removal {past : List Occurrence} {last : Service} {location : Location}
    {stored : Bytes} (played : s.play moves = some (past, last)) (stays : .removeFile ∉ moves)
    (calm : s.storage.Undisturbed) (kept : s.storage.Keeps s.log.path location stored) :
    ∃ more, last.storage.Keeps s.log.path location (stored ++ more) := by
  induction moves generalizing s past stored with
  | nil =>
      obtain ⟨_, rfl⟩ := Prod.mk.inj (Option.some.inj played)
      refine ⟨[], ?_⟩
      rw [List.append_nil]
      exact kept
  | cons move later ih =>
      rcases of_play_cons played with ⟨next, rest, moved, onward, rfl⟩
      rw [List.mem_cons, not_or] at stays
      have log : next.log = s.log := (History.refl.step move moved).log_eq
      rw [← log]
      rcases stored_by_step moved (Ne.symm stays.1) with unchanged | ⟨data, result, answered⟩
      · rw [← unchanged] at calm kept
        exact ih onward stays.2 calm (log ▸ kept)
      · rcases SharedLog.fills_appendAsync kept calm data with ⟨more, fills⟩
        rw [answered] at fills
        rcases ih onward stays.2 (calm.of_plan_suffix fills.plan) (log ▸ fills.kept) with
          ⟨further, still⟩
        rw [List.append_assoc] at still
        exact ⟨more ++ further, still⟩

end Service

end PacketLog
