import Mathlib
import PacketLog.Server.Moves

/-! # What each part of the service leaves alone

The acceptor, the handlers and the timestamp tasks have little to do with each other, and nothing
with the clock, the teardown and those who wait for it. `Move.part?` says which of them makes a
move, and there is one lemma for each part, and one for the stages of the teardown, about everything
that their moves leave as it is.
-/

namespace PacketLog

/-- The parts of a service that get on by themselves. -/
inductive Part
  | acceptor
  | handler
  | timestamp
  deriving DecidableEq

/-- The part that makes a move. The start of the service and its shutdown are moves of the whole. -/
def Move.part? : Move → Option Part
  | .checkFlag | .acquire | .accept _ | .failAccept _ | .resume | .heedFlag => some .acceptor
  | .receive _ _ | .failReceive _ _ | .append _ | .snapshot _ | .send _ _ | .failSend _ _
  | .heedClose _ | .crash _ | .leave _ | .endTask _ => some .handler
  | .pollTimestamp _ _ | .writeTimestamp _ _ _ => some .timestamp
  | _ => none

/-- Whether a move carries out a stage of the teardown. -/
def Move.isStage : Move → Bool
  | .beginTeardown | .joinHandler | .joinTimestamp | .removeFile => true
  | _ => false

namespace Service

variable {s next : Service} {move : Move}

/-- What the acceptor leaves alone. -/
def besideAcceptor (s : Service) :
    Config × Storage × ShutdownFlag × Nat × List TimestampTask × Option Nat × Teardown ×
      List Caller :=
  (s.config, s.storage, s.flag, s.now, s.timestamps, s.slot, s.teardown, s.callers)

/-- What a handler leaves alone. -/
def besideHandlers (s : Service) :
    Config × ShutdownFlag × Acceptor × Nat × List TimestampTask × Option Nat × Teardown ×
      List Caller :=
  (s.config, s.flag, s.acceptor, s.now, s.timestamps, s.slot, s.teardown, s.callers)

/-- What a timestamp task leaves alone. -/
def besideTimestamps (s : Service) :
    Config × ShutdownFlag × Registry × List Connection × Option Nat × Acceptor × Nat ×
      Option Nat × Teardown × List Caller :=
  (s.config, s.flag, s.registry, s.connections, s.permits, s.acceptor, s.now, s.slot, s.teardown,
    s.callers)

/-- A move of the acceptor leaves everything beside it alone. -/
theorem besideAcceptor_step (part : move.part? = some .acceptor)
    (moved : s.step move = some next) : next.besideAcceptor = s.besideAcceptor := by
  cases move with
  | checkFlag | acquire | failAccept | resume | heedFlag =>
      grind [step, checkFlag?, acquire?, failAccept?, resume?, heedFlag?, returnPermit, note,
        besideAcceptor]
  | accept peer =>
      grind [step, accept?, dispatch, lockRegistry, returnPermit, note, besideAcceptor]
  | _ => exact nomatch part

/-- A move of a handler leaves everything beside the handlers alone. -/
theorem besideHandlers_step (part : move.part? = some .handler)
    (moved : s.step move = some next) : next.besideHandlers = s.besideHandlers := by
  cases move with
  | receive | failReceive | snapshot | send | failSend | heedClose | crash =>
      grind [step, Option.bind_eq_some_iff, receive?, failReceive?, snapshot?, send?, failSend?,
        heedClose?, crash?, setSession, besideHandlers]
  | append task =>
      rcases Option.bind_eq_some_iff.mp moved with ⟨c, _, moved⟩
      split at moved
      · obtain rfl := Option.some.inj moved
        rfl
      · exact nomatch moved
  | leave | endTask =>
      grind [step, Option.bind_eq_some_iff, leave?, endTask?, returnPermit, besideHandlers]
  | _ => exact nomatch part

private theorem besideTimestamps_setTimestamp (task : Nat) (t : TimestampTask) :
    (s.setTimestamp task t).besideTimestamps = s.besideTimestamps := by
  unfold setTimestamp
  dsimp only
  split <;> rfl

/-- However the append of a record ends, everything beside the timestamp tasks is left alone. -/
theorem besideTimestamps_recordAppended (task : Nat) (t : TimestampTask) (record : Bytes)
    (timerFirst : Bool) (result : Except LogError Unit) :
    (s.recordAppended task t record timerFirst result).besideTimestamps = s.besideTimestamps := by
  unfold recordAppended
  rw [besideTimestamps_setTimestamp]
  cases result <;> rfl

/-- A move of a timestamp task leaves everything beside these tasks alone. -/
theorem besideTimestamps_step (part : move.part? = some .timestamp)
    (moved : s.step move = some next) : next.besideTimestamps = s.besideTimestamps := by
  cases move with
  | pollTimestamp task timerFirst =>
      rcases Option.bind_eq_some_iff.mp moved with ⟨t, _, moved⟩
      dsimp only at moved
      split at moved
      · obtain rfl := Option.some.inj moved
        exact besideTimestamps_setTimestamp _ _
      · obtain rfl := Option.some.inj moved
        exact besideTimestamps_setTimestamp _ _
      · exact nomatch moved
  | writeTimestamp task moment timerFirst =>
      have written : s.writeTimestamp? task moment timerFirst = some next := moved
      rcases Option.bind_eq_some_iff.mp written with ⟨t, _, written⟩
      split at written
      · obtain rfl := Option.some.inj written
        exact besideTimestamps_recordAppended _ _ _ _ _
      · exact nomatch written
  | _ => exact nomatch part

/-- What the stages of the teardown leave alone. -/
def besideTeardown (s : Service) :
    Config × ShutdownFlag × Acceptor × Nat × List TimestampTask × List Caller :=
  (s.config, s.flag, s.acceptor, s.now, s.timestamps, s.callers)

/-- A stage of the teardown leaves everything beside it alone. -/
theorem besideTeardown_step (stage : move.isStage) (moved : s.step move = some next) :
    next.besideTeardown = s.besideTeardown := by
  cases move with
  | beginTeardown => grind [step, beginTeardown?, lockRegistry, askToClose, besideTeardown]
  | joinHandler | joinTimestamp | removeFile =>
      grind [step, Option.bind_eq_some_iff, joinHandler?, joinTimestamp?, removeFile?,
        fileRemoved, note, besideTeardown]
  | _ => exact nomatch stage

end Service

end PacketLog
