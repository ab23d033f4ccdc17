import PacketLog.Proofs.Server.Occurrences
import Mathlib.Data.List.Induction

/-! # Histories of the service

`Service.History` tells what has occurred on the way from one state of the service to another. To a
single session it is a row of happenings (`Occurrence.happeningsOf`), so that whatever every
happening keeps true of a session is true of all sessions of a service
(`Service.History.session_keeps`). To the log it is a list of entries (`Occurrence.entries`), each
with its author, and without failures the log holds their records after what it held in the
beginning (`Service.History.holds`).
-/

namespace PacketLog

/-- Who appends to the log: the session of a task, or a timestamp task. -/
inductive Author
  | session (task : Nat)
  | timestamps (task : Nat)
  deriving DecidableEq, Repr

/-- A record in the log, and who appended it. -/
structure LogEntry where
  author : Author
  record : Bytes
  deriving DecidableEq, Repr

namespace Occurrence

/-- What an occurrence appends to the log. -/
def entry? : Occurrence → Option LogEntry
  | .session task (.appended packet _) => some ⟨.session task, packet⟩
  | .timestamp task record _ => some ⟨.timestamps task, record⟩
  | _ => none

/-- The entries appended, in order. -/
def entries (past : List Occurrence) : List LogEntry := past.filterMap entry?

/-- The records appended, in order. -/
def records (past : List Occurrence) : List Bytes := (entries past).map (·.record)

/-- The records of one author, in order. -/
def recordsBy (author : Author) (past : List Occurrence) : List Bytes :=
  ((entries past).filter (·.author = author)).map (·.record)

/-- What an occurrence is to the session of a task. -/
def happeningOf? (task : Nat) : Occurrence → Option Happening
  | .session other happening => if other = task then some happening else none
  | _ => none

/-- What happened to the session of a task, in order. -/
def happeningsOf (task : Nat) (past : List Occurrence) : List Happening :=
  past.filterMap (happeningOf? task)

/-- The records of a timestamp task, in order. -/
def timestampsOf (task : Nat) (past : List Occurrence) : List Bytes :=
  past.filterMap fun
    | .timestamp other record _ => if other = task then some record else none
    | _ => none

/-- No operation on the log failed, and the file was not removed. -/
def faultless : Occurrence → Bool
  | .session _ happening => happening.succeeded
  | .timestamp _ _ result => result.isOk
  | .removal => false
  | .quiet => true

/-- The records of two rows of occurrences come one after another. -/
theorem records_append (past later : List Occurrence) :
    records (past ++ later) = records past ++ records later := by
  rw [records, entries, List.filterMap_append, List.map_append]
  rfl

private theorem happeningsOf_append (task : Nat) (past later : List Occurrence) :
    happeningsOf task (past ++ later) = happeningsOf task past ++ happeningsOf task later :=
  List.filterMap_append

private theorem recordsBy_cons (author : Author) (first : Occurrence) (later : List Occurrence) :
    recordsBy author (first :: later) = recordsBy author [first] ++ recordsBy author later := by
  rw [recordsBy, recordsBy, recordsBy, ← List.map_append, ← List.filter_append, entries, entries,
    entries, ← List.filterMap_append]
  rfl

/-- The records of a session are the packets it has appended. -/
theorem recordsBy_session (task : Nat) (past : List Occurrence) :
    recordsBy (.session task) past = Happening.packets (happeningsOf task past) := by
  induction past with
  | nil => rfl
  | cons first later ih =>
      rw [recordsBy_cons, ih, ← List.singleton_append (l := later), happeningsOf_append,
        Happening.packets_append]
      congr 1
      cases first with
      | session other happening =>
          by_cases same : other = task
          · cases happening <;>
              simp [recordsBy, entries, entry?, happeningsOf, happeningOf?, Happening.packets,
                Happening.packet?, List.filterMap_cons, same]
          · cases happening <;>
              simp [recordsBy, entries, entry?, happeningsOf, happeningOf?, Happening.packets,
                List.filterMap_cons, same]
      | timestamp other record result => rfl
      | removal => rfl
      | quiet => rfl

/-- The records of a timestamp task are the lines it has written. -/
theorem recordsBy_timestamps (task : Nat) (past : List Occurrence) :
    recordsBy (.timestamps task) past = timestampsOf task past := by
  induction past with
  | nil => rfl
  | cons first later ih =>
      rw [recordsBy_cons, ih, timestampsOf, timestampsOf, ← List.singleton_append (l := later),
        List.filterMap_append]
      congr 1
      cases first with
      | session other happening => cases happening <;> rfl
      | timestamp other record result =>
          by_cases same : other = task <;> simp [recordsBy, entries, entry?, same]
      | removal => rfl
      | quiet => rfl

end Occurrence

namespace Service

/-- What has occurred on the way from one state of the service to another. -/
inductive History (start : Service) : List Occurrence → Service → Prop
  | refl : History start [] start
  | step {past : List Occurrence} {s next : Service} (move : Move) (before : History start past s)
      (moved : s.step move = some next) : History start (past ++ [s.occurrence move]) next

/-- Whatever is reachable has a history. -/
theorem reachable_iff_history {start s : Service} :
    start.Reachable s ↔ ∃ past, start.History past s := by
  constructor
  · intro reachable
    induction reachable with
    | refl => exact ⟨[], .refl⟩
    | step move _ moved ih => exact ih.elim fun past history => ⟨_, history.step move moved⟩
  · rintro ⟨past, history⟩
    induction history with
    | refl => exact .refl
    | step move _ moved ih => exact ih.step move moved

namespace History

variable {start s : Service} {past : List Occurrence}

private theorem trans {middle : Service} {later : List Occurrence}
    (first : start.History past middle)
    (second : middle.History later s) : start.History (past ++ later) s := by
  induction second with
  | refl => rwa [List.append_nil]
  | step move _ moved ih =>
      rw [← List.append_assoc]
      exact ih.step move moved

private theorem last {occurrence : Occurrence} (history : start.History (past ++ [occurrence]) s) :
    ∃ moment move, start.History past moment ∧ moment.step move = some s ∧
      moment.occurrence move = occurrence := by
  generalize whole : past ++ [occurrence] = all at history
  cases history with
  | refl => exact absurd whole (List.append_ne_nil_of_right_ne_nil _ (List.cons_ne_nil _ _))
  | @step front moment _ move before moved =>
      obtain ⟨rfl, same⟩ := List.append_inj' whole rfl
      exact ⟨moment, move, before, moved, (List.singleton_inj.mp same).symm⟩

/-- A history goes through a state wherever it is split. -/
theorem split {earlier later : List Occurrence} (history : start.History (earlier ++ later) s) :
    ∃ moment, start.History earlier moment ∧ moment.History later s := by
  induction later using List.reverseRecOn generalizing s with
  | nil =>
      rw [List.append_nil] at history
      exact ⟨s, history, .refl⟩
  | append_singleton later occurrence ih =>
      rw [← List.append_assoc] at history
      obtain ⟨moment, move, before, moved, rfl⟩ := history.last
      obtain ⟨middle, first, second⟩ := ih before
      exact ⟨middle, first, second.step move moved⟩

/-- The states right before and right after something occurred. -/
theorem split_at {earlier later : List Occurrence} {occurrence : Occurrence}
    (history : start.History (earlier ++ occurrence :: later) s) :
    ∃ moment next, start.History earlier moment ∧ moment.Occurs next occurrence ∧
      next.config = moment.config ∧ next.History later s := by
  rw [← List.singleton_append, ← List.append_assoc] at history
  obtain ⟨next, first, second⟩ := history.split
  obtain ⟨moment, move, before, moved, rfl⟩ := first.last
  obtain ⟨config, occurs⟩ := step_occurs moved
  exact ⟨moment, next, before, occurs, config, second⟩

private theorem config_eq (history : start.History past s) : s.config = start.config := by
  induction history with
  | refl => rfl
  | step move _ moved ih => exact (step_occurs moved).1.trans ih

/-- Whatever occurs, the log stays the same. -/
theorem log_eq (history : start.History past s) : s.log = start.log :=
  congrArg (fun config : Config => (⟨config.dataFile⟩ : SharedLog)) history.config_eq

/-! ### What happens to one session -/

/-- What one occurrence does to the session of a task: what happens to it, and nothing else. -/
private theorem session_of_occurs {next : Service} {occurrence : Occurrence} (task : Nat)
    (occurs : s.Occurs next occurrence) :
    match occurrence.happeningOf? task with
    | some happening => ∃ session after, s.sessions[task]? = some session ∧
        session.Takes happening after ∧ next.sessions[task]? = some after
    | none => next.sessions[task]? = s.sessions[task]? ∨
        s.sessions[task]? = none ∧ next.sessions[task]? = some s.newSession := by
  cases occurrence with
  | session other happening =>
      obtain ⟨session, after, found, taken, set, _⟩ := occurs
      rw [Occurrence.happeningOf?]
      by_cases same : other = task
      · rw [if_pos same]
        subst same
        obtain ⟨inside, _⟩ := List.getElem?_eq_some_iff.mp found
        exact ⟨session, after, found, taken, by rw [set, List.getElem?_set_self inside]⟩
      · rw [if_neg same]
        left
        rw [set, List.getElem?_set_ne same]
  | timestamp other record result => exact .inl (congrArg (·[task]?) occurs.2.1)
  | removal => exact .inl (congrArg (·[task]?) occurs)
  | quiet =>
      obtain same | new := occurs.1
      · exact .inl (congrArg (·[task]?) same)
      · change next.sessions[task]? = _ ∨ _
        rw [new]
        by_cases last : task = s.sessions.length
        · right
          subst last
          rw [List.getElem?_concat_length]
          exact ⟨List.getElem?_eq_none (Nat.le_refl _), rfl⟩
        · left
          obtain inside | outside := Nat.lt_or_gt_of_ne last
          · exact List.getElem?_append_left inside
          · rw [List.getElem?_eq_none (by simp; omega), List.getElem?_eq_none (by omega)]

/-- **What every happening keeps true of a session** is true of all sessions of a service that has
started with none. To a task that has no session yet nothing has happened. -/
theorem session_keeps (history : start.History past s) (begun : start.sessions = [])
    {P : List Happening → Session → Prop} (fresh : P [] start.newSession)
    (step : ∀ {past session happening after}, Session.Takes session happening after →
      P past session → P (past ++ [happening]) after) (task : Nat) :
    match s.sessions[task]? with
    | some session => P (Occurrence.happeningsOf task past) session
    | none => Occurrence.happeningsOf task past = [] := by
  induction history with
  | refl =>
      rw [begun]
      rfl
  | @step past s next move before moved ih =>
      have config := before.config_eq
      have outcome := session_of_occurs task (step_occurs moved).2
      rw [Occurrence.happeningsOf_append]
      cases happened : (s.occurrence move).happeningOf? task with
      | some happening =>
          rw [happened] at outcome
          obtain ⟨session, after, found, taken, now⟩ := outcome
          have one : Occurrence.happeningsOf task [s.occurrence move] = [happening] := by
            simp [Occurrence.happeningsOf, happened]
          rw [found] at ih
          rw [now, one]
          exact step taken ih
      | none =>
          rw [happened] at outcome
          have nothing : Occurrence.happeningsOf task [s.occurrence move] = [] := by
            simp [Occurrence.happeningsOf, happened]
          rw [nothing, List.append_nil]
          obtain same | ⟨absent, new⟩ := outcome
          · rw [same]
            exact ih
          · rw [absent] at ih
            rw [new, ih, newSession, config]
            exact fresh

/-- A session to which nothing happens stays as it is. -/
theorem session_of_silent {task : Nat} {session : Session} (history : start.History past s)
    (silent : Occurrence.happeningsOf task past = [])
    (found : start.sessions[task]? = some session) :
    s.sessions[task]? = some session := by
  induction history with
  | refl => exact found
  | @step past s next move before moved ih =>
      rw [Occurrence.happeningsOf_append, List.append_eq_nil_iff] at silent
      have now := ih silent.1
      have outcome := session_of_occurs task (step_occurs moved).2
      have nothing : (s.occurrence move).happeningOf? task = none := by
        simpa [Occurrence.happeningsOf] using silent.2
      rw [nothing] at outcome
      obtain same | ⟨absent, _⟩ := outcome
      · rw [same, now]
      · exact nomatch now.symm.trans absent

/-- Nothing happens to a session that has ended. -/
theorem silent_of_ended {task : Nat} {session : Session} {ending : SessionEnd}
    (history : start.History past s) (found : start.sessions[task]? = some session)
    (ended : session.phase = .ended ending) : Occurrence.happeningsOf task past = [] := by
  induction history with
  | refl => rfl
  | @step past s next move before moved ih =>
      have now := before.session_of_silent ih found
      have outcome := session_of_occurs task (step_occurs moved).2
      rw [Occurrence.happeningsOf_append, ih, List.nil_append]
      cases happened : (s.occurrence move).happeningOf? task with
      | none => simp [Occurrence.happeningsOf, happened]
      | some happening =>
          rw [happened] at outcome
          obtain ⟨_, after, here, taken, _⟩ := outcome
          obtain rfl := Option.some.inj (now.symm.trans here)
          exact absurd ended (taken.not_ended ending)

/-! ### What the log holds -/

private theorem records_singleton (task : Nat) (happening : Happening) :
    Occurrence.records [.session task happening] = Happening.packets [happening] := by
  cases happening <;> rfl

private theorem holds_of_occurs {next : Service} {occurrence : Occurrence} {contents : Bytes}
    (occurs : s.Occurs next occurrence) (clean : occurrence.faultless)
    (holds : s.log.Holds s.storage contents) (calm : s.storage.Undisturbed) :
    s.log.Holds next.storage (contents ++ (Occurrence.records [occurrence]).flatten) ∧
      next.storage.Undisturbed := by
  cases occurrence with
  | session task happening =>
      obtain ⟨_, _, _, _, _, touches⟩ := occurs
      rw [records_singleton]
      exact touches.holds clean holds calm
  | timestamp task record result =>
      obtain ⟨_, _, done⟩ := occurs
      have added : (Occurrence.records [.timestamp task record result]).flatten = record :=
        List.append_nil record
      rw [added]
      cases result with
      | ok _ => exact holds.appendAsync_ok calm done
      | error e => exact nomatch clean
  | removal => exact nomatch clean
  | quiet =>
      rw [occurs.2]
      exact ⟨holds.append_nil, calm⟩

/-- **The log of a service.** As long as no operation on it fails and the file is not removed, it
holds the records appended after what it held in the beginning. -/
theorem holds {contents : Bytes} (history : start.History past s)
    (holds : start.log.Holds start.storage contents) (calm : start.storage.Undisturbed)
    (clean : ∀ occurrence ∈ past, occurrence.faultless) :
    s.log.Holds s.storage (contents ++ (Occurrence.records past).flatten) ∧
      s.storage.Undisturbed := by
  induction history with
  | refl => exact ⟨holds.append_nil, calm⟩
  | @step past s next move before moved ih =>
      obtain ⟨now, calmNow⟩ :=
        ih fun occurrence member => clean occurrence (List.mem_append_left _ member)
      have occurs := (step_occurs moved).2
      have log : next.log = s.log := (History.refl.step move moved).log_eq
      rw [log, Occurrence.records_append, List.flatten_append, ← List.append_assoc]
      exact holds_of_occurs occurs (clean _ (List.mem_append_right _ List.mem_cons_self)) now
        calmNow

end History

/-- Makes moves one after another and answers what occurs and where they lead. -/
def play (s : Service) : List Move → Option (List Occurrence × Service)
  | [] => some ([], s)
  | move :: later =>
      match s.step move with
      | none => none
      | some next => (next.play later).map fun (occurrences, last) =>
          (s.occurrence move :: occurrences, last)

/-- A run makes its first move and plays the others from there. -/
theorem of_play_cons {s last : Service} {move : Move} {later : List Move} {past : List Occurrence}
    (played : s.play (move :: later) = some (past, last)) :
    ∃ next rest, s.step move = some next ∧ next.play later = some (rest, last) ∧
      past = s.occurrence move :: rest := by
  rw [play] at played
  split at played
  · cases played
  · rename_i next moved
    obtain ⟨⟨rest, other⟩, onward, same⟩ := Option.map_eq_some_iff.mp played
    obtain ⟨rfl, rfl⟩ := Prod.mk.inj same
    exact ⟨next, rest, moved, onward, rfl⟩

/-- The histories are those that some moves play. -/
theorem history_of_play {start s : Service} {past : List Occurrence} {moves : List Move}
    (played : start.play moves = some (past, s)) : start.History past s := by
  induction moves generalizing start past with
  | nil =>
      obtain ⟨rfl, rfl⟩ := Prod.mk.inj (Option.some.inj played)
      exact .refl
  | cons move later ih =>
      obtain ⟨next, rest, moved, onward, rfl⟩ := of_play_cons played
      exact (History.refl.step move moved).trans (ih onward)

end Service

end PacketLog
