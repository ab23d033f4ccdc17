import PacketLog.Proofs.Session.Replies
import PacketLog.Session.Conversation

/-! # Conversations as rows of happenings

Every move of a conversation makes something happen to its session, except that a peer that is not
ready, or an attempt to send that is made again, uses up a turn of its script
(`Conversation.step?_takes`). `Conversation.Reaches` tells what
has happened on the way from one state of a conversation to another, and carries the accounts of
sessions over to conversations: of the packets made, of the replies, and of the log. What an
observer of the connection sees written is the output of what has happened
(`Conversation.Reaches.written_eq`).
-/

namespace PacketLog

/-- The bytes that an observer of a connection sees written. -/
def SessionEvent.written (events : List SessionEvent) : Bytes :=
  events.flatMap fun
    | .write bytes => bytes
    | _ => []

private theorem SessionEvent.written_append (events later : List SessionEvent) :
    written (events ++ later) = written events ++ written later :=
  List.flatMap_append

namespace Conversation

/-- What the next move makes happen to the session. -/
def happening? (c : Conversation) : Option Happening :=
  match c.session.phase with
  | .reading =>
      match c.peer.reads with
      | [] | .eof :: _ => some (.received [])
      | .data bytes :: _ => some (.received (bytes.take c.session.readSize))
      | .fail e :: _ => some (.receiveFailed e)
      | .notReady :: _ => none
      | .close :: _ => some .closed
  | .appending packet _ => some (.appended packet (c.log.appendAsync packet c.storage).1)
  | .snapshotting _ => some (.snapshotTaken (c.log.snapshot c.storage))
  | .replying left _ =>
      if left = [] then some (.sent [])
      else
        match c.peer.sends with
        | [] => some (.taking left left.length)
        | .upTo limit :: _ => some (.taking left (left.take limit).length)
        | .fail e :: _ => some (.sendFailed e)
        | .interrupted :: _ | .notReady :: _ => none
        | .close :: _ => some .unanswered
  | .ended _ => none

/-- Makes all moves and answers what they make happen to the session, in order. -/
def happenings (c : Conversation) : List Happening :=
  match _moved : c.step? with
  | none => []
  | some next => c.happening?.toList ++ next.happenings
termination_by c.work
decreasing_by exact work_step?_lt _moved

/-- What happens to the session on the way from one state of a conversation to another. -/
inductive Reaches (c : Conversation) : List Happening → Conversation → Prop
  | refl : Reaches c [] c
  | step {past : List Happening} {d next : Conversation} (before : Reaches c past d)
      (moved : d.step? = some next) : Reaches c (past ++ d.happening?.toList) next

/-- **One move.** It makes something happen to the session and to the storage the log is kept on, or
nothing. -/
theorem step?_takes {c next : Conversation} (moved : c.step? = some next) :
    next.log = c.log ∧
      match c.happening? with
      | some happening => Session.Takes c.session happening next.session ∧
          happening.Touches c.log c.storage next.storage
      | none => next.session = c.session ∧ next.storage = c.storage := by
  cases phase : c.session.phase with
  | reading =>
      simp only [step?, phase, Option.some.injEq] at moved
      subst moved
      unfold happening? read
      rw [phase]
      cases turns : c.peer.reads with
      | nil => exact ⟨rfl, .received phase, rfl⟩
      | cons turn reads =>
          cases turn with
          | data bytes => exact ⟨rfl, .received phase, rfl⟩
          | fail e => exact ⟨rfl, .receiveFailed phase, rfl⟩
          | eof => exact ⟨rfl, .received phase, rfl⟩
          | notReady => exact ⟨rfl, rfl, rfl⟩
          | close => exact ⟨rfl, .closed phase, rfl⟩
  | appending packet rest =>
      simp only [step?, phase, Option.some.injEq] at moved
      subst moved
      unfold happening?
      rw [phase]
      exact ⟨rfl, .appended phase, rfl⟩
  | snapshotting rest =>
      simp only [step?, phase, Option.some.injEq] at moved
      subst moved
      unfold happening?
      rw [phase]
      exact ⟨rfl, .snapshotTaken phase, rfl, rfl⟩
  | replying left rest =>
      simp only [step?, phase, Option.some.injEq] at moved
      subst moved
      unfold happening? send
      rw [phase]
      dsimp only
      by_cases nothing : left = []
      · rw [if_pos nothing, if_pos nothing]
        subst nothing
        exact ⟨rfl, .sent phase (Nat.le_refl _) (fun _ => rfl) rfl, rfl⟩
      · rw [if_neg nothing, if_neg nothing]
        cases turns : c.peer.sends with
        | nil => exact ⟨rfl, .taking phase (Nat.le_refl _), Happening.touches_taking _ _ _ _⟩
        | cons turn sends =>
            cases turn with
            | upTo limit =>
                exact
                  ⟨rfl, .taking phase (List.length_take_le' _ _), Happening.touches_taking _ _ _ _⟩
            | fail e => exact ⟨rfl, .sendFailed phase nothing, rfl⟩
            | interrupted => exact ⟨rfl, rfl, rfl⟩
            | notReady => exact ⟨rfl, rfl, rfl⟩
            | close => exact ⟨rfl, .unanswered phase, rfl⟩
  | ended ending =>
      simp only [step?, phase] at moved
      exact nomatch moved

private theorem written_note (c : Conversation) (event : SessionEvent) :
    SessionEvent.written (c.note event).events =
      SessionEvent.written c.events ++ SessionEvent.written [event] := by
  rw [events, note, List.reverse_cons, SessionEvent.written_append]
  rfl

/-- What one move writes is the output of what it makes happen. -/
theorem step?_written {c next : Conversation} (moved : c.step? = some next) :
    SessionEvent.written next.events =
      SessionEvent.written c.events ++ Happening.output c.happening?.toList := by
  cases phase : c.session.phase with
  | reading =>
      simp only [step?, phase, Option.some.injEq] at moved
      subst moved
      unfold happening? read
      rw [phase]
      cases turns : c.peer.reads with
      | nil => exact written_note _ .eof
      | cons turn reads =>
          cases turn with
          | data bytes => exact written_note _ (.read _)
          | fail e => exact written_note _ .readError
          | eof => exact written_note _ .eof
          | notReady => exact (List.append_nil _).symm
          | close => exact written_note _ .close
  | replying left rest =>
      simp only [step?, phase, Option.some.injEq] at moved
      subst moved
      unfold happening? send
      rw [phase]
      dsimp only
      by_cases nothing : left = []
      · rw [if_pos nothing, if_pos nothing]
        exact (List.append_nil _).symm
      · rw [if_neg nothing, if_neg nothing]
        cases turns : c.peer.sends with
        | nil =>
            rw [Option.toList_some, Happening.output_taking, List.take_length]
            exact (written_note _ (.write left)).trans (congrArg _ (List.append_nil left))
        | cons turn sends =>
            cases turn with
            | upTo limit =>
                rw [Option.toList_some, Happening.output_taking, List.length_take,
                  ← List.take_eq_take_min]
                exact (written_note _ (.write (left.take limit))).trans
                  (congrArg _ (List.append_nil _))
            | fail e => exact written_note _ .writeError
            | interrupted => exact written_note _ .writeError
            | notReady => exact (List.append_nil _).symm
            | close => exact written_note _ .close
  | appending packet rest | snapshotting rest =>
      simp only [step?, phase, Option.some.injEq] at moved
      subst moved
      unfold happening?
      rw [phase]
      exact (List.append_nil _).symm
  | ended ending =>
      simp only [step?, phase] at moved
      exact nomatch moved

/-- A conversation without a next move has ended. -/
theorem ended_of_step? {c : Conversation} (finished : c.step? = none) :
    ∃ ending, c.session.phase = .ended ending := by
  cases phase : c.session.phase with
  | ended ending => exact ⟨ending, rfl⟩
  | _ => simp [step?, phase] at finished

/-- A step of a conversation leads to the same end. -/
theorem run_of_step? {c next : Conversation} (moved : c.step? = some next) : c.run = next.run := by
  rw [run]
  split
  · rename_i finished
    cases moved.symm.trans finished
  · rename_i same
    rw [Option.some.inj (moved.symm.trans same)]

/-- The first step of a conversation happens first. -/
theorem happenings_of_step? {c next : Conversation} (moved : c.step? = some next) :
    c.happenings = c.happening?.toList ++ next.happenings := by
  rw [happenings]
  split
  · rename_i finished
    cases moved.symm.trans finished
  · rename_i same
    rw [Option.some.inj (moved.symm.trans same)]

/-- Nothing more happens in a conversation that has come to its end. -/
theorem run_of_finished {c : Conversation} (finished : c.step? = none) :
    c.run = c ∧ c.happenings = [] := by
  constructor
  · rw [run]
    split
    · rfl
    · rename_i moved
      cases finished.symm.trans moved
  · rw [happenings]
    split
    · rfl
    · rename_i moved
      cases finished.symm.trans moved

/-- **Every conversation ends**, and what happens on the way is all that happens. -/
theorem reaches_run (c : Conversation) :
    c.Reaches c.happenings c.run ∧ ∃ ending, c.run.session.phase = .ended ending := by
  -- The induction moves a state on the way to the end, with what has happened so far.
  have onward : ∀ (d : Conversation) (past : List Happening), c.Reaches past d →
      c.Reaches (past ++ d.happenings) d.run ∧ ∃ ending, d.run.session.phase = .ended ending := by
    intro d
    induction d using run.induct with
    | case1 d finished =>
        intro past reached
        obtain ⟨here, nothing⟩ := run_of_finished finished
        rw [here, nothing, List.append_nil]
        exact ⟨reached, ended_of_step? finished⟩
    | case2 d next moved ih =>
        intro past reached
        rw [run_of_step? moved, happenings_of_step? moved, ← List.append_assoc]
        exact ih _ (.step reached moved)
  exact onward c [] .refl

namespace Reaches

variable {c d : Conversation} {past : List Happening} (reached : c.Reaches past d)
include reached

/-- What has happened on the way and what is still to happen is all that happens. -/
theorem happenings_eq : c.happenings = past ++ d.happenings := by
  induction reached with
  | refl => rfl
  | step before moved ih => rw [ih, happenings_of_step? moved, List.append_assoc]

/-- What every happening keeps true of a session and its past is true all the way. -/
theorem keeps {P : List Happening → Session → Prop} (start : P [] c.session)
    (step : ∀ {past s happening next}, Session.Takes s happening next → P past s →
      P (past ++ [happening]) next) : P past d.session := by
  induction reached with
  | refl => exact start
  | @step past d next before moved ih =>
      have taken := (step?_takes moved).2
      cases happened : d.happening? with
      | some happening =>
          rw [happened] at taken
          exact step taken.1 ih
      | none =>
          rw [happened] at taken
          rw [Option.toList_none, List.append_nil, taken.1]
          exact ih

/-- A conversation is about one log. -/
theorem log_eq : d.log = c.log := by
  induction reached with
  | refl => rfl
  | step before moved ih => rw [(step?_takes moved).1, ih]

/-- What is written to the peer is what happens to be sent. -/
theorem written_eq :
    SessionEvent.written d.events = SessionEvent.written c.events ++ Happening.output past := by
  induction reached with
  | refl => exact (List.append_nil _).symm
  | step before moved ih =>
      rw [step?_written moved, ih, Happening.output_append, List.append_assoc]

/-- **The log on the way.** After what it held in the beginning it holds the packets whose append
was tried, as long as every operation succeeds. -/
theorem holds {contents : Bytes} (holds : c.log.Holds c.storage contents)
    (calm : c.storage.Undisturbed) (faultless : ∀ happening ∈ past, happening.succeeded) :
    c.log.Holds d.storage (contents ++ (Happening.packets past).flatten) ∧
      d.storage.Undisturbed := by
  induction reached with
  | refl => exact ⟨holds.append_nil, calm⟩
  | @step past d next before moved ih =>
      obtain ⟨now, calmNow⟩ :=
        ih fun happening member => faultless happening (List.mem_append_left _ member)
      have taken := (step?_takes moved).2
      cases happened : d.happening? with
      | some happening =>
          rw [happened, before.log_eq] at taken
          rw [happened] at faultless
          have succeeded := faultless happening (List.mem_append_right _ List.mem_cons_self)
          rw [Option.toList_some, Happening.packets_append, List.flatten_append,
            ← List.append_assoc]
          exact taken.2.holds succeeded now calmNow
      | none =>
          rw [happened] at taken
          rw [Option.toList_none, List.append_nil, taken.2]
          exact ⟨now, calmNow⟩

end Reaches

end Conversation

end PacketLog
