import Mathlib
import PacketLog.Proofs.Session.Conversations

/-! # Sessions one after another

`SharedLog.serve` has sessions with scripted peers follow each other on one log. Each one adds the
packets whose append it tried (`SharedLog.Holds.serve`), and how it ended tells which packets of
what it received these are (`Conversation.Settled`). -/

namespace PacketLog

/-- A peer's visit, and the sizes its session is given: of the first buffer, the largest packet and
a read. -/
structure Visit where
  initial : Nat
  limit : Nat
  readSize : Nat
  peer : Peer

/-- The session with a visitor, about to begin. -/
def Visit.start (visit : Visit) (log : SharedLog) (s : Storage) : Conversation where
  session := .new visit.initial visit.limit visit.readSize
  peer := visit.peer
  log := log
  storage := s
  seen := []

namespace SharedLog

/-- The sessions with some visitors, each about to begin after the one before it has ended. -/
def serve (log : SharedLog) (s : Storage) : List Visit → List Conversation
  | [] => []
  | visit :: later => visit.start log s :: log.serve (visit.start log s).run.storage later

/-- The storage after some visits. -/
def afterServing (log : SharedLog) (s : Storage) (visits : List Visit) : Storage :=
  visits.foldl (fun s visit => (visit.start log s).run.storage) s

private theorem serve_append (log : SharedLog) (s : Storage) (earlier later : List Visit) :
    log.serve s (earlier ++ later) =
      log.serve s earlier ++ log.serve (log.afterServing s earlier) later := by
  induction earlier generalizing s with
  | nil => rfl
  | cons visit earlier ih => exact congrArg (visit.start log s :: ·) (ih _)

/-- The packets whose append some sessions try, in order. -/
def packetsOf (sessions : List Conversation) : List Bytes :=
  sessions.flatMap fun c => Happening.packets c.happenings

variable {log : SharedLog} {s : Storage} {contents : Bytes}

/-- **Visits add to the log.** Without a failure it holds their packets after what it held. -/
theorem Holds.serve (holds : log.Holds s contents) (calm : s.Undisturbed) {visits : List Visit}
    (faultless : ∀ c ∈ log.serve s visits, ∀ happening ∈ c.happenings, happening.succeeded) :
    log.Holds (log.afterServing s visits)
        (contents ++ (packetsOf (log.serve s visits)).flatten) ∧
      (log.afterServing s visits).Undisturbed := by
  induction visits generalizing s contents with
  | nil => exact ⟨holds.append_nil, calm⟩
  | cons visit later ih =>
      have whole := (visit.start log s).reaches_run.1
      obtain ⟨now, calmNow⟩ := whole.holds holds calm (faultless _ List.mem_cons_self)
      have rest := ih now calmNow fun c member => faultless c (List.mem_cons_of_mem _ member)
      rw [List.append_assoc, ← List.flatten_append] at rest
      exact rest

end SharedLog

namespace Conversation

/-- A session that was answering the last of its packets until the `last` that happened, and leaves
a rest of its last read unframed. -/
def CutShort (past : List Happening) (last : Happening) : Prop :=
  ∃ before packet reply parts earlier rest, past = before ++ [last] ∧
    Happening.Answers before packet reply parts ∧ parts.flatten <+: reply ∧
    Happening.packets past = earlier ++ [packet] ∧
    (Happening.packets past).flatten ++ rest = Happening.input past

/-- Which packets a session has appended by its end: those admitted of what it received, or, if it
could not finish a reply, those up to the one it was answering. -/
def Settled (limit : Nat) (past : List Happening) : SessionEnd → Prop
  | .ok .peerClosed | .error (.recv _) | .error (.packet _) =>
      Happening.packets past = admitted limit (Happening.input past)
  | .ok .closed =>
      past.getLast? = some .closed ∧
          Happening.packets past = admitted limit (Happening.input past) ∨
        CutShort past .unanswered
  | .error (.send e) => CutShort past (.sendFailed e)
  | .error (.log _) => False

private theorem cutShort_of_underWay {a : Assembler} {before : List Happening} {last : Happening}
    {left rest : Bytes} (underWay : Happening.UnderWay before left) (noAppend : last.packet? = none)
    (answering : Session.Answering a (Happening.input (before ++ [last]))
      (Happening.packets (before ++ [last])) rest) : CutShort (before ++ [last]) last := by
  obtain ⟨packet, reply, parts, answers, whole⟩ := underWay
  obtain ⟨earlier, answered⟩ := answers.packets_eq
  have same : Happening.packets (before ++ [last]) = earlier ++ [packet] := by
    rw [Happening.packets_append, answered]
    simp [Happening.packets, noAppend]
  exact ⟨before, packet, reply, parts, earlier, rest, rfl, answers, ⟨left, whole⟩, same,
    answering.joined⟩

/-- A session that has ended without a failure of the log has settled. -/
theorem settled_of_accounts {s : Session} {limit : Nat} {past : List Happening}
    {ending : SessionEnd} (accounts : s.Accounts limit past)
    (replies : Session.RepliesIn past s.phase)
    (faultless : ∀ happening ∈ past, happening.succeeded) (ended : s.phase = .ended ending) :
    Settled limit past ending := by
  obtain ⟨rfl, made⟩ := accounts
  rw [ended] at made replies
  cases ending with
  | ok disconnect =>
      cases disconnect with
      | peerClosed => exact (Assembler.Framed.admitted_eq made).symm
      | closed =>
          rw [Session.AccountsIn] at made
          obtain reading | ⟨before, left, rfl, underWay⟩ := replies
          · rw [reading] at made
            exact .inl ⟨reading, (Assembler.Framed.admitted_eq made).symm⟩
          · rw [List.getLast?_concat] at made
            obtain ⟨rest, answering⟩ := made
            exact .inr (cutShort_of_underWay underWay rfl answering)
  | error error =>
      cases error with
      | recv e => exact (Assembler.Framed.admitted_eq made).symm
      | packet e => exact made.1.symm
      | send e =>
          obtain ⟨before, left, rfl, underWay, _⟩ := replies
          obtain ⟨rest, answering⟩ := made
          exact cutShort_of_underWay underWay rfl answering
      | log e =>
          obtain ⟨earlier, e, split⟩ := replies
          have failed := faultless (.snapshotTaken (.error e)) (by rw [split]; simp)
          exact absurd failed Bool.false_ne_true

end Conversation

namespace SharedLog

/-- **The log side of a session.** Sessions follow each other on one log, every operation on it
succeeds, and nothing else takes the file away. Then at every moment of a session the log holds what
it held in the beginning, the packets of the sessions before, and those that this session has
appended so far, which come first among the packets that what it has received is cut into. They are
within the limit and in front of every longer segment. The session ends, and its ending tells how
many they are: all in front of the first segment that is too long, or those up to the one it was
answering. -/
theorem sessions_add_admitted_packets (log : SharedLog) (s : Storage) (contents : Bytes)
    (visits : List Visit) (holds : log.Holds s contents) (calm : s.Undisturbed)
    (faultless : ∀ c ∈ log.serve s visits, ∀ happening ∈ c.happenings, happening.succeeded) :
    log.Holds (log.afterServing s visits)
        (contents ++ (packetsOf (log.serve s visits)).flatten) ∧
      ∀ earlier visit later, visits = earlier ++ visit :: later →
        let c := visit.start log (log.afterServing s earlier)
        (∀ past d, c.Reaches past d →
          log.Holds d.storage (contents ++ (packetsOf (log.serve s earlier)).flatten ++
            (Happening.packets past).flatten) ∧
          Happening.packets past <+: admitted visit.limit (Happening.input past) ∧
          Happening.packets past <+: (cut (Happening.input past)).1) ∧
        c.Reaches c.happenings c.run ∧
        ∃ ending, c.run.session.phase = .ended ending ∧
          Conversation.Settled visit.limit c.happenings ending := by
  refine ⟨(holds.serve calm faultless).1, ?_⟩
  intro earlier visit later split c
  rw [split, serve_append] at faultless
  obtain ⟨before, calmBefore⟩ :=
    holds.serve calm fun d member => faultless d (List.mem_append_left _ member)
  have clean := faultless c (List.mem_append_right _ List.mem_cons_self)
  obtain ⟨whole, ending, ended⟩ := c.reaches_run
  have accounts : ∀ {past d}, c.Reaches past d → d.session.Accounts visit.limit past :=
    fun reached => reached.keeps (Session.accounts_new _ _ _) Session.Takes.accounts
  refine ⟨?_, whole, ending, ended, ?_⟩
  · intro past d reached
    have sofar : ∀ happening ∈ past, happening.succeeded := by
      intro happening member
      exact clean happening (reached.happenings_eq ▸ List.mem_append_left _ member)
    have prefixed := (accounts reached).packets_isPrefix
    exact ⟨(reached.holds before calmBefore sofar).1, prefixed,
      prefixed.trans (admitted_isPrefix_cut _ _)⟩
  · have replies : Session.RepliesIn c.happenings c.run.session.phase :=
      whole.keeps (P := fun past s => Session.RepliesIn past s.phase) trivial
        Session.Takes.replies
    exact Conversation.settled_of_accounts (accounts whole) replies clean ended

/-- One visitor sends two packets and too long a third; the next one sends two and closes during the
reply to the first. -/
theorem two_visits_add_three_packets :
    let log : SharedLog := ⟨[47, 108]⟩
    let visits : List Visit :=
      [⟨1, 3, 16, ⟨[.data [97, 10, 98, 98, 10], .notReady, .data [99, 99, 99, 99]], []⟩⟩,
        ⟨8, 8, 2, ⟨[.data [100, 10, 101, 10]], [.upTo 1, .close]⟩⟩]
    log.Holds (log.afterServing (.ofTree ⟨[([[108]], .file [120, 10])]⟩ []) visits)
      [120, 10, 97, 10, 98, 98, 10, 100, 10] := by
  intro log visits
  have clean : ((log.serve (.ofTree ⟨[([[108]], .file [120, 10])]⟩ []) visits).all
      fun c => c.happenings.all (·.succeeded)) = true := by cbv
  have packets : packetsOf (log.serve (.ofTree ⟨[([[108]], .file [120, 10])]⟩ []) visits) =
      [[97, 10], [98, 98, 10], [100, 10]] := by cbv
  have served := sessions_add_admitted_packets log (.ofTree ⟨[([[108]], .file [120, 10])]⟩ [])
    [120, 10] visits (by cbv) (fun _ member => absurd member List.not_mem_nil)
    (by simpa using clean)
  rw [packets] at served
  exact served.1

end SharedLog

end PacketLog
