import Mathlib.Data.List.TakeDrop
import PacketLog.Proofs.Framing.Rounds
import PacketLog.Proofs.Session.Happenings
import PacketLog.Session.Conversation

/-! # Working off a read

A session feeds what a read delivered in rounds, and between two rounds it appends a packet and
answers it. What it feeds when something happens is told by `Session.feeds`. Whatever the log and
the peer answer in between, the calls made so far are the first of those that feeding the read in
one go makes, and the rest of the read is what they have left (`Session.Takes.progress`). There is
less to do after each happening, so that no read is worked off forever (`Session.movesOn_wf`).
-/

namespace PacketLog

/-- What is still to be framed of the last read. -/
def Phase.rest : Phase → Bytes
  | .appending _ rest | .snapshotting rest | .replying _ rest => rest
  | .reading | .ended _ => []

/-- The packet whose append is to be tried next. -/
def Phase.inHand : Phase → Option Bytes
  | .appending packet _ => some packet
  | _ => none

/-- What is left to send of a reply. -/
def Phase.unsent : Phase → Bytes
  | .replying left _ => left
  | _ => []

/-- What a session still has to do: the work that is left of the read and, if that stays the same,
the bytes of the reply on its way. -/
def Phase.toDo (phase : Phase) : Nat × Nat :=
  (Conversation.phaseWork phase, phase.unsent.length)

namespace Session

open Assembler (Call)

/-- The call that framing some bytes makes, if there are any. -/
def callOn (s : Session) (input : Bytes) : List Call :=
  if input = [] then [] else [⟨(s.assembler.feed input).1, (s.assembler.feed input).2⟩]

/-- The calls of `Assembler.feed` that a session makes when something happens to it. It frames what
a read delivered, and goes on with the rest of it when the append of a packet failed or its reply is
through. -/
def feeds (s : Session) : Happening → List Call
  | .received bytes => s.callOn bytes
  | .appended _ (.error _) => s.callOn s.phase.rest
  | .sent bytes => if bytes = s.phase.unsent then s.callOn s.phase.rest else []
  | _ => []

/-- A session works off a read: what has happened to it since, the read included, and the calls it
has made, up to some moment before the next read. Whatever it is ready for may happen to it. -/
inductive WorksOff (start : Session) (bytes : Bytes) :
    List Happening → List Call → Session → Prop
  | read (reading : start.phase = .reading) :
      WorksOff start bytes [.received bytes] (start.feeds (.received bytes)) (start.received bytes)
  | goesOn {past : List Happening} {made : List Call} {s next : Session} {happening : Happening}
      (before : WorksOff start bytes past made s) (busy : s.phase ≠ .reading)
      (taken : Takes s happening next) :
      WorksOff start bytes (past ++ [happening]) (made ++ s.feeds happening) next

/-- **How far a session is with a read.** The calls it made are rounds that lead from the assembler
it had before the read to the one it has `now`, and leave what is still to be framed; the packets
they made are those whose append was tried, and the one in hand. A session that rejected a packet
has made one more call, which failed. Any other end may come with something left. -/
def ProgressIn (a : Assembler) (bytes : Bytes) (past : List Happening) (made : List Call)
    (now : Assembler) : Phase → Prop
  | .ended (.error (.packet e)) => ∃ rounds b left, a.Rounds bytes rounds b left ∧ left ≠ [] ∧
      b.feed left = (⟨.error e, left⟩, now) ∧ made = rounds ++ [⟨⟨.error e, left⟩, now⟩] ∧
      Happening.packets past = Call.packets rounds
  | .ended _ => (∃ left, a.Rounds bytes made now left) ∧
      Happening.packets past = Call.packets made
  | phase => a.Rounds bytes made now phase.rest ∧
      Happening.packets past ++ phase.inHand.toList = Call.packets made

variable {s next : Session} {happening : Happening}

private theorem feeds_sent {left rest : Bytes} {count : Nat}
    (replying : s.phase = .replying left rest) :
    s.feeds (.sent (left.take count)) = if left.drop count = [] then s.callOn rest else [] := by
  have unfolded : s.feeds (.sent (left.take count)) =
      if left.take count = left then s.callOn rest else [] := by
    rw [feeds, replying]
    rfl
  rw [unfolded]
  exact if_congr (by rw [List.take_eq_self_iff, List.drop_eq_nil_iff]) rfl rfl

section Progress

variable {a : Assembler} {bytes : Bytes} {past : List Happening} {made : List Call}

/-- The next round. -/
theorem progress_digest {input : Bytes} (rounds : a.Rounds bytes made s.assembler input)
    (tried : Happening.packets past = Call.packets made) :
    ProgressIn a bytes past (made ++ s.callOn input) (s.digest input).assembler
      (s.digest input).phase := by
  unfold digest callOn
  by_cases nothing : input = []
  · rw [if_pos nothing, if_pos nothing, List.append_nil]
    rw [nothing] at rounds
    exact ⟨rounds, by rw [← tried]; exact List.append_nil _⟩
  · rw [if_neg nothing, if_neg nothing]
    split
    · rename_i packet rest now fed
      rw [fed]
      refine ⟨.onward rounds nothing fed, ?_⟩
      rw [Assembler.Call.packets_concat, ← tried]
      rfl
    · -- A call that completes no packet leaves nothing, so that no byte is passed over by waiting.
      rename_i rest now fed
      rw [fed]
      have finished := Assembler.rest_of_feed fed
      subst finished
      refine ⟨.onward rounds nothing fed, ?_⟩
      rw [Assembler.Call.packets_concat, ← tried]
      rfl
    · rename_i e left now fed
      have same := Assembler.feed_rejected (congrArg (·.1.result) fed)
      rw [fed, Prod.mk.injEq, Answer.mk.injEq] at same
      rw [fed]
      obtain ⟨⟨_, rfl⟩, _⟩ := same
      exact ⟨made, s.assembler, left, rounds, nothing, fed, rfl, tried⟩

/-- What happens to a session on its way to the next read: it has rounds behind it, and tries the
append of a packet only if it has one in hand. -/
theorem Takes.rounds (taken : Takes s happening next) (busy : s.phase ≠ .reading)
    (progress : ProgressIn a bytes past made s.assembler s.phase) :
    a.Rounds bytes made s.assembler s.phase.rest ∧
      Happening.packets (past ++ [happening]) = Call.packets made := by
  have tries (inHand : Happening.packets [happening] = s.phase.inHand.toList) :
      Happening.packets (past ++ [happening]) =
        Happening.packets past ++ s.phase.inHand.toList := by
    rw [Happening.packets_append, inHand]
  cases taken with
  | received reading | receiveFailed reading | closed reading => exact absurd reading busy
  | appended phase | snapshotTaken phase | sent phase | sendFailed phase | unanswered phase =>
      rw [phase] at progress tries ⊢
      exact ⟨progress.1, (tries rfl).trans progress.2⟩

/-- **Every happening keeps the rounds in a row**, until the next read. -/
theorem Takes.progress (taken : Takes s happening next) (busy : s.phase ≠ .reading)
    (progress : ProgressIn a bytes past made s.assembler s.phase) :
    ProgressIn a bytes (past ++ [happening]) (made ++ s.feeds happening) next.assembler
      next.phase := by
  obtain ⟨rounds, tried⟩ := taken.rounds busy progress
  have noneInHand := (List.append_nil _).trans tried
  have noCall (nothing : s.feeds happening = []) : made ++ s.feeds happening = made := by
    rw [nothing, List.append_nil]
  cases taken with
  | received reading | receiveFailed reading | closed reading => exact absurd reading busy
  | @appended packet rest result appending =>
      rw [appending] at rounds
      cases result with
      | ok _ =>
          rw [noCall rfl]
          exact ⟨rounds, noneInHand⟩
      | error e =>
          rw [feeds, appending]
          exact progress_digest rounds tried
  | @snapshotTaken rest result snapshotting =>
      rw [snapshotting] at rounds
      rw [noCall rfl]
      cases result with
      | ok reply => exact ⟨rounds, noneInHand⟩
      | error e => exact ⟨⟨_, rounds⟩, tried⟩
  | @sent bytes left rest count replying within some accepted =>
      rw [replying] at rounds
      subst accepted
      rw [feeds_sent replying]
      unfold Session.sent
      split
      · exact progress_digest rounds tried
      · rw [List.append_nil]
        split
        · exact ⟨⟨_, rounds⟩, tried⟩
        · exact ⟨rounds, noneInHand⟩
  | sendFailed replying unsent =>
      rw [noCall rfl]
      exact ⟨⟨_, rounds⟩, tried⟩
  | unanswered replying =>
      rw [noCall rfl]
      exact ⟨⟨_, rounds⟩, tried⟩

/-- **Working off a read** is feeding it in rounds. -/
theorem WorksOff.progress {start : Session} (works : WorksOff start bytes past made s) :
    ProgressIn start.assembler bytes past made s.assembler s.phase := by
  induction works with
  | read reading =>
      unfold Session.received
      by_cases nothing : bytes = []
      · rw [if_pos nothing, feeds, callOn, if_pos nothing]
        exact ⟨⟨bytes, .none⟩, rfl⟩
      · rw [if_neg nothing]
        have noRound : start.assembler.Rounds bytes [] start.assembler bytes := .none
        exact progress_digest noRound rfl
  | goesOn _ busy taken ih => exact taken.progress busy ih

/-- The calls made are the first of those that feeding the read in one go makes, and all of them
once the session waits for the next read. -/
theorem ProgressIn.calls_eq {now : Assembler} {phase : Phase}
    (progress : ProgressIn a bytes past made now phase) :
    made <+: a.calls bytes ∧ (phase = .reading → a.calls bytes = made) := by
  have first {left : Bytes} (rounds : a.Rounds bytes made now left) : made <+: a.calls bytes :=
    ⟨_, rounds.calls_eq.symm⟩
  cases phase with
  | reading => exact ⟨first progress.1, fun _ => progress.1.calls_of_nothing_left rfl⟩
  | appending packet rest => exact ⟨first progress.1, nofun⟩
  | snapshotting rest => exact ⟨first progress.1, nofun⟩
  | replying left rest => exact ⟨first progress.1, nofun⟩
  | ended ending =>
      refine ⟨?_, nofun⟩
      cases ending with
      | ok disconnect => exact progress.1.elim fun _ => first
      | error error =>
          cases error with
          | packet e =>
              obtain ⟨rounds, b, left, inRow, more, fed, rfl, _⟩ := progress
              exact ⟨[], by rw [List.append_nil, inRow.calls_of_rejected more fed]⟩
          | recv e | send e | log e => exact progress.1.elim fun _ => first

end Progress

/-! ## No read is worked off forever -/

/-- A session moves on that works off a read: anything happens to it that it is ready for. -/
def MovesOn (next s : Session) : Prop :=
  s.phase ≠ .reading ∧ ∃ happening, Takes s happening next

private theorem toDo_digest_lt {input : Bytes} {phase : Phase}
    (more : 5 * input.length + 1 < Conversation.phaseWork phase) :
    Prod.Lex (· < ·) (· < ·) (s.digest input).phase.toDo phase.toDo :=
  .left _ _ ((Conversation.phaseWork_digest_le s input).trans_lt more)

/-- Whatever happens, there is less to do. -/
theorem Takes.toDo_lt (taken : Takes s happening next) (busy : s.phase ≠ .reading) :
    Prod.Lex (· < ·) (· < ·) next.phase.toDo s.phase.toDo := by
  cases taken with
  | received reading | receiveFailed reading | closed reading => exact absurd reading busy
  | @appended packet rest result appending =>
      rw [appending]
      cases result with
      | ok _ => exact .left _ _ (Nat.lt_succ_self _)
      | error e => exact toDo_digest_lt (Nat.add_lt_add_left (by decide) _)
  | @snapshotTaken rest result snapshotting =>
      rw [snapshotting]
      cases result with
      | ok reply => exact .left _ _ (Nat.lt_succ_self _)
      | error e => exact .left _ _ (Nat.succ_pos _)
  | @sent bytes left rest count replying within some accepted =>
      rw [replying]
      unfold Session.sent
      split
      · exact toDo_digest_lt (Nat.add_lt_add_left (by decide) _)
      · split
        · exact .left _ _ (Nat.succ_pos _)
        · have fewer : (left.drop count).length < left.length := by
            rw [List.length_drop]
            omega
          exact .right _ fewer
  | @sendFailed error left rest replying unsent =>
      rw [replying]
      exact .left _ _ (Nat.succ_pos _)
  | @unanswered left rest replying =>
      rw [replying]
      exact .left _ _ (Nat.succ_pos _)

/-- **No read is worked off forever.** -/
theorem movesOn_wf : WellFounded MovesOn := by
  refine Subrelation.wf ?_ (invImage (·.phase.toDo) (Prod.lex Nat.lt_wfRel Nat.lt_wfRel)).wf
  rintro next s ⟨busy, happening, taken⟩
  exact taken.toDo_lt busy

/-- **Every read is worked off round by round.** Feed any bytes to any assembler until nothing is
left or a call fails. Then the calls are as many as the bytes have newlines, and one more exactly if
bytes follow the last newline, unless a call fails before that many have succeeded, because the
bytes held and the first segment of what is left exceed the limit together. Each call that succeeds
on some bytes leaves fewer, and exactly those after their first newline. After any number of rounds
the packets made, the bytes held and what is left are the bytes held at first and the bytes to feed,
so that no byte is fed twice or passed over.

A session that works off these bytes as a read makes the same calls, whatever happens in between: it
goes on with what the last call left when an append has failed just as when a packet was answered,
and waits for the next read when a call completed no packet, with nothing left. The packets whose
append was tried, and the one in hand, are those that the calls completed. Once it waits for the
next read it has made all the calls; and it does not go on forever before it waits or ends, whatever
happens to it. -/
theorem reads_are_worked_off_in_rounds (start : Session) (bytes : Bytes) :
    let a := start.assembler
    let total := bytes.count newline + if (cut bytes).2 = [] then 0 else 1
    (∃ made b left, a.Rounds bytes made b left ∧
      (left = [] ∧ a.calls bytes = made ∧ made.length = total ∨
        ∃ segment e next, left ≠ [] ∧ Assembler.FirstSegment left segment ∧
          a.limit < b.pending.length + segment.length ∧ b.feed left = (⟨.error e, left⟩, next) ∧
          a.calls bytes = made ++ [⟨⟨.error e, left⟩, next⟩] ∧ made.length < total)) ∧
    (∀ made b left, a.Rounds bytes made b left →
      a.pending ++ bytes = (Call.packets made).flatten ++ b.pending ++ left ∧
      ∀ completed rest next, left ≠ [] → b.feed left = (⟨.ok completed, rest⟩, next) →
        rest = afterNewline left ∧ rest.length < left.length) ∧
    (∀ past made s, WorksOff start bytes past made s →
      ProgressIn a bytes past made s.assembler s.phase ∧ made <+: a.calls bytes ∧
      (s.phase = .reading → a.calls bytes = made)) ∧
    Acc MovesOn (start.received bytes) := by
  intro a total
  refine ⟨?_, ?_, ?_, movesOn_wf.apply _⟩
  · obtain ⟨made, b, left, rounds, ends⟩ := a.exists_rounds bytes
    refine ⟨made, b, left, rounds, ?_⟩
    obtain nothing | ⟨more, e, rejected⟩ := ends
    · exact .inl ⟨nothing, rounds.calls_of_nothing_left nothing,
        rounds.length_of_nothing_left nothing⟩
    · obtain ⟨segment, first, rejects⟩ := b.feed_error_iff left
      obtain ⟨long, _⟩ := (rejects e).mp rejected
      rw [rounds.limit_eq] at long
      have fed := Assembler.feed_rejected rejected
      exact .inr ⟨segment, e, b.clear, more, first, long, fed, rounds.calls_of_rejected more fed,
        rounds.length_lt more⟩
  · intro made b left rounds
    refine ⟨rounds.joined, fun completed rest next more fed => ?_⟩
    refine ⟨Assembler.rest_of_feed_ok fed, ?_⟩
    exact Assembler.feed_rest_length_lt fed more
  · intro past made s works
    exact ⟨works.progress, works.progress.calls_eq⟩

/-- Three packets and a part of a fourth in one read, with a byte held from the read before. The
disk is full for the first packet and for the third; the second is answered in two parts. -/
theorem two_packets_dropped_from_one_read :
    let start : Session := ⟨⟨[120], 8, 8⟩, 16, .reading⟩
    let bytes : Bytes := [97, 10, 98, 10, 10, 99]
    let full : LogError := .write [108] (.os Errno.noSpace)
    ∃ made s, WorksOff start bytes
        [.received bytes, .appended [120, 97, 10] (.error full), .appended [98, 10] (.ok ()),
          .snapshotTaken (.ok [98, 10]), .sent [98], .sent [10], .appended [10] (.error full)]
        made s ∧
      s.phase = .reading ∧ s.assembler.pending = [99] ∧ start.assembler.calls bytes = made ∧
      made.length = 4 := by
  intro start bytes full
  have works := @WorksOff.read start bytes rfl
  have works := works.goesOn nofun (@Takes.appended _ _ _ (.error full) rfl)
  have works := works.goesOn nofun (@Takes.appended _ _ _ (.ok ()) rfl)
  have works := works.goesOn nofun (@Takes.snapshotTaken _ _ (.ok [98, 10]) rfl)
  have works := works.goesOn nofun (@Takes.sent _ _ _ _ 1 rfl (by decide) nofun rfl)
  have works := works.goesOn nofun (@Takes.sent _ _ _ _ 1 rfl (by decide) nofun rfl)
  have works := works.goesOn nofun (@Takes.appended _ _ _ (.error full) rfl)
  have read := (reads_are_worked_off_in_rounds start bytes).2.2.1 _ _ _ works
  exact ⟨_, _, works, rfl, rfl, read.2.2 rfl, rfl⟩

end Session

end PacketLog
