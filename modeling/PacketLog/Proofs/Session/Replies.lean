import PacketLog.Proofs.Session.Happenings

/-! # What a session replies

Only a packet that was appended is answered, and with the snapshot taken next (`Session.RepliesIn`).
As long as the reply is under way, all that happens is that the peer accepts parts of it, so that
these and what is left make up the snapshot (`Session.Takes.replies`). An attempt to send that fails
ends the session, as does a close: nothing more of the reply is sent.
-/

namespace PacketLog

namespace Happening

/-- The bytes the peer accepted. -/
def output (past : List Happening) : Bytes :=
  past.flatMap fun
    | .sent bytes => bytes
    | _ => []

/-- The output of two rows of happenings comes one after another. -/
theorem output_append (past later : List Happening) :
    output (past ++ later) = output past ++ output later :=
  List.flatMap_append

/-- What sends nothing adds nothing to the bytes accepted. -/
theorem output_concat (past : List Happening) {happening : Happening}
    (nothing : output [happening] = []) : output (past ++ [happening]) = output past := by
  rw [output_append, nothing, List.append_nil]

/-- What the peer takes is output, up to what is left. -/
theorem output_taking (left : Bytes) (count : Nat) :
    output [.taking left count] = left.take count := by
  unfold taking
  split
  · rename_i stalled
    rw [stalled.1]
    rfl
  · exact List.append_nil _

/-- A past that ends with the reply to a packet: its append, the snapshot that answers it, and the
parts that the peer has accepted since. -/
def Answers (past : List Happening) (packet reply : Bytes) (parts : List Bytes) : Prop :=
  ∃ earlier, past =
    earlier ++ .appended packet (.ok ()) :: .snapshotTaken (.ok reply) :: parts.map .sent

/-- A reply is under way: the parts that were accepted and what is `left` make it up. -/
def UnderWay (past : List Happening) (left : Bytes) : Prop :=
  ∃ packet reply parts, Answers past packet reply parts ∧ parts.flatten ++ left = reply

variable {past : List Happening} {packet reply : Bytes} {parts : List Bytes}

private theorem Answers.sent (answers : Answers past packet reply parts) (part : Bytes) :
    Answers (past ++ [.sent part]) packet reply (parts ++ [part]) := by
  obtain ⟨earlier, rfl⟩ := answers
  exact ⟨earlier, by simp⟩

/-- The packet that is answered is the last one. -/
theorem Answers.packets_eq (answers : Answers past packet reply parts) :
    ∃ earlier, packets past = earlier ++ [packet] := by
  obtain ⟨earlier, rfl⟩ := answers
  have none : packets (parts.map .sent) = [] := by
    rw [packets, List.filterMap_map]
    exact List.filterMap_eq_nil_iff.mpr fun _ _ => rfl
  refine ⟨packets earlier, ?_⟩
  rw [packets_append]
  exact congrArg (fun later => packets earlier ++ packet :: later) none

end Happening

namespace Session

/-- **What a session replies.** A reply under way is the snapshot taken right after the append of
the packet it answers. A session that ends because of its reply breaks it off: sending failed with
some of it left, or the session was closed. -/
def RepliesIn (past : List Happening) : Phase → Prop
  | .snapshotting _ => ∃ earlier packet, past = earlier ++ [.appended packet (.ok ())]
  | .replying left _ => Happening.UnderWay past left
  | .ended (.error (.send e)) => ∃ earlier left,
      past = earlier ++ [.sendFailed e] ∧ Happening.UnderWay earlier left ∧ left ≠ []
  | .ended (.ok .closed) => past.getLast? = some .closed ∨
      ∃ earlier left, past = earlier ++ [.unanswered] ∧ Happening.UnderWay earlier left
  | .ended (.error (.log _)) => ∃ earlier e, past = earlier ++ [.snapshotTaken (.error e)]
  | _ => True

private theorem repliesIn_digest (s : Session) (input : Bytes) (past : List Happening) :
    RepliesIn past (s.digest input).phase := by
  unfold digest
  split
  · trivial
  · split <;> trivial

variable {s next : Session} {happening : Happening} {past : List Happening}

/-- **Every happening keeps track of the reply.** -/
theorem Takes.replies (taken : Takes s happening next) (current : RepliesIn past s.phase) :
    RepliesIn (past ++ [happening]) next.phase := by
  cases taken with
  | @received bytes reading =>
      unfold Session.received
      split
      · trivial
      · exact repliesIn_digest s bytes _
  | receiveFailed reading =>
      unfold Session.receiveFailed
      split
      · rw [reading]
        trivial
      · trivial
  | closed reading => exact .inl List.getLast?_concat
  | @appended packet rest result appending =>
      cases result with
      | ok _ => exact ⟨past, packet, rfl⟩
      | error e => exact repliesIn_digest s rest _
  | @snapshotTaken rest result snapshotting =>
      rw [snapshotting] at current
      obtain ⟨earlier, packet, rfl⟩ := current
      cases result with
      | ok reply => exact ⟨packet, reply, [], ⟨earlier, by simp⟩, rfl⟩
      | error e => exact ⟨_, _, rfl⟩
  | @sent bytes left rest count replying within some accepted =>
      rw [replying] at current
      obtain ⟨packet, reply, parts, answers, whole⟩ := current
      unfold Session.sent
      split
      · exact repliesIn_digest s rest _
      · rename_i unfinished
        split
        · rename_i none
          rw [some none] at unfinished
          exact absurd List.drop_nil unfinished
        · refine ⟨packet, reply, parts ++ [bytes], answers.sent bytes, ?_⟩
          rw [accepted, List.flatten_append, List.flatten_singleton, List.append_assoc,
            List.take_append_drop, whole]
  | @sendFailed error left rest replying unsent =>
      rw [replying] at current
      exact ⟨past, left, rfl, current, unsent⟩
  | @unanswered left rest replying =>
      rw [replying] at current
      exact .inr ⟨past, left, rfl, current⟩

end Session

end PacketLog
