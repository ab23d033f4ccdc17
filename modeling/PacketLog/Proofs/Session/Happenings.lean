import PacketLog.Proofs.Framing.Delivery
import PacketLog.Proofs.Storage.Appending
import PacketLog.Session.Session

/-! # What happens to a session

A session moves when something happens to it. `Session.Takes` tells which happenings it is ready for
in its phase and where they move it, whoever makes them happen: a scripted peer or a service with
many sessions. What a session has made of the bytes it received is an account of its happenings
(`Session.Accounts`) which every one of them keeps up (`Session.Takes.accounts`). It does not depend
on whether the log accepted the packets.
-/

namespace PacketLog

/-- Something that happens to a session. `sendFailed` is also what happens when the peer accepts
none of the bytes that are left of a reply. A connection that is closed from this side during a
reply leaves it `unanswered`. -/
inductive Happening
  | received (bytes : Bytes)
  | receiveFailed (error : IoError)
  | closed
  | appended (packet : Bytes) (result : Except LogError Unit)
  | snapshotTaken (result : Except LogError Bytes)
  | sent (bytes : Bytes)
  | sendFailed (error : IoError)
  | unanswered

namespace Happening

/-- The bytes received. -/
def input (past : List Happening) : Bytes :=
  past.flatMap fun
    | .received bytes => bytes
    | _ => []

/-- What happens when the peer accepts so many bytes of what is left of a reply. -/
def taking (left : Bytes) (count : Nat) : Happening :=
  if count = 0 ∧ left ≠ [] then .sendFailed (.bare .writeZero) else .sent (left.take count)

/-- The packet whose append was tried. -/
def packet? : Happening → Option Bytes
  | .appended packet _ => some packet
  | _ => none

/-- The packets whose append was tried, in order. -/
def packets (past : List Happening) : List Bytes := past.filterMap packet?

/-- The operation on the log succeeded, if it was one. -/
def succeeded : Happening → Bool
  | .appended _ result => result.isOk
  | .snapshotTaken result => result.isOk
  | _ => true

/-- What becomes of the storage the log is kept on. -/
def Touches (log : SharedLog) (s next : Storage) : Happening → Prop
  | .appended packet result => log.appendAsync packet s = (result, next)
  | .snapshotTaken result => log.snapshot s = result ∧ next = s
  | _ => next = s

/-- What the peer accepts does not touch the log. -/
theorem touches_taking (left : Bytes) (count : Nat) (log : SharedLog) (s : Storage) :
    (taking left count).Touches log s s := by
  unfold taking
  split <;> rfl

private theorem input_append (past later : List Happening) :
    input (past ++ later) = input past ++ input later :=
  List.flatMap_append

/-- The packets of two rows of happenings come one after another. -/
theorem packets_append (past later : List Happening) :
    packets (past ++ later) = packets past ++ packets later :=
  List.filterMap_append

/-- **What a successful operation does to the log.** It adds the packet that is appended, if there
is one, and nothing else. -/
theorem Touches.holds {happening : Happening} {log : SharedLog} {s next : Storage}
    {contents : Bytes} (touches : happening.Touches log s next) (succeeded : happening.succeeded)
    (holds : log.Holds s contents) (calm : s.Undisturbed) :
    log.Holds next (contents ++ (packets [happening]).flatten) ∧ next.Undisturbed := by
  cases happening with
  | appended packet result =>
      have added : (packets [.appended packet result]).flatten = packet := List.append_nil packet
      rw [added]
      cases result with
      | ok _ => exact holds.appendAsync_ok calm touches
      | error e => exact nomatch succeeded
  | snapshotTaken result =>
      obtain rfl : next = s := touches.2
      exact ⟨holds.append_nil, calm⟩
  | _ =>
      obtain rfl : next = s := touches
      exact ⟨holds.append_nil, calm⟩

end Happening

namespace Session

/-- A session is ready for something that happens, and moves. -/
inductive Takes : Session → Happening → Session → Prop
  | received {s : Session} {bytes : Bytes} (reading : s.phase = .reading) :
      Takes s (.received bytes) (s.received bytes)
  | receiveFailed {s : Session} {error : IoError} (reading : s.phase = .reading) :
      Takes s (.receiveFailed error) (s.receiveFailed error)
  | closed {s : Session} (reading : s.phase = .reading) : Takes s .closed s.closed
  | appended {s : Session} {packet rest : Bytes} {result : Except LogError Unit}
      (appending : s.phase = .appending packet rest) :
      Takes s (.appended packet result) (s.appended rest result)
  | snapshotTaken {s : Session} {rest : Bytes} {result : Except LogError Bytes}
      (snapshotting : s.phase = .snapshotting rest) :
      Takes s (.snapshotTaken result) (s.snapshotTaken rest result)
  | sent {s : Session} {bytes left rest : Bytes} {count : Nat}
      (replying : s.phase = .replying left rest) (within : count ≤ left.length)
      (some : count = 0 → left = []) (accepted : bytes = left.take count) :
      Takes s (.sent bytes) (s.sent left rest count)
  | sendFailed {s : Session} {error : IoError} {left rest : Bytes}
      (replying : s.phase = .replying left rest) (unsent : left ≠ []) :
      Takes s (.sendFailed error) (s.sendFailed error)
  | unanswered {s : Session} {left rest : Bytes} (replying : s.phase = .replying left rest) :
      Takes s .unanswered s.closed

/-- Whatever number of bytes the peer accepts, a session is ready for it. -/
theorem Takes.taking {s : Session} {left rest : Bytes} {count : Nat}
    (replying : s.phase = .replying left rest) (within : count ≤ left.length) :
    Takes s (.taking left count) (s.sent left rest count) := by
  unfold Happening.taking
  split
  · rename_i stalled
    obtain ⟨rfl, unsent⟩ := stalled
    rw [Session.sent, List.drop_zero, if_neg unsent, if_pos rfl]
    exact .sendFailed replying unsent
  · rename_i accepted
    refine .sent replying within ?_ rfl
    exact fun none => by_contra fun unsent => accepted ⟨none, unsent⟩

/-- Nothing happens any more to a session that has ended. -/
theorem Takes.not_ended {s next : Session} {happening : Happening} (taken : Takes s happening next)
    (ending : SessionEnd) : s.phase ≠ .ended ending := by
  intro ended
  cases taken with
  | received phase | receiveFailed phase | closed phase => cases ended.symm.trans phase
  | appended phase | snapshotTaken phase => cases ended.symm.trans phase
  | sent phase | sendFailed phase | unanswered phase => cases ended.symm.trans phase

/-- A session that is about to answer, or answers, the last of its packets: an assembler has made
them of the input up to `rest`, and holds nothing. -/
structure Answering (a : Assembler) (input : Bytes) (packets : List Bytes) (rest : Bytes) :
    Prop where
  started : packets ≠ []
  framed : a.Framed packets.flatten packets
  joined : packets.flatten ++ rest = input

/-- What the assembler of a session in some phase has made of its past. -/
def AccountsIn (a : Assembler) (past : List Happening) : Phase → Prop
  | .reading | .ended (.ok .peerClosed) | .ended (.error (.recv _)) =>
      a.Framed (Happening.input past) (Happening.packets past)
  | .appending packet rest =>
      Answering a (Happening.input past) (Happening.packets past ++ [packet]) rest
  | .snapshotting rest | .replying _ rest =>
      Answering a (Happening.input past) (Happening.packets past) rest
  | .ended (.error (.packet e)) =>
      admitted a.limit (Happening.input past) = Happening.packets past ∧
        ∃ segment, oversize? a.limit (Happening.input past) = some segment ∧
          e = ⟨segment.length, a.limit⟩
  | .ended (.ok .closed) =>
      match past.getLast? with
      | some .closed => a.Framed (Happening.input past) (Happening.packets past)
      | _ => ∃ rest, Answering a (Happening.input past) (Happening.packets past) rest
  | .ended (.error (.send _)) | .ended (.error (.log _)) =>
      ∃ rest, Answering a (Happening.input past) (Happening.packets past) rest

/-- **What a session has made of its past.** While it waits for a read, an assembler has made its
packets of the bytes received. While it works a packet off, the rest of the last read is still to be
framed. A packet that is too long ends it with all the packets in front made, and a failure to
answer a packet with that packet as the last. -/
structure Accounts (limit : Nat) (past : List Happening) (s : Session) : Prop where
  limit_eq : s.assembler.limit = limit
  made : AccountsIn s.assembler past s.phase

/-- A new session accounts for no happenings. -/
theorem accounts_new (initial limit readSize : Nat) :
    (new initial limit readSize).Accounts limit [] :=
  ⟨rfl, Assembler.framed_new initial limit⟩

/-- A packet in hand is not empty. -/
theorem Accounts.inHand_ne_nil {s : Session} {limit : Nat} {past : List Happening}
    {packet rest : Bytes} (accounts : s.Accounts limit past)
    (appending : s.phase = .appending packet rest) : packet ≠ [] := by
  have made := accounts.made
  rw [appending] at made
  have answering : Answering s.assembler _ (Happening.packets past ++ [packet]) rest := made
  exact (answering.framed.admissible packet List.mem_concat_self).whole.ne_nil

/-- Framing the rest of a read on accounts for it. -/
theorem accounts_digest {s : Session} {past : List Happening} {taken input : Bytes}
    (framed : s.assembler.Framed taken (Happening.packets past))
    (whole : taken ++ input = Happening.input past) :
    (s.digest input).Accounts s.assembler.limit past := by
  unfold digest
  by_cases nothing : input = []
  · rw [if_pos nothing]
    subst nothing
    rw [List.append_nil] at whole
    rw [whole] at framed
    exact ⟨rfl, framed⟩
  · rw [if_neg nothing]
    split
    · rename_i packet rest next fed
      have empty := Assembler.pending_of_feed fed
      obtain ⟨consumed, split, same, made⟩ := framed.feed_ok fed
      have joined := made.joined
      rw [empty, List.append_nil] at joined
      refine ⟨same, List.append_ne_nil_of_right_ne_nil _ (List.cons_ne_nil _ _), ?_, ?_⟩
      · exact joined ▸ made
      · rw [← whole, split, ← List.append_assoc, ← joined]
        rfl
    · rename_i rest next fed
      have finished := Assembler.rest_of_feed fed
      obtain ⟨consumed, split, same, made⟩ := framed.feed_ok fed
      subst finished
      rw [List.append_nil] at split
      refine ⟨same, ?_⟩
      simp only [Option.toList_none, List.append_nil] at made
      rw [← split, whole] at made
      exact made
    · rename_i e next fed
      have limit : next.limit = s.assembler.limit := by
        rw [← Assembler.limit_of_feed s.assembler input, fed]
      obtain ⟨same, found⟩ := framed.feed_error fed
      rw [whole] at same found
      refine ⟨limit, ?_⟩
      rw [← limit] at same found
      exact ⟨same, found⟩

namespace Answering

variable {a : Assembler} {input rest : Bytes} {packets : List Bytes}
  (answering : Answering a input packets rest)
include answering

private theorem admitted_eq : admitted a.limit input = packets ++ admitted a.limit rest := by
  rw [← answering.joined]
  exact admitted_flatten_append answering.framed.admissible rest

end Answering

section Steps

variable {s next : Session} {happening : Happening} {limit : Nat} {past : List Happening}

-- Happenings without input and without a packet leave what has been made of a past as it is.

private theorem framed_concat {a : Assembler} (happening : Happening)
    (noInput : Happening.input [happening] = []) (noPacket : Happening.packets [happening] = [])
    (framed : a.Framed (Happening.input past) (Happening.packets past)) :
    a.Framed (Happening.input (past ++ [happening])) (Happening.packets (past ++ [happening])) := by
  rwa [Happening.input_append, Happening.packets_append, noInput, noPacket, List.append_nil,
    List.append_nil]

private theorem answering_concat {a : Assembler} {rest : Bytes} (happening : Happening)
    (noInput : Happening.input [happening] = []) (noPacket : Happening.packets [happening] = [])
    (answering : Answering a (Happening.input past) (Happening.packets past) rest) :
    Answering a (Happening.input (past ++ [happening])) (Happening.packets (past ++ [happening]))
      rest := by
  rwa [Happening.input_append, Happening.packets_append, noInput, noPacket, List.append_nil,
    List.append_nil]

/-- **Every happening keeps the account.** -/
theorem Takes.accounts (taken : Takes s happening next) (accounts : s.Accounts limit past) :
    next.Accounts limit (past ++ [happening]) := by
  obtain ⟨rfl, made⟩ := accounts
  cases taken with
  | @received bytes reading =>
      rw [reading] at made
      have framed : s.assembler.Framed _ _ := made
      have packets : Happening.packets (past ++ [.received bytes]) = Happening.packets past := by
        rw [Happening.packets_append]
        exact List.append_nil _
      have input : Happening.input past ++ bytes = Happening.input (past ++ [.received bytes]) := by
        rw [Happening.input_append]
        exact congrArg _ (List.append_nil bytes).symm
      rw [← packets] at framed
      unfold Session.received
      by_cases nothing : bytes = []
      · rw [if_pos nothing]
        rw [nothing, List.append_nil] at input
        rw [nothing, input] at framed
        exact ⟨rfl, nothing ▸ framed⟩
      · rw [if_neg nothing]
        exact accounts_digest framed input
  | @receiveFailed error reading =>
      rw [reading] at made
      have framed := framed_concat (.receiveFailed error) rfl rfl made
      unfold Session.receiveFailed
      split
      · exact ⟨rfl, reading ▸ framed⟩
      · exact ⟨rfl, framed⟩
  | closed reading =>
      rw [reading] at made
      refine ⟨rfl, ?_⟩
      change AccountsIn s.assembler _ (.ended (.ok .closed))
      rw [AccountsIn, List.getLast?_concat]
      exact framed_concat .closed rfl rfl made
  | @appended packet rest result appending =>
      rw [appending] at made
      have answering : Answering _ _ _ rest := made
      have packets : Happening.packets past ++ [packet] =
          Happening.packets (past ++ [.appended packet result]) := by
        rw [Happening.packets_append]
        rfl
      have input : Happening.input (past ++ [.appended packet result]) = Happening.input past := by
        rw [Happening.input_append]
        exact List.append_nil _
      rw [packets, ← input] at answering
      cases result with
      | ok _ => exact ⟨rfl, answering⟩
      | error e => exact accounts_digest answering.framed answering.joined
  | @snapshotTaken rest result snapshotting =>
      rw [snapshotting] at made
      have answering := answering_concat (.snapshotTaken result) rfl rfl made
      cases result with
      | ok reply => exact ⟨rfl, answering⟩
      | error e => exact ⟨rfl, _, answering⟩
  | @sent bytes left rest count replying within some accepted =>
      rw [replying] at made
      have answering := answering_concat (.sent bytes) rfl rfl made
      unfold Session.sent
      split
      · exact accounts_digest answering.framed answering.joined
      · split
        · exact ⟨rfl, _, answering⟩
        · exact ⟨rfl, answering⟩
  | @sendFailed error left rest replying unsent =>
      rw [replying] at made
      have answering := answering_concat (.sendFailed error) rfl rfl made
      exact ⟨rfl, _, answering⟩
  | unanswered replying =>
      rw [replying] at made
      refine ⟨rfl, ?_⟩
      change AccountsIn s.assembler _ (.ended (.ok .closed))
      rw [AccountsIn, List.getLast?_concat]
      exact ⟨_, answering_concat .unanswered rfl rfl made⟩

end Steps

/-- Whatever phase a session is in, its packets come first among those admitted. -/
theorem Accounts.packets_isPrefix {s : Session} {limit : Nat} {past : List Happening}
    (accounts : s.Accounts limit past) :
    Happening.packets past <+: admitted limit (Happening.input past) := by
  obtain ⟨rfl, made⟩ := accounts
  have answered : ∀ {rest}, Answering s.assembler (Happening.input past)
      (Happening.packets past) rest →
      Happening.packets past <+: admitted s.assembler.limit (Happening.input past) := by
    intro rest answering
    rw [answering.admitted_eq]
    exact List.prefix_append _ _
  have framed : s.assembler.Framed (Happening.input past) (Happening.packets past) →
      Happening.packets past <+: admitted s.assembler.limit (Happening.input past) := by
    intro framed
    exact ⟨[], by rw [List.append_nil, framed.admitted_eq]⟩
  generalize s.phase = phase at made
  cases phase with
  | reading => exact framed made
  | appending packet rest =>
      rw [Answering.admitted_eq made, List.append_assoc]
      exact List.prefix_append _ _
  | snapshotting rest => exact answered made
  | replying left rest => exact answered made
  | ended ending =>
      cases ending with
      | ok disconnect =>
          cases disconnect with
          | peerClosed => exact framed made
          | closed =>
              rw [AccountsIn] at made
              split at made
              · exact framed made
              · exact made.elim fun _ => answered
      | error error =>
          cases error with
          | recv e => exact framed made
          | packet e => exact ⟨[], by rw [List.append_nil, made.1]⟩
          | send e => exact made.elim fun _ => answered
          | log e => exact made.elim fun _ => answered

end Session

end PacketLog
