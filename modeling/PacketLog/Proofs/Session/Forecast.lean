import Mathlib
import PacketLog.Proofs.Session.Visits

/-! # Sessions do not depend on how bytes are delivered

What a peer delivers is a stream of bytes and how the session ends that gets through it
(`ReadTurn.delivered`). What a session does with a stream is told without reads, buffers and writes:
it exchanges the packets that the limit admits one by one for the whole log (`SharedLog.exchange`).
A session in the middle of its work has an outlook on what it will do with what is still to be
delivered (`Session.outlook`). Everything that happens to it, unless it disrupts the session, is the
first part of that outlook and leaves the rest of it (`Session.Takes.outlook_eq`), so that the
outlook of a session that begins is what it has done in the end (`Conversation.outlook_run`).
-/

namespace PacketLog

namespace Happening

/-- A call of the log. -/
def isOperation : Happening → Bool
  | .appended _ _ | .snapshotTaken _ => true
  | _ => false

/-- The calls of the log, with what they were given and what they answered. -/
def operations (past : List Happening) : List Happening := past.filter isOperation

/-- The operations of two rows of happenings come one after another. -/
theorem operations_append (past later : List Happening) :
    operations (past ++ later) = operations past ++ operations later :=
  List.filter_append _ _

/-- What keeps a session from getting through what is delivered to it, or from sending a reply: it
is closed from its own side, or a write fails. -/
def disrupts : Happening → Bool
  | .closed | .unanswered | .sendFailed _ => true
  | _ => false

/-- What is still to be delivered before and after something happens. -/
def Delivers (before after : Bytes × SessionEnd) : Happening → Prop
  | .received [] => before = ([], .ok .peerClosed)
  | .received bytes => before = (bytes ++ after.1, after.2)
  | .receiveFailed e => before = if e.isInterrupted then after else ([], .error (.recv e))
  | _ => before = after

end Happening

/-- What the peer accepts delivers nothing. -/
theorem Happening.delivers_taking (left : Bytes) (count : Nat) {before after : Bytes × SessionEnd} :
    (taking left count).Delivers before after ↔ before = after := by
  unfold taking
  split <;> rfl

/-- What some turns deliver: bytes, and how a session ends that gets through them. Turns that are
not ready and interrupted attempts deliver nothing. -/
def ReadTurn.delivered : List ReadTurn → Bytes × SessionEnd
  | [] | .eof :: _ | .data [] :: _ => ([], .ok .peerClosed)
  | .data bytes :: later => (bytes ++ (delivered later).1, (delivered later).2)
  | .fail e :: later => if e.isInterrupted then delivered later else ([], .error (.recv e))
  | .notReady :: later => delivered later
  | .close :: _ => ([], .ok .closed)

/-- An ending up to the size that is reported of a packet that is too long. -/
def SessionEnd.unsized : SessionEnd → SessionEnd
  | .error (.packet e) => .error (.packet { e with size := 0 })
  | ending => ending

private theorem SessionEnd.eq_of_unsized {ending ending' : SessionEnd}
    (same : unsized ending = unsized ending') :
    ending = ending' ∨
      ∃ e size, ending = .error (.packet e) ∧ ending' = .error (.packet { e with size }) := by
  unfold unsized at same
  split at same
  · rename_i e
    split at same
    · rename_i e'
      simp only [Except.error.injEq, SessionError.packet.injEq, TooLarge.mk.injEq, true_and] at same
      exact .inr ⟨e, e'.size, rfl, by rw [same]⟩
    · rename_i other
      exact absurd same.symm (other _)
  · rename_i other
    split at same
    · exact absurd same (other _)
    · exact .inl same

/-- What a session does: its operations on the log, the bytes it sends, the storage it leaves, and
how it ends. -/
structure Outcome where
  operations : List Happening
  output : Bytes
  storage : Storage
  ending : SessionEnd

/-- An outcome with what has happened before. -/
def Outcome.after (past : List Happening) (o : Outcome) : Outcome where
  operations := Happening.operations past ++ o.operations
  output := Happening.output past ++ o.output
  storage := o.storage
  ending := o.ending

private theorem Outcome.after_of_silent {happening : Happening} (o : Outcome)
    (noOperation : Happening.operations [happening] = [])
    (noOutput : Happening.output [happening] = []) : o.after [happening] = o := by
  rw [after, noOperation, noOutput]
  rfl

private theorem Outcome.after_sent_append (bytes more : Bytes) (o : Outcome) :
    o.after [.sent (bytes ++ more)] = (o.after [.sent more]).after [.sent bytes] := by
  simp [after, Happening.operations, Happening.isOperation, Happening.output]

namespace SharedLog

/-- The reply to a packet that was appended, and what is done after it. -/
def answering (log : SharedLog) (s : Storage) (onward : Outcome) : Outcome :=
  match log.snapshot s with
  | .ok reply => onward.after [.snapshotTaken (.ok reply), .sent reply]
  | .error e => ⟨[.snapshotTaken (.error e)], [], s, .error (.log e)⟩

/-- The append of a packet with its reply, and what is done after it. -/
def appending (log : SharedLog) (packet : Bytes) (s : Storage) (onward : Storage → Outcome) :
    Outcome :=
  match log.appendAsync packet s with
  | (.ok (), next) => (log.answering next (onward next)).after [.appended packet (.ok ())]
  | (.error e, next) => (onward next).after [.appended packet (.error e)]

/-- Packets are exchanged for replies one after another. -/
def exchange (log : SharedLog) (ending : SessionEnd) : List Bytes → Storage → Outcome
  | [], s => ⟨[], [], s, ending⟩
  | packet :: later, s => log.appending packet s (log.exchange ending later)

/-- What is made of a whole stream: the packets admitted are exchanged, and a segment that is too
long takes the place of the ending. -/
def outcome (log : SharedLog) (limit : Nat) (bytes : Bytes) (ending : SessionEnd) :
    Storage → Outcome :=
  log.exchange
    (if (oversize? limit bytes).isSome then .error (.packet ⟨0, limit⟩) else ending)
    (admitted limit bytes)

private theorem outcome_packet_append (log : SharedLog) {limit : Nat} {packet : Bytes}
    (admissible : Admissible limit packet) (rest : Bytes) (ending : SessionEnd) :
    log.outcome limit (packet ++ rest) ending =
      fun s => log.appending packet s (log.outcome limit rest ending) := by
  funext s
  rw [outcome, oversize?_packet_append admissible.whole admissible.within,
    admitted_packet_append admissible.whole admissible.within]
  rfl

private theorem outcome_of_framed (log : SharedLog) {a : Assembler} (framed : a.Framed a.pending [])
    (ending : SessionEnd) (s : Storage) :
    log.outcome a.limit a.pending ending s = ⟨[], [], s, ending⟩ := by
  rw [outcome, framed.oversize?_eq_none, framed.admitted_eq]
  rfl

/-- Where a packet is too long, nothing that follows is looked at. -/
theorem outcome_of_oversize (log : SharedLog) {limit : Nat} {bytes : Bytes}
    (found : (oversize? limit bytes).isSome) (none : admitted limit bytes = []) (more : Bytes)
    (ending : SessionEnd) (s : Storage) :
    log.outcome limit (bytes ++ more) ending s =
      ⟨[], [], s, .error (.packet ⟨0, limit⟩)⟩ := by
  obtain ⟨same, still⟩ := admitted_append_of_oversize found more
  rw [outcome, if_pos still, same, none]
  rfl

end SharedLog

private theorem Assembler.framed_pending {a : Assembler} (unfinished : newline ∉ a.pending)
    (room : a.pending.length ≤ a.limit) : a.Framed a.pending [] :=
  ⟨fun _ member => absurd member List.not_mem_nil, rfl, unfinished, room⟩

namespace Session

variable {s next : Session} {happening : Happening} {log : SharedLog} {storage later : Storage}
  {before after : Bytes × SessionEnd}

/-- A session that may be delivered more: the bytes it holds are a packet in progress. -/
structure Ready (s : Session) : Prop where
  reads : 0 < s.readSize
  framed : s.assembler.Framed s.assembler.pending []

private theorem ready_new (initial limit : Nat) {readSize : Nat} (positive : 0 < readSize) :
    (new initial limit readSize).Ready :=
  ⟨positive, Assembler.framed_new initial limit⟩

/-- What is made of the rest of a read and of what is still to be delivered. -/
def ahead (s : Session) (log : SharedLog) (rest : Bytes) (incoming : Bytes × SessionEnd) :
    Storage → Outcome :=
  log.outcome s.assembler.limit (s.assembler.pending ++ rest ++ incoming.1) incoming.2

/-- What a session does from now on with what is still to be delivered, if nothing disrupts it. -/
def outlook (s : Session) (log : SharedLog) (storage : Storage) (incoming : Bytes × SessionEnd) :
    Outcome :=
  match s.phase with
  | .reading => s.ahead log [] incoming storage
  | .appending packet rest => log.appending packet storage (s.ahead log rest incoming)
  | .snapshotting rest => log.answering storage (s.ahead log rest incoming storage)
  | .replying left rest => (s.ahead log rest incoming storage).after [.sent left]
  | .ended ending => ⟨[], [], storage, SessionEnd.unsized ending⟩

/-- **Framing** the rest of a read leaves the outlook on it. -/
theorem outlook_digest (ready : s.Ready) (input : Bytes) :
    (s.digest input).Ready ∧
      (s.digest input).outlook log storage after = s.ahead log input after storage := by
  have reads := ready.reads
  have unfinished := ready.framed.unfinished
  unfold digest
  by_cases nothing : input = []
  · rw [if_pos nothing, nothing]
    exact ⟨⟨reads, ready.framed⟩, rfl⟩
  · rw [if_neg nothing]
    have outcome := s.assembler.feed_fed input
    generalize fed : s.assembler.feed input = result at outcome
    cases outcome with
    | @packet first rest capacity whole split within =>
        refine ⟨⟨reads, Assembler.framed_pending List.not_mem_nil (Nat.zero_le _)⟩, ?_⟩
        have admissible : Admissible s.assembler.limit (s.assembler.pending ++ first) :=
          ⟨whole.append_left unfinished, within⟩
        have stream : s.assembler.pending ++ input ++ after.1 =
            s.assembler.pending ++ first ++ (rest ++ after.1) := by
          rw [split]
          simp only [List.append_assoc]
        rw [ahead, stream, log.outcome_packet_append admissible]
        rfl
    | @tail capacity without within =>
        refine ⟨⟨reads, Assembler.framed_pending ?_ within⟩, ?_⟩
        · simpa using ⟨unfinished, without⟩
        · change log.outcome _ (s.assembler.pending ++ input ++ [] ++ after.1) after.2 storage = _
          rw [List.append_nil]
          rfl
    | @tooLong segment rest cutOff split long =>
        refine ⟨⟨reads, Assembler.framed_pending List.not_mem_nil (Nat.zero_le _)⟩, ?_⟩
        rcases ready.framed.feed_error fed with ⟨none, _, found, _⟩
        have rejected := log.outcome_of_oversize (Option.isSome_of_mem found) none
        exact (rejected after.1 after.2 storage).symm

/-- **Every happening is the first part of the outlook** that a session had, and leaves the rest of
it. -/
theorem Takes.outlook_eq (taken : Takes s happening next) (ready : s.Ready)
    (smooth : ¬happening.disrupts) (touches : happening.Touches log storage later)
    (delivers : happening.Delivers before after) :
    next.Ready ∧
      s.outlook log storage before = (next.outlook log later after).after [happening] := by
  cases taken with
  | @received bytes reading =>
      obtain rfl : later = storage := touches
      rw [Outcome.after_of_silent _ rfl rfl, outlook, reading]
      cases bytes with
      | nil =>
          obtain rfl : before = ([], .ok .peerClosed) := delivers
          refine ⟨⟨ready.reads, ready.framed⟩, ?_⟩
          simp only [ahead, List.append_nil]
          exact log.outcome_of_framed ready.framed _ _
      | cons byte bytes =>
          obtain rfl : before = (byte :: bytes ++ after.1, after.2) := delivers
          obtain ⟨still, onward⟩ := outlook_digest ready (byte :: bytes)
          refine ⟨still, ?_⟩
          rw [Session.received, if_neg (List.cons_ne_nil _ _), onward]
          simp only [ahead, List.append_nil, List.append_assoc]
  | @receiveFailed error reading =>
      obtain rfl : later = storage := touches
      have rest : before = if error.isInterrupted then after else ([], .error (.recv error)) :=
        delivers
      rw [Outcome.after_of_silent _ rfl rfl, outlook, reading]
      unfold Session.receiveFailed
      split at rest
      · rename_i again
        rw [if_pos again, rest, outlook, reading]
        exact ⟨ready, rfl⟩
      · rename_i final
        rw [if_neg final, rest]
        refine ⟨⟨ready.reads, ready.framed⟩, ?_⟩
        simp only [ahead, List.append_nil]
        exact log.outcome_of_framed ready.framed _ _
  | closed reading => exact absurd rfl smooth
  | @appended packet rest result appending =>
      obtain rfl : before = after := delivers
      have answered : log.appendAsync packet storage = (result, later) := touches
      rw [outlook, appending]
      simp only [SharedLog.appending, answered]
      cases result with
      | ok _ => exact ⟨⟨ready.reads, ready.framed⟩, rfl⟩
      | error e =>
          obtain ⟨still, onward⟩ := outlook_digest ready rest
          rw [Session.appended, onward]
          exact ⟨still, rfl⟩
  | @snapshotTaken rest result snapshotting =>
      obtain rfl : before = after := delivers
      rcases touches with ⟨shown, rfl⟩
      rw [outlook, snapshotting]
      simp only [SharedLog.answering, shown]
      cases result with
      | ok reply => exact ⟨⟨ready.reads, ready.framed⟩, rfl⟩
      | error e => exact ⟨⟨ready.reads, ready.framed⟩, rfl⟩
  | @sent bytes unsent rest count replying within some accepted =>
      obtain rfl : later = storage := touches
      obtain rfl : before = after := delivers
      have parts : bytes ++ unsent.drop count = unsent := by
        rw [accepted, List.take_append_drop]
      have reply : s.outlook log later before = ((s.ahead log rest before later).after
          [.sent (unsent.drop count)]).after [.sent bytes] := by
        rw [outlook, replying, ← Outcome.after_sent_append, parts]
      rw [reply, Session.sent]
      split
      · rename_i finished
        obtain ⟨still, onward⟩ := outlook_digest ready rest
        rw [onward, finished]
        exact ⟨still, rfl⟩
      · rename_i unfinished
        have positive : count ≠ 0 := by
          intro none
          rw [some none] at unfinished
          exact unfinished List.drop_nil
        rw [if_neg positive]
        exact ⟨⟨ready.reads, ready.framed⟩, rfl⟩
  | @sendFailed error unsent rest replying _ => exact absurd rfl smooth
  | @unanswered unsent rest replying => exact absurd rfl smooth

end Session

private theorem ReadTurn.delivered_data {bytes : Bytes} (some : bytes ≠ [])
    (later : List ReadTurn) :
    delivered (.data bytes :: later) = (bytes ++ (delivered later).1, (delivered later).2) := by
  cases bytes with
  | nil => exact absurd rfl some
  | cons byte bytes => rfl

/-- What a read takes of some data is delivered, and what it leaves is delivered next. -/
theorem ReadTurn.delivers_take (bytes : Bytes) (later : List ReadTurn) {count : Nat}
    (positive : 0 < count) :
    (Happening.received (bytes.take count)).Delivers (delivered (.data bytes :: later))
      (delivered (if bytes.drop count = [] then later else .data (bytes.drop count) :: later)) := by
  by_cases nothing : bytes = []
  · rw [nothing, List.take_nil]
    rfl
  · have nonempty : bytes.take count ≠ [] := by
      rw [Ne, List.take_eq_nil_iff, not_or]
      exact ⟨Nat.ne_of_gt positive, nothing⟩
    rcases List.exists_cons_of_ne_nil nonempty with ⟨byte, more, front⟩
    rw [delivered_data nothing, front]
    change _ = (byte :: more ++ _, _)
    rw [← front]
    split
    · rename_i finished
      have whole := List.take_append_drop count bytes
      rw [finished, List.append_nil] at whole
      rw [whole]
    · rename_i unfinished
      rw [delivered_data unfinished, ← List.append_assoc, List.take_append_drop]

namespace Conversation

variable {c next : Conversation}

/-- What one move makes happen was delivered by the peer. -/
theorem step?_delivers (moved : c.step? = some next) (positive : 0 < c.session.readSize)
    (smooth : ∀ happening ∈ c.happening?, ¬happening.disrupts) :
    match c.happening? with
    | some happening => happening.Delivers (ReadTurn.delivered c.peer.reads)
        (ReadTurn.delivered next.peer.reads)
    | none => ReadTurn.delivered c.peer.reads = ReadTurn.delivered next.peer.reads := by
  cases phase : c.session.phase with
  | reading =>
      simp only [step?, phase, Option.some.injEq] at moved
      subst moved
      unfold happening? read
      rw [phase]
      cases turns : c.peer.reads with
      | nil => rfl
      | cons turn reads =>
          cases turn with
          | data bytes => exact ReadTurn.delivers_take bytes reads positive
          | fail e => rfl
          | eof => rfl
          | notReady => rfl
          | close => exact absurd rfl (smooth .closed (by rw [happening?, phase, turns]; rfl))
  | replying left rest =>
      simp only [step?, phase, Option.some.injEq] at moved
      subst moved
      unfold happening? send
      rw [phase]
      dsimp only
      by_cases nothing : left = []
      · rw [if_pos nothing, if_pos nothing]
        rfl
      · rw [if_neg nothing, if_neg nothing]
        cases turns : c.peer.sends with
        | nil => exact (Happening.delivers_taking _ _).mpr rfl
        | cons turn sends =>
            cases turn with
            | upTo limit => exact (Happening.delivers_taking _ _).mpr rfl
            | fail e => rfl
            | interrupted => rfl
            | notReady => rfl
            | close => rfl
  | appending packet rest | snapshotting rest =>
      simp only [step?, phase, Option.some.injEq] at moved
      subst moved
      unfold happening?
      rw [phase]
      rfl
  | ended ending =>
      simp only [step?, phase] at moved
      cases moved

/-- **A run goes as it was foreseen.** -/
theorem outlook_run (c : Conversation) (ready : c.session.Ready)
    (smooth : ∀ happening ∈ c.happenings, ¬happening.disrupts) :
    ∃ ending, c.run.session.phase = .ended ending ∧
      c.session.outlook c.log c.storage (ReadTurn.delivered c.peer.reads) =
        ⟨Happening.operations c.happenings, Happening.output c.happenings, c.run.storage,
          SessionEnd.unsized ending⟩ := by
  induction c using run.induct with
  | case1 c finished =>
      obtain ⟨here, nothing⟩ := run_of_finished finished
      obtain ⟨ending, ended⟩ := ended_of_step? finished
      rw [here, nothing]
      refine ⟨ending, ended, ?_⟩
      rw [Session.outlook, ended]
      rfl
  | case2 c next moved ih =>
      rw [happenings_of_step? moved] at smooth
      rw [run_of_step? moved, happenings_of_step? moved]
      have first : ∀ happening ∈ c.happening?, ¬happening.disrupts := fun happening member =>
        smooth happening (List.mem_append_left _ (Option.mem_toList.mpr member))
      have others : ∀ happening ∈ next.happenings, ¬happening.disrupts := fun happening member =>
        smooth happening (List.mem_append_right _ member)
      have delivers := step?_delivers moved ready.reads first
      obtain ⟨log, taken⟩ := step?_takes moved
      cases happened : c.happening? with
      | none =>
          rw [happened] at taken delivers
          rw [← taken.1] at ready
          rw [← taken.1, ← taken.2, ← log, delivers]
          exact ih ready others
      | some happening =>
          rw [happened] at taken delivers
          have smooth := first happening happened
          obtain ⟨still, now⟩ := taken.1.outlook_eq ready smooth taken.2 delivers
          obtain ⟨ending, ended, later⟩ := ih still others
          refine ⟨ending, ended, ?_⟩
          rw [now, ← log, later, Happening.operations_append, Happening.output_append]
          rfl

end Conversation

namespace SharedLog

/-- **How bytes are delivered does not matter.** Two visitors of sessions with the same limit
deliver the same bytes and then end in the same way. Their scripts may cut the bytes differently, be
not ready or have reads interrupted in between, and take the replies in different parts; the buffers
and the reads of the two sessions may have different sizes. As long as no session is closed from its
own side and no write fails, both sessions make the same calls of the log with the same answers,
whether these succeed or not, send the same bytes, leave the same storage, and end in the same way,
but for the size that is reported of a packet that is too long. -/
theorem delivery_does_not_matter (log : SharedLog) (s : Storage) (visit other : Visit)
    (limits : visit.limit = other.limit) (reads : 0 < visit.readSize) (reads' : 0 < other.readSize)
    (same : ReadTurn.delivered visit.peer.reads = ReadTurn.delivered other.peer.reads)
    (smooth : ∀ happening ∈ (visit.start log s).happenings, ¬happening.disrupts)
    (smooth' : ∀ happening ∈ (other.start log s).happenings, ¬happening.disrupts) :
    let c := visit.start log s
    let d := other.start log s
    Happening.operations c.happenings = Happening.operations d.happenings ∧
      SessionEvent.written c.run.events = SessionEvent.written d.run.events ∧
      c.run.storage = d.run.storage ∧
      ∃ ending ending', c.run.session.phase = .ended ending ∧ d.run.session.phase = .ended ending' ∧
        (ending = ending' ∨
          ∃ e size, ending = .error (.packet e) ∧ ending' = .error (.packet { e with size })) := by
  intro c d
  obtain ⟨ending, ended, outcome⟩ :=
    c.outlook_run (Session.ready_new visit.initial visit.limit reads) smooth
  obtain ⟨ending', ended', outcome'⟩ :=
    d.outlook_run (Session.ready_new other.initial other.limit reads') smooth'
  have equal : c.session.outlook c.log c.storage (ReadTurn.delivered c.peer.reads) =
      d.session.outlook d.log d.storage (ReadTurn.delivered d.peer.reads) := by
    calc c.session.outlook c.log c.storage (ReadTurn.delivered c.peer.reads)
        = log.outcome visit.limit (ReadTurn.delivered visit.peer.reads).1
            (ReadTurn.delivered visit.peer.reads).2 s := rfl
      _ = log.outcome other.limit (ReadTurn.delivered other.peer.reads).1
            (ReadTurn.delivered other.peer.reads).2 s := by rw [limits, same]
      _ = d.session.outlook d.log d.storage (ReadTurn.delivered d.peer.reads) := rfl
  rw [outcome, outcome', Outcome.mk.injEq] at equal
  obtain ⟨operations, output, storage, unsized⟩ := equal
  refine ⟨operations, ?_, storage, ending, ending', ended, ended', ?_⟩
  · rw [c.reaches_run.1.written_eq, d.reaches_run.1.written_eq, output]
    rfl
  · exact SessionEnd.eq_of_unsized unsized

/-- One visitor sends everything at once. The other sends it in pieces, with a read that is
interrupted, and takes the reply in parts. The disk is full after two bytes of the first packet. -/
theorem same_calls_for_small_reads :
    let log : SharedLog := ⟨[108]⟩
    let s : Storage := ⟨⟨[]⟩, [], [.upTo 2, .fail (.os Errno.noSpace)], []⟩
    let visit : Visit := ⟨1, 3, 16, ⟨[.data [97, 98, 10, 99, 10, 100, 100, 100, 100]], []⟩⟩
    let other : Visit := ⟨8, 3, 2,
      ⟨[.data [97], .fail (.bare .interrupted), .data [98, 10, 99, 10, 100, 100, 100], .notReady,
          .data [100], .eof],
        [.upTo 1, .notReady, .upTo 2]⟩⟩
    Happening.operations (visit.start log s).happenings =
        Happening.operations (other.start log s).happenings ∧
      SessionEvent.written (visit.start log s).run.events =
        SessionEvent.written (other.start log s).run.events ∧
      (visit.start log s).run.storage = (other.start log s).run.storage := by
  intro log s visit other
  have smooth : ((visit.start log s).happenings.all (!·.disrupts)) = true := by cbv
  have smooth' : ((other.start log s).happenings.all (!·.disrupts)) = true := by cbv
  have same : ReadTurn.delivered visit.peer.reads = ReadTurn.delivered other.peer.reads := by cbv
  obtain ⟨operations, written, storage, _⟩ := delivery_does_not_matter log s visit other rfl
    (by decide) (by decide) same (by simpa using smooth) (by simpa using smooth')
  exact ⟨operations, written, storage⟩

end SharedLog

end PacketLog
