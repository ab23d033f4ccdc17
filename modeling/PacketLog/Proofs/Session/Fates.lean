import PacketLog.Proofs.Session.Forecast
import PacketLog.Proofs.Session.Output

/-! # What becomes of each packet

A log can fail any append and any snapshot. Whichever it fails, each packet of a session has one of
three fates: its append failed and it is dropped, it was appended and answered with the snapshot
taken next, or that snapshot failed and the session ended over it. The operations on the log are
those that the fates call for, one fate after another, and the bytes sent are the replies of the
packets that were answered (`Session.Fares`). So a failed append costs its packet and nothing else,
and only a failed snapshot ends the session (`SharedLog.failed_append_costs_one_packet`).
-/

namespace PacketLog

/-- What becomes of a packet that was appended or not. -/
inductive Fate
  | dropped (packet : Bytes) (error : LogError)
  | answered (packet reply : Bytes)
  | unanswered (packet : Bytes) (error : LogError)

namespace Fate

/-- The packet a fate befell. -/
def packet : Fate → Bytes
  | .dropped packet _ | .answered packet _ | .unanswered packet _ => packet

/-- The operations on the log that a fate consists of. -/
def operations : Fate → List Happening
  | .dropped packet e => [.appended packet (.error e)]
  | .answered packet reply => [.appended packet (.ok ()), .snapshotTaken (.ok reply)]
  | .unanswered packet e => [.appended packet (.ok ()), .snapshotTaken (.error e)]

/-- What the peer is sent. -/
def reply : Fate → Bytes
  | .answered _ reply => reply
  | _ => []

/-- The session goes on. -/
def GoesOn (fate : Fate) : Prop := ∀ packet e, fate ≠ .unanswered packet e

private theorem goesOn_dropped (packet : Bytes) (e : LogError) : (dropped packet e).GoesOn := by
  intro _ _ same
  cases same

private theorem goesOn_answered (packet reply : Bytes) : (answered packet reply).GoesOn := by
  intro _ _ same
  cases same

private theorem packets_operations (fates : List Fate) :
    Happening.packets (fates.flatMap operations) = fates.map packet := by
  induction fates with
  | nil => rfl
  | cons fate fates ih =>
      rw [List.flatMap_cons, Happening.packets_append, ih]
      cases fate <;> rfl

end Fate

/-- The packets of the operations are those of the past. -/
theorem Happening.packets_operations (past : List Happening) :
    packets (operations past) = packets past := by
  rw [packets, operations, List.filterMap_filter]
  refine List.filterMap_congr fun happening _ => ?_
  cases happening <;> rfl

namespace Session

/-- How a session ends, by the fates of its packets: a packet of its input is too long, or something
other than an append ends it while the fates go on, or the snapshot failed that was to answer the
last of its packets. -/
inductive Ends (past : List Happening) (fates : List Fate) : SessionEnd → Prop
  | tooLong {e : TooLarge} (going : ∀ fate ∈ fates, fate.GoesOn) :
      Ends past fates (.error (.packet e))
  | otherwise {ending : SessionEnd} {last : Happening} (going : ∀ fate ∈ fates, fate.GoesOn)
      (log : ∀ e, ending ≠ .error (.log e)) (final : past.getLast? = some last)
      (noAppend : last.packet? = none) : Ends past fates ending
  | snapshotFailed {settled : List Fate} {packet : Bytes} {e : LogError} {earlier : List Happening}
      (going : ∀ fate ∈ settled, fate.GoesOn) (split : fates = settled ++ [.unanswered packet e])
      (final : past = earlier ++ [.appended packet (.ok ()), .snapshotTaken (.error e)]) :
      Ends past fates (.error (.log e))

/-- The last reply has no bytes, so that nothing of it was ever left to send. -/
def EmptyReply (fates : List Fate) : Prop :=
  ∃ packet, fates.getLast? = some (.answered packet [])

/-- Whether a session broke off, by what is `left` of the last reply: some of it is, or it was
closed over a reply without bytes. -/
def BrokenOff (past : List Happening) (fates : List Fate) (left : Bytes) (ending : SessionEnd) :
    Prop :=
  BreaksOff past ending ↔ left ≠ [] ∨
    ending = .ok .closed ∧ past.getLast? = some .unanswered ∧ EmptyReply fates

/-- How the fates of its packets stand with a session in some phase, with `left` of the last reply
still to be sent. `pending` is a packet that was appended and waits for its snapshot. -/
def Stands (past : List Happening) (fates : List Fate) (pending : Option Bytes) (left : Bytes) :
    Phase → Prop
  | .reading | .appending _ _ => pending = none ∧ left = [] ∧ ∀ fate ∈ fates, fate.GoesOn
  | .snapshotting _ => left = [] ∧ (∀ fate ∈ fates, fate.GoesOn) ∧
      ∃ earlier packet, pending = some packet ∧ past = earlier ++ [.appended packet (.ok ())]
  | .replying unsent _ => pending = none ∧ left = unsent ∧ (left ≠ [] ∨ EmptyReply fates) ∧
      ∀ fate ∈ fates, fate.GoesOn
  | .ended ending => pending = none ∧ BrokenOff past fates left ending ∧ Ends past fates ending

/-- The fates of the packets of a session so far: the operations on the log are theirs, one fate
after another, and with what is left of the last reply the bytes sent are their replies. -/
structure Fares (past : List Happening) (fates : List Fate) (pending : Option Bytes) (left : Bytes)
    (phase : Phase) : Prop where
  operations : Happening.operations past =
    fates.flatMap Fate.operations ++ pending.toList.map (.appended · (.ok ()))
  output : Happening.output past ++ left = fates.flatMap Fate.reply
  last : left <:+ (fates.getLast?.map Fate.reply).getD []
  stands : Stands past fates pending left phase

variable {s next : Session} {happening : Happening} {past : List Happening} {fates : List Fate}
  {pending : Option Bytes} {left : Bytes} {phase : Phase}

/-- With nothing left, a session that did not break off has not been closed over a reply. -/
theorem brokenOff_of_not {ending : SessionEnd} (finished : ¬BreaksOff past ending) :
    BrokenOff past fates [] ending := by
  refine iff_of_false finished ?_
  rintro (some | ⟨closed, unanswered, _⟩)
  · exact some rfl
  · exact finished (.inr ⟨closed, unanswered⟩)

private theorem stands_digest (s : Session) (input : Bytes) (past : List Happening)
    (going : ∀ fate ∈ fates, fate.GoesOn) : Stands past fates none [] (s.digest input).phase := by
  unfold digest
  split
  · exact ⟨rfl, rfl, going⟩
  · split
    · exact ⟨rfl, rfl, going⟩
    · exact ⟨rfl, rfl, going⟩
    · refine ⟨rfl, brokenOff_of_not ?_, .tooLong going⟩
      rintro (⟨_, sending⟩ | ⟨closed, _⟩)
      · cases sending
      · cases closed

/-- An end that comes while nothing is being sent, and not from the log. -/
def EndsQuietly : SessionEnd → Prop
  | .ok _ | .error (.recv _) => True
  | _ => False

/-- A session with nothing left to send can end. -/
theorem stands_ended {ending : SessionEnd} (going : ∀ fate ∈ fates, fate.GoesOn)
    (quiet : EndsQuietly ending) (answered : happening ≠ .unanswered)
    (noAppend : happening.packet? = none) :
    Stands (past ++ [happening]) fates none [] (.ended ending) := by
  have log : ∀ e, ending ≠ .error (.log e) := by
    rintro e rfl
    exact quiet
  refine ⟨rfl, brokenOff_of_not ?_, .otherwise going log List.getLast?_concat noAppend⟩
  rintro (⟨e, rfl⟩ | ⟨_, unanswered⟩)
  · exact quiet
  · rw [List.getLast?_concat] at unanswered
    exact answered (Option.some.inj unanswered)

/-- A session that breaks off in the middle of a reply ends. -/
theorem stands_brokenOff {ending : SessionEnd} (going : ∀ fate ∈ fates, fate.GoesOn)
    (breaks : BreaksOff (past ++ [happening]) ending)
    (brokenOff : BrokenOff (past ++ [happening]) fates left ending)
    (noAppend : happening.packet? = none) :
    Stands (past ++ [happening]) fates none left (.ended ending) := by
  have log : ∀ e, ending ≠ .error (.log e) := by
    rintro e rfl
    rcases breaks with ⟨_, sending⟩ | ⟨closed, _⟩
    · cases sending
    · cases closed
  exact ⟨rfl, brokenOff, .otherwise going log List.getLast?_concat noAppend⟩

/-- What is no operation on the log and sends nothing leaves the fates as they are. -/
theorem Fares.aside (fares : Fares past fates pending left phase) (happening : Happening)
    (noOperation : Happening.operations [happening] = [])
    (noOutput : Happening.output [happening] = []) {after : Phase}
    (stands : Stands (past ++ [happening]) fates pending left after) :
    Fares (past ++ [happening]) fates pending left after where
  operations := by
    rw [Happening.operations_append, noOperation, List.append_nil, fares.operations]
  output := by rw [Happening.output_concat past noOutput, fares.output]
  last := fares.last
  stands := stands

/-- What is accepted of a reply is left no longer. -/
theorem Fares.accepted (fares : Fares past fates pending left phase) (count : Nat) {after : Phase}
    (stands : Stands (past ++ [.sent (left.take count)]) fates pending (left.drop count) after) :
    Fares (past ++ [.sent (left.take count)]) fates pending (left.drop count) after where
  operations := by
    rw [Happening.operations_append]
    exact (List.append_nil _).trans fares.operations
  output := by
    have output : Happening.output [.sent (left.take count)] = left.take count := List.append_nil _
    rw [Happening.output_append, output, List.append_assoc, List.take_append_drop, fares.output]
  last := (List.drop_suffix count left).trans fares.last
  stands := stands

/-- The fate of a packet is settled by the operation that happens. -/
theorem Fares.settled (fares : Fares past fates pending [] phase) (happening : Happening)
    (fate : Fate) (operation : Happening.operations [happening] = [happening])
    (noOutput : Happening.output [happening] = [])
    (settles : pending.toList.map (.appended · (.ok ())) ++ [happening] = fate.operations)
    {after : Phase}
    (stands : Stands (past ++ [happening]) (fates ++ [fate]) none fate.reply after) :
    Fares (past ++ [happening]) (fates ++ [fate]) none fate.reply after where
  operations := by
    rw [Happening.operations_append, fares.operations, operation, List.append_assoc, settles]
    simp
  output := by
    have output := fares.output
    rw [List.append_nil] at output
    rw [Happening.output_concat past noOutput, output]
    simp
  last := by
    rw [List.getLast?_concat]
    exact List.suffix_refl _
  stands := stands

/-- A packet that stays without an answer is the last one, and ends the session. -/
theorem Stands.of_unanswered {packet : Bytes} {e : LogError}
    (stands : Stands past fates pending left phase) (member : .unanswered packet e ∈ fates) :
    phase = .ended (.error (.log e)) ∧ ∃ settled earlier,
      fates = settled ++ [.unanswered packet e] ∧
        past = earlier ++ [.appended packet (.ok ()), .snapshotTaken (.error e)] := by
  have stuck (going : ∀ fate ∈ fates, fate.GoesOn) : False := going _ member packet e rfl
  cases phase with
  | reading => exact (stuck stands.2.2).elim
  | appending => exact (stuck stands.2.2).elim
  | snapshotting => exact (stuck stands.2.1).elim
  | replying => exact (stuck stands.2.2.2).elim
  | ended ending =>
      obtain ⟨_, _, ends⟩ := stands
      cases ends with
      | tooLong going => exact (stuck going).elim
      | otherwise going => exact (stuck going).elim
      | @snapshotFailed settled last _ earlier going split final =>
          rw [split] at member
          obtain before | same := List.mem_append.mp member
          · exact (going _ before packet e rfl).elim
          · obtain ⟨rfl, rfl⟩ := Fate.unanswered.inj (List.mem_singleton.mp same)
            exact ⟨rfl, settled, earlier, split, final⟩

private theorem Stands.unanswered_of_log {e : LogError}
    (stands : Stands past fates pending left (.ended (.error (.log e)))) :
    ∃ packet, .unanswered packet e ∈ fates := by
  obtain ⟨_, _, ends⟩ := stands
  cases ends with
  | otherwise _ log => exact absurd rfl (log e)
  | snapshotFailed _ split => exact ⟨_, by rw [split]; exact List.mem_concat_self⟩

/-- What ends a session is not an append, unless a packet behind it is too long. -/
theorem Stands.last {ending : SessionEnd} (stands : Stands past fates pending left (.ended ending))
    (fits : ∀ e, ending ≠ .error (.packet e)) :
    ∃ last, past.getLast? = some last ∧ last.packet? = none := by
  obtain ⟨_, _, ends⟩ := stands
  cases ends with
  | tooLong => exact absurd rfl (fits _)
  | otherwise _ _ final noAppend => exact ⟨_, final, noAppend⟩
  | @snapshotFailed _ _ e _ _ _ final =>
      refine ⟨.snapshotTaken (.error e), ?_, rfl⟩
      rw [final, List.append_cons, List.getLast?_concat]

/-- The packets whose append was tried, by their fates. -/
theorem Fares.packets_eq (fares : Fares past fates pending left phase) :
    Happening.packets past = fates.map Fate.packet ++ pending.toList := by
  have waiting :
      Happening.packets (pending.toList.map (.appended · (.ok ()))) = pending.toList := by
    cases pending <;> rfl
  rw [← Happening.packets_operations, fares.operations, Happening.packets_append,
    Fate.packets_operations, waiting]

private theorem goesOn_concat (going : ∀ fate ∈ fates, fate.GoesOn) (fate : Fate)
    (goes : fate.GoesOn) :
    ∀ other ∈ fates ++ [fate], other.GoesOn := by
  intro other member
  obtain earlier | last := List.mem_append.mp member
  · exact going other earlier
  · rwa [List.mem_singleton.mp last]

/-! ### What each happening settles -/

namespace Fares

private theorem received (fares : Fares past fates pending left s.phase)
    (reading : s.phase = .reading)
    (bytes : Bytes) :
    Fares (past ++ [.received bytes]) fates pending left (s.received bytes).phase := by
  obtain ⟨rfl, rfl, going⟩ := reading ▸ fares.stands
  apply fares.aside _ rfl rfl
  unfold Session.received
  split
  · exact stands_ended going trivial nofun rfl
  · exact stands_digest s bytes _ going

private theorem receiveFailed (fares : Fares past fates pending left s.phase)
    (reading : s.phase = .reading) (error : IoError) :
    Fares (past ++ [.receiveFailed error]) fates pending left (s.receiveFailed error).phase := by
  obtain ⟨rfl, rfl, going⟩ := reading ▸ fares.stands
  apply fares.aside _ rfl rfl
  unfold Session.receiveFailed
  split
  · rw [reading]
    exact ⟨rfl, rfl, going⟩
  · exact stands_ended going trivial nofun rfl

private theorem closed (fares : Fares past fates pending left s.phase)
    (reading : s.phase = .reading) :
    Fares (past ++ [.closed]) fates pending left s.closed.phase := by
  obtain ⟨rfl, rfl, going⟩ := reading ▸ fares.stands
  apply fares.aside _ rfl rfl
  exact stands_ended going trivial nofun rfl

private theorem appended {packet rest : Bytes} (fares : Fares past fates pending left s.phase)
    (appending : s.phase = .appending packet rest) :
    Fares (past ++ [.appended packet (.ok ())]) fates (some packet) []
      (s.appended rest (.ok ())).phase := by
  obtain ⟨rfl, rfl, going⟩ := appending ▸ fares.stands
  refine ⟨?_, ?_, fares.last, rfl, going, past, packet, rfl, rfl⟩
  · rw [Happening.operations_append, fares.operations, Option.toList_none, List.map_nil,
      List.append_nil]
    rfl
  · rw [Happening.output_concat past rfl, fares.output]

/-- The append failed. -/
theorem dropped {packet rest : Bytes} (fares : Fares past fates pending left s.phase)
    (appending : s.phase = .appending packet rest) (e : LogError) :
    Fares (past ++ [.appended packet (.error e)]) (fates ++ [.dropped packet e]) none []
      (s.appended rest (.error e)).phase := by
  obtain ⟨rfl, rfl, going⟩ := appending ▸ fares.stands
  apply fares.settled _ (.dropped packet e) rfl rfl rfl
  exact stands_digest s rest _ (goesOn_concat going _ (Fate.goesOn_dropped packet e))

private theorem answered {rest : Bytes} (fares : Fares past fates pending left s.phase)
    (snapshotting : s.phase = .snapshotting rest) (reply : Bytes) :
    ∃ packet, Fares (past ++ [.snapshotTaken (.ok reply)]) (fates ++ [.answered packet reply]) none
      reply (s.snapshotTaken rest (.ok reply)).phase := by
  obtain ⟨rfl, going, earlier, packet, rfl, rfl⟩ := snapshotting ▸ fares.stands
  have goes := goesOn_concat going _ (Fate.goesOn_answered packet reply)
  refine ⟨packet, fares.settled _ (.answered packet reply) rfl rfl rfl ⟨rfl, rfl, ?_, goes⟩⟩
  cases reply with
  | nil => exact .inr ⟨packet, List.getLast?_concat⟩
  | cons first reply => exact .inl (List.cons_ne_nil _ _)

/-- The snapshot failed. -/
theorem unanswered {rest : Bytes} (fares : Fares past fates pending left s.phase)
    (snapshotting : s.phase = .snapshotting rest) (e : LogError) :
    ∃ packet, Fares (past ++ [.snapshotTaken (.error e)]) (fates ++ [.unanswered packet e]) none []
      (s.snapshotTaken rest (.error e)).phase := by
  obtain ⟨rfl, going, earlier, packet, rfl, rfl⟩ := snapshotting ▸ fares.stands
  refine ⟨packet, fares.settled _ (.unanswered packet e) rfl rfl rfl ?_⟩
  have final := List.append_assoc earlier [.appended packet (.ok ())] [.snapshotTaken (.error e)]
  refine ⟨rfl, brokenOff_of_not ?_, .snapshotFailed going rfl final⟩
  rintro (⟨_, sending⟩ | ⟨closed, _⟩)
  · cases sending
  · cases closed

private theorem sent {unsent rest : Bytes} (fares : Fares past fates pending left s.phase)
    (replying : s.phase = .replying unsent rest) {count : Nat} (some : count = 0 → unsent = []) :
    Fares (past ++ [.sent (unsent.take count)]) fates pending (unsent.drop count)
      (s.sent unsent rest count).phase := by
  obtain ⟨rfl, rfl, _, going⟩ := replying ▸ fares.stands
  apply fares.accepted count
  unfold Session.sent
  split
  · rename_i finished
    rw [finished]
    exact stands_digest s rest _ going
  · rename_i unfinished
    have positive : count ≠ 0 := by
      intro none
      rw [some none] at unfinished
      exact unfinished List.drop_nil
    rw [if_neg positive]
    exact ⟨rfl, rfl, .inl unfinished, going⟩

private theorem sendFailed {unsent rest : Bytes} (fares : Fares past fates pending left s.phase)
    (replying : s.phase = .replying unsent rest) (unfinished : unsent ≠ []) (error : IoError) :
    Fares (past ++ [.sendFailed error]) fates pending left (s.sendFailed error).phase := by
  obtain ⟨rfl, rfl, _, going⟩ := replying ▸ fares.stands
  apply fares.aside _ rfl rfl
  have breaks : BreaksOff (past ++ [.sendFailed error]) (.error (.send error)) := .inl ⟨_, rfl⟩
  exact stands_brokenOff going breaks (iff_of_true breaks (.inl unfinished)) rfl

/-- The connection is closed during a reply. -/
theorem brokenOff {unsent rest : Bytes} (fares : Fares past fates pending left s.phase)
    (replying : s.phase = .replying unsent rest) :
    Fares (past ++ [.unanswered]) fates pending left s.closed.phase := by
  obtain ⟨rfl, rfl, something, going⟩ := replying ▸ fares.stands
  apply fares.aside _ rfl rfl
  have last : (past ++ [Happening.unanswered]).getLast? = some .unanswered :=
    List.getLast?_concat
  have breaks : BreaksOff (past ++ [.unanswered]) (.ok .closed) := .inr ⟨rfl, last⟩
  exact stands_brokenOff going breaks
    (iff_of_true breaks (something.imp_right fun empty => ⟨rfl, last, empty⟩)) rfl

end Fares

/-- **Every happening settles a fate or leaves them as they are.** -/
theorem Takes.fares (taken : Takes s happening next)
    (current : ∃ fates pending left, Fares past fates pending left s.phase) :
    ∃ fates pending left, Fares (past ++ [happening]) fates pending left next.phase := by
  obtain ⟨fates, pending, left, fares⟩ := current
  cases taken with
  | received reading => exact ⟨_, _, _, fares.received reading _⟩
  | receiveFailed reading => exact ⟨_, _, _, fares.receiveFailed reading _⟩
  | closed reading => exact ⟨_, _, _, fares.closed reading⟩
  | @appended packet rest result appending =>
      cases result with
      | ok _ => exact ⟨_, _, _, fares.appended appending⟩
      | error e => exact ⟨_, _, _, fares.dropped appending e⟩
  | @snapshotTaken rest result snapshotting =>
      cases result with
      | ok reply =>
          obtain ⟨packet, settled⟩ := fares.answered snapshotting reply
          exact ⟨_, _, _, settled⟩
      | error e =>
          obtain ⟨packet, settled⟩ := fares.unanswered snapshotting e
          exact ⟨_, _, _, settled⟩
  | @sent bytes unsent rest count replying _ some accepted =>
      subst accepted
      exact ⟨_, _, _, fares.sent replying some⟩
  | sendFailed replying unsent => exact ⟨_, _, _, fares.sendFailed replying unsent _⟩
  | unanswered replying => exact ⟨_, _, _, fares.brokenOff replying⟩

end Session

/-! ## Sessions on a log -/

/-- Something that happens to a session, with the storage that the log is kept on before and after.
-/
structure Deed where
  before : Storage
  happening : Happening
  after : Storage

/-- The task died that was to work on the log, wherever it was by then. -/
def Happening.Dies (log : SharedLog) : Happening → Prop
  | .appended _ result => result = .error (.blocking log.path)
  | .snapshotTaken result => result = .error (.blocking log.path)
  | _ => False

namespace Session

/-- A session works on a log. Nothing is asked of the storage between two deeds: others may do to it
whatever they like. Each operation may fail or not as the storage is by then, or its task may die.
-/
inductive Works (log : SharedLog) (start : Session) : List Deed → Session → Prop
  | begun : Works log start [] start
  | goesOn {deeds : List Deed} {s next : Session} {deed : Deed} (earlier : Works log start deeds s)
      (taken : Takes s deed.happening next)
      (touches : deed.happening.Touches log deed.before deed.after ∨ deed.happening.Dies log) :
      Works log start (deeds ++ [deed]) next

namespace Works

variable {log : SharedLog} {start s : Session} {deeds : List Deed}

/-- What every happening keeps true of a session and its past is true of its deeds. -/
theorem keeps {P : List Happening → Session → Prop} (works : Works log start deeds s)
    (first : P [] start) (step : ∀ {past s happening next}, Takes s happening next → P past s →
      P (past ++ [happening]) next) : P (deeds.map (·.happening)) s := by
  induction works with
  | begun => exact first
  | goesOn _ taken _ ih =>
      rw [List.map_append]
      exact step taken ih

private theorem touches (works : Works log start deeds s) :
    ∀ deed ∈ deeds,
      deed.happening.Touches log deed.before deed.after ∨ deed.happening.Dies log := by
  induction works with
  | begun => exact fun deed member => absurd member List.not_mem_nil
  | goesOn _ _ touches ih =>
      intro other member
      obtain earlier | last := List.mem_append.mp member
      · exact ih other earlier
      · rwa [List.mem_singleton.mp last]

/-- The last two deeds of a session whose last snapshot failed. -/
theorem split_snapshotFailed (works : Works log start deeds s) {earlier : List Happening}
    {packet : Bytes} {e : LogError}
    (final : deeds.map (·.happening) =
      earlier ++ [.appended packet (.ok ()), .snapshotTaken (.error e)]) :
    ∃ front before after last, deeds = front ++ [⟨before, .appended packet (.ok ()), after⟩, last] ∧
      log.appendAsync packet before = (.ok (), after) ∧
      last.happening = .snapshotTaken (.error e) ∧
        (log.snapshot last.before = .error e ∨ e = .blocking log.path) := by
  obtain ⟨front, back, rfl, _, two⟩ := List.map_eq_append_iff.mp final
  obtain ⟨added, rest, rfl, appended, one⟩ := List.map_eq_cons_iff.mp two
  obtain ⟨last, rest, rfl, failed, none⟩ := List.map_eq_cons_iff.mp one
  obtain rfl := List.map_eq_nil_iff.mp none
  have touchesAdded := works.touches added (by simp)
  have touchesLast := works.touches last (by simp)
  obtain ⟨before, _, after⟩ := added
  obtain rfl := appended
  rw [failed] at touchesLast
  refine ⟨front, before, after, last, rfl, ?_, failed, ?_⟩
  · exact touchesAdded.resolve_right fun died => nomatch died
  · exact touchesLast.imp (fun shown => shown.1) Except.error.inj

end Works

end Session

/-- A conversation is a session at work. -/
theorem Conversation.Reaches.works {c d : Conversation} {past : List Happening}
    (reached : c.Reaches past d) :
    ∃ deeds, Session.Works c.log c.session deeds d.session ∧ deeds.map (·.happening) = past := by
  induction reached with
  | refl => exact ⟨[], .begun, rfl⟩
  | @step past d next before moved ih =>
      obtain ⟨deeds, works, rfl⟩ := ih
      have taken := (step?_takes moved).2
      cases happened : d.happening? with
      | none =>
          rw [happened] at taken
          rw [Option.toList_none, List.append_nil, taken.1]
          exact ⟨deeds, works, rfl⟩
      | some happening =>
          rw [happened, before.log_eq] at taken
          have goesOn : Session.Works c.log c.session
              (deeds ++ [⟨d.storage, happening, next.storage⟩]) next.session :=
            .goesOn works taken.1 (.inl taken.2)
          refine ⟨_, goesOn, ?_⟩
          rw [List.map_append]
          rfl

namespace SharedLog

/-- **A failed append costs its packet and nothing else.** A session works on a log that may fail
any append and any snapshot, or lose the task of either, and none of its packets is too long. Then
the packets whose append was tried are the first ones of its input, each once and in order, and all
of them whenever it reads on, or the peer has closed, or reading failed. Each has its fate: what
happened on the log is that each was either dropped, or appended and then answered with the next
snapshot, or appended and left without an answer because that snapshot failed; one may have been
appended and wait for its snapshot. What was sent are the replies of the packets that were answered,
but for what is left of the last one. Something is left at the end exactly if sending failed or the
session was closed during that reply, unless it was closed over a reply without bytes, which is all
that answers a packet when the file was emptied meanwhile. No append ends the session. A failure of
the log ends it exactly if a snapshot failed; its packet is then the last one, and it is in the log.
-/
theorem failed_append_costs_one_packet (log : SharedLog) (initial limit readSize : Nat)
    {deeds : List Deed} {s : Session}
    (works : Session.Works log (.new initial limit readSize) deeds s)
    (fits : oversize? limit (Happening.input (deeds.map (·.happening))) = none) :
    let past := deeds.map (·.happening)
    let complete := (cut (Happening.input past)).1
    ∃ fates pending left, Session.Fares past fates pending left s.phase ∧
      Happening.packets past = fates.map Fate.packet ++ pending.toList ∧
      Happening.packets past <+: complete ∧
      (s.phase = .reading ∨ s.phase = .ended (.ok .peerClosed) ∨
        (∃ e, s.phase = .ended (.error (.recv e))) → Happening.packets past = complete) ∧
      (∀ ending, s.phase = .ended ending → Session.BrokenOff past fates left ending ∧
        (∀ e, ending ≠ .error (.packet e)) ∧
          ∃ last, past.getLast? = some last ∧ last.packet? = none) ∧
      (∀ e, s.phase = .ended (.error (.log e)) ↔ ∃ packet, .unanswered packet e ∈ fates) ∧
      ∀ packet e, .unanswered packet e ∈ fates → ∃ settled earlier before after last,
        fates = settled ++ [.unanswered packet e] ∧
        deeds = earlier ++ [⟨before, .appended packet (.ok ()), after⟩, last] ∧
        log.appendAsync packet before = (.ok (), after) ∧
        last.happening = .snapshotTaken (.error e) ∧
        (log.snapshot last.before = .error e ∨ e = .blocking log.path) ∧
        ∀ contents, log.Holds before contents → before.Undisturbed →
          log.Holds after (contents ++ packet) := by
  intro past complete
  have fared : ∃ fates pending left, Session.Fares past fates pending left s.phase := by
    refine works.keeps (P := fun past s => ∃ fates pending left,
      Session.Fares past fates pending left s.phase) ?_ Session.Takes.fares
    exact ⟨[], none, [], rfl, rfl, List.suffix_refl _, rfl, rfl, fun _ member => nomatch member⟩
  have accounts : s.Accounts limit past :=
    works.keeps (Session.accounts_new initial limit readSize) Session.Takes.accounts
  have admitted := admitted_eq_cut fits
  obtain ⟨fates, pending, left, fares⟩ := fared
  have stands := fares.stands
  refine ⟨fates, pending, left, fares, fares.packets_eq, ?_, ?_, ?_, ?_, ?_⟩
  · have first := accounts.packets_isPrefix
    rwa [admitted] at first
  · obtain ⟨rfl, made⟩ := accounts
    rintro (reading | closed | ⟨e, failed⟩)
    · rw [reading] at made
      exact made.admitted_eq.symm.trans admitted
    · rw [closed] at made
      exact made.admitted_eq.symm.trans admitted
    · rw [failed] at made
      exact made.admitted_eq.symm.trans admitted
  · intro ending ended
    rw [ended] at stands
    have within : ∀ e, ending ≠ .error (.packet e) := by
      rintro e rfl
      obtain ⟨rfl, made⟩ := accounts
      rw [ended] at made
      obtain ⟨_, segment, found, _⟩ := made
      exact nomatch fits.symm.trans found
    exact ⟨stands.2.1, within, stands.last within⟩
  · intro e
    constructor
    · intro ended
      rw [ended] at stands
      exact stands.unanswered_of_log
    · rintro ⟨packet, member⟩
      exact (stands.of_unanswered member).1
  · intro packet e member
    obtain ⟨_, settled, _, split, final⟩ := stands.of_unanswered member
    obtain ⟨earlier, before, after, last, two, added, failed, why⟩ :=
      works.split_snapshotFailed final
    refine ⟨settled, earlier, before, after, last, split, two, added, failed, why, ?_⟩
    exact fun contents holds calm => (holds.appendAsync_ok calm added).1

/-- Four packets in one read. The first is answered, the second finds the disk full, and behind the
third the file gives way to a directory, so that its snapshot fails and the fourth is not tried. -/
theorem answered_dropped_and_unanswered :
    let e : LogError := .read [108] (.os Errno.isDirectory)
    let c : Conversation :=
      { session := .new 8 8 16, peer := ⟨[.data [97, 10, 98, 10, 99, 10, 100, 10]], []⟩,
        log := ⟨[108]⟩, seen := [],
        storage := ⟨⟨[]⟩, [],
          [.whole, .fail (.os Errno.noSpace), .wholeThen .directory], [108]⟩ }
    ∃ fates : List Fate, Happening.operations c.happenings = fates.flatMap Fate.operations ∧
      fates.map Fate.packet = [[97, 10], [98, 10], [99, 10]] ∧
      (∃ packet, .unanswered packet e ∈ fates) ∧ Happening.output c.happenings = [97, 10] := by
  intro e c
  obtain ⟨deeds, works, past⟩ := c.reaches_run.1.works
  have fits : oversize? 8 (Happening.input c.happenings) = none := by cbv
  have ended : c.run.session.phase = .ended (.error (.log e)) := by cbv
  have packets : Happening.packets c.happenings = [[97, 10], [98, 10], [99, 10]] := by cbv
  rw [← past] at fits
  obtain ⟨fates, pending, left, fares, tried, _, _, _, failed, _⟩ :=
    failed_append_costs_one_packet ⟨[108]⟩ 8 8 16 works fits
  have stands := fares.stands
  rw [ended] at stands
  obtain ⟨rfl, _⟩ := stands
  rw [past, packets, Option.toList_none, List.append_nil] at tried
  have operations := fares.operations
  rw [past, Option.toList_none, List.map_nil, List.append_nil] at operations
  exact ⟨fates, operations, tried.symm, (failed e).mp ended, by cbv⟩

end SharedLog

end PacketLog
