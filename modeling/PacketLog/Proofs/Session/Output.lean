import Mathlib
import PacketLog.Proofs.Session.Visits

/-! # What a session sends

Without failures of the log, the reply to a packet is what the log held in the beginning and the
packets appended so far (`repliesTo`). At every moment of a session its peer has accepted the
replies to all packets that were appended, one after another, but for what is left of the last one
(`Session.Sent`). What is left depends on what the session is doing (`Session.Owes`): all of the
reply before its first byte is sent, some of it in the middle, and nothing once the session looks
for the next packet. A session ends with something left only if it broke off (`Session.BreaksOff`):
sending failed, or it was closed during the reply.
-/

namespace PacketLog

/-- The replies to some packets that are appended to a log one after another: each is what the log
holds by then. -/
def repliesTo (contents : Bytes) : List Bytes → List Bytes
  | [] => []
  | packet :: later => (contents ++ packet) :: repliesTo (contents ++ packet) later

private theorem repliesTo_concat (contents : Bytes) (packets : List Bytes) (packet : Bytes) :
    repliesTo contents (packets ++ [packet]) =
      repliesTo contents packets ++ [contents ++ (packets ++ [packet]).flatten] := by
  induction packets generalizing contents with
  | nil => simp [repliesTo]
  | cons first packets ih => simp [repliesTo, ih]

private theorem flatten_repliesTo_concat (contents : Bytes) (packets : List Bytes)
    (packet : Bytes) :
    (repliesTo contents (packets ++ [packet])).flatten =
      (repliesTo contents packets).flatten ++ (contents ++ (packets ++ [packet]).flatten) := by
  rw [repliesTo_concat, List.flatten_append, List.flatten_singleton]

/-- What every happening of a session does that is alone with a log that holds some bytes: appends
succeed, and snapshots show these bytes. -/
def Happening.Faithful (held : Bytes) : Happening → Prop
  | .appended _ result => result = .ok ()
  | .snapshotTaken result => result = .ok held
  | _ => True

private theorem Happening.Touches.faithful {happening : Happening} {log : SharedLog}
    {s next : Storage}
    {held : Bytes} (touches : happening.Touches log s next) (succeeded : happening.succeeded)
    (holds : log.Holds s held) : happening.Faithful held := by
  cases happening with
  | appended packet result =>
      cases result with
      | ok _ => rfl
      | error e => exact nomatch succeeded
  | snapshotTaken result => exact touches.1.symm.trans holds.snapshot_eq
  | _ => trivial

namespace Session

/-- What the peer has accepted are the replies to the packets appended, but for what is `left` of
the last one. -/
structure Sent (contents : Bytes) (past : List Happening) (left : Bytes) : Prop where
  joined : Happening.output past ++ left = (repliesTo contents (Happening.packets past)).flatten
  last : left <:+ contents ++ (Happening.packets past).flatten

/-- A session ends in the middle of a reply: sending failed, or it was closed, and the last that
happened was that this left a reply unanswered. -/
def BreaksOff (past : List Happening) (ending : SessionEnd) : Prop :=
  (∃ e, ending = .error (.send e)) ∨ ending = .ok .closed ∧ past.getLast? = some .unanswered

/-- What is left of the last reply in some phase of a session that nothing on the log has failed. -/
def Owes (contents : Bytes) (past : List Happening) : Phase → Bytes → Prop
  | .snapshotting _, left => left = contents ++ (Happening.packets past).flatten ∧ left ≠ []
  | .replying unsent _, left => left = unsent ∧ left ≠ []
  | .ended ending, left => left ≠ [] ↔ BreaksOff past ending
  | _, left => left = []

section Sent

variable {contents : Bytes} {past : List Happening} {left : Bytes} (sent : Sent contents past left)
include sent

private theorem Sent.nothing (none : Happening.packets past = []) :
    Happening.output past = [] ∧ left = [] := by
  have joined := sent.joined
  rw [none] at joined
  exact List.append_eq_nil_iff.mp joined

/-- All replies but the last are sent as a whole, and the last one up to what is left of it. -/
theorem Sent.split {earlier : List Bytes} {packet : Bytes}
    (packets : Happening.packets past = earlier ++ [packet]) :
    ∃ part, Happening.output past = (repliesTo contents earlier).flatten ++ part ∧
      part ++ left = contents ++ (Happening.packets past).flatten := by
  rcases sent.last with ⟨part, whole⟩
  refine ⟨part, ?_, whole⟩
  apply (List.append_left_inj left).mp
  calc Happening.output past ++ left
      = (repliesTo contents (earlier ++ [packet])).flatten := by rw [sent.joined, packets]
    _ = (repliesTo contents earlier).flatten ++ (contents ++ (Happening.packets past).flatten) := by
        rw [flatten_repliesTo_concat, packets]
    _ = (repliesTo contents earlier).flatten ++ part ++ left := by rw [← whole, List.append_assoc]

/-- What is no append and sends nothing leaves what is owed as it is. -/
theorem Sent.concat (happening : Happening) (noOutput : Happening.output [happening] = [])
    (noPacket : Happening.packets [happening] = []) :
    Sent contents (past ++ [happening]) left := by
  have output := Happening.output_concat past noOutput
  have packets : Happening.packets (past ++ [happening]) = Happening.packets past := by
    rw [Happening.packets_append, noPacket, List.append_nil]
  exact ⟨by rw [output, packets, sent.joined], by rw [packets]; exact sent.last⟩

/-- After an append the reply to its packet is left. -/
theorem Sent.appended (none : left = []) (packet : Bytes) :
    Sent contents (past ++ [.appended packet (.ok ())])
      (contents ++ (Happening.packets (past ++ [.appended packet (.ok ())])).flatten) := by
  have packets : Happening.packets (past ++ [.appended packet (.ok ())]) =
      Happening.packets past ++ [packet] := Happening.packets_append _ _
  have joined := sent.joined
  rw [none, List.append_nil] at joined
  constructor
  · rw [Happening.output_concat past rfl, packets, flatten_repliesTo_concat, joined]
  · exact List.suffix_refl _

/-- What is accepted is left no longer. -/
theorem Sent.accepted (count : Nat) :
    Sent contents (past ++ [.sent (left.take count)]) (left.drop count) := by
  have packets : Happening.packets (past ++ [.sent (left.take count)]) =
      Happening.packets past := by
    rw [Happening.packets_append]
    exact List.append_nil _
  have output : Happening.output (past ++ [.sent (left.take count)]) =
      Happening.output past ++ left.take count := by
    rw [Happening.output_append]
    exact congrArg _ (List.append_nil _)
  constructor
  · rw [output, packets, List.append_assoc, List.take_append_drop, sent.joined]
  · rw [packets]
    exact (List.drop_suffix count left).trans sent.last

end Sent

variable {contents : Bytes} {s next : Session} {happening : Happening} {past : List Happening}

private theorem owes_ended {ending : SessionEnd} (sending : ∀ e, ending ≠ .error (.send e))
    (other : happening ≠ .unanswered) : Owes contents (past ++ [happening]) (.ended ending) [] := by
  refine iff_of_false (fun something => something rfl) ?_
  rintro (⟨e, failed⟩ | ⟨_, unanswered⟩)
  · exact sending e failed
  · rw [List.getLast?_concat] at unanswered
    exact other (Option.some.inj unanswered)

private theorem owes_digest (s : Session) (input : Bytes) (other : happening ≠ .unanswered) :
    Owes contents (past ++ [happening]) (s.digest input).phase [] := by
  unfold digest
  split
  · rfl
  · split
    · rfl
    · rfl
    · exact owes_ended (fun e same => nomatch same) other

/-- **Every happening keeps track of what is left to send.** -/
theorem Takes.owes (taken : Takes s happening next)
    (inHand : ∀ packet rest, s.phase = .appending packet rest → packet ≠ [])
    (faithful : happening.Faithful (contents ++ (Happening.packets past).flatten))
    (current : ∃ left, Sent contents past left ∧ Owes contents past s.phase left) :
    ∃ left, Sent contents (past ++ [happening]) left ∧
      Owes contents (past ++ [happening]) next.phase left := by
  rcases current with ⟨left, sent, owes⟩
  cases taken with
  | @received bytes reading =>
      rw [reading] at owes
      obtain rfl : left = [] := owes
      refine ⟨[], sent.concat _ rfl rfl, ?_⟩
      unfold Session.received
      split
      · exact owes_ended (fun e same => nomatch same) nofun
      · exact owes_digest s bytes nofun
  | @receiveFailed error reading =>
      rw [reading] at owes
      obtain rfl : left = [] := owes
      refine ⟨[], sent.concat _ rfl rfl, ?_⟩
      unfold Session.receiveFailed
      split
      · rw [reading]
        rfl
      · exact owes_ended (fun e same => nomatch same) nofun
  | closed reading =>
      rw [reading] at owes
      obtain rfl : left = [] := owes
      exact ⟨[], sent.concat _ rfl rfl, owes_ended (fun e same => nomatch same) nofun⟩
  | @appended packet rest result appending =>
      rw [appending] at owes
      obtain rfl : result = .ok () := faithful
      have packets : Happening.packets (past ++ [.appended packet (.ok ())]) =
          Happening.packets past ++ [packet] := Happening.packets_append _ _
      refine ⟨_, sent.appended owes packet, rfl, List.append_ne_nil_of_right_ne_nil _ ?_⟩
      rw [packets, List.flatten_append, List.flatten_singleton]
      exact List.append_ne_nil_of_right_ne_nil _ (inHand packet rest appending)
  | @snapshotTaken rest result snapshotting =>
      rw [snapshotting] at owes
      obtain rfl : result = .ok left := faithful.trans (congrArg _ owes.1.symm)
      exact ⟨left, sent.concat _ rfl rfl, rfl, owes.2⟩
  | @sent bytes unsent rest count replying within some accepted =>
      rw [replying] at owes
      rcases owes with ⟨rfl, something⟩
      subst accepted
      refine ⟨left.drop count, sent.accepted count, ?_⟩
      unfold Session.sent
      split
      · rename_i finished
        rw [finished]
        exact owes_digest s rest nofun
      · rename_i unfinished
        rw [if_neg fun none => something (some none)]
        exact ⟨rfl, unfinished⟩
  | @sendFailed error unsent rest replying _ =>
      rw [replying] at owes
      exact ⟨left, sent.concat _ rfl rfl, iff_of_true owes.2 (.inl ⟨_, rfl⟩)⟩
  | @unanswered unsent rest replying =>
      rw [replying] at owes
      exact ⟨left, sent.concat _ rfl rfl, iff_of_true owes.2 (.inr ⟨rfl, List.getLast?_concat⟩)⟩

end Session

/-- **What is left to send on the way.** -/
theorem Conversation.Reaches.owes {c d : Conversation} {past : List Happening} {contents : Bytes}
    {limit : Nat} (reached : c.Reaches past d) (begun : c.session.phase = .reading)
    (accounts : c.session.Accounts limit [])
    (holds : c.log.Holds c.storage contents) (calm : c.storage.Undisturbed)
    (faultless : ∀ happening ∈ past, happening.succeeded) :
    ∃ left, Session.Sent contents past left ∧ Session.Owes contents past d.session.phase left := by
  induction reached with
  | refl => exact ⟨[], ⟨rfl, List.nil_suffix⟩, by rw [begun]; rfl⟩
  | @step past d next before moved ih =>
      have clean := fun happening member => faultless happening (List.mem_append_left _ member)
      have now := (before.holds holds calm clean).1
      have taken := (step?_takes moved).2
      cases happened : d.happening? with
      | some happening =>
          rw [happened, before.log_eq] at taken
          rw [happened] at faultless
          have succeeded := faultless happening (List.mem_append_right _ List.mem_cons_self)
          have made : d.session.Accounts limit past :=
            before.keeps accounts Session.Takes.accounts
          exact taken.1.owes (fun _ _ => made.inHand_ne_nil) (taken.2.faithful succeeded now)
            (ih clean)
      | none =>
          rw [happened] at taken
          rw [Option.toList_none, List.append_nil, taken.1]
          exact ih clean

namespace SharedLog

/-- **The reply side of a session.** A session is alone with a log, and every operation on it
succeeds. Then at every moment the bytes that were written are the replies to all packets appended
but the last, in order and as a whole, and the reply to the last one up to what is left of it;
nothing is written as long as nothing was appended. The session ends, and something is left then
exactly if sending failed or if it was closed during that reply. If it ends because a packet is too
long, the packets appended, and so those answered, are the ones in front of it. -/
theorem replies_follow_appends (log : SharedLog) (s : Storage) (contents : Bytes) (visit : Visit)
    (holds : log.Holds s contents) (calm : s.Undisturbed)
    (faultless : ∀ happening ∈ (visit.start log s).happenings, happening.succeeded) :
    let c := visit.start log s
    c.Reaches c.happenings c.run ∧ (∃ ending, c.run.session.phase = .ended ending) ∧
    ∀ past d, c.Reaches past d →
      let packets := Happening.packets past
      let written := SessionEvent.written d.events
      ∃ left, (packets = [] → written = [] ∧ left = []) ∧
        (∀ earlier packet, packets = earlier ++ [packet] →
          ∃ part, written = (repliesTo contents earlier).flatten ++ part ∧
            part ++ left = contents ++ packets.flatten) ∧
        ∀ ending, d.session.phase = .ended ending →
          (left ≠ [] ↔ (∃ e, ending = .error (.send e)) ∨
            ending = .ok .closed ∧ past.getLast? = some .unanswered) ∧
          ∀ e, ending = .error (.packet e) →
            packets = admitted visit.limit (Happening.input past) := by
  intro c
  refine ⟨c.reaches_run.1, c.reaches_run.2, ?_⟩
  intro past d reached packets written
  have clean : ∀ happening ∈ past, happening.succeeded := by
    intro happening member
    exact faultless happening (reached.happenings_eq ▸ List.mem_append_left _ member)
  obtain ⟨left, sent, owes⟩ := reached.owes rfl (Session.accounts_new _ _ _) holds calm clean
  have output : written = Happening.output past := reached.written_eq
  have accounts : d.session.Accounts visit.limit past :=
    reached.keeps (Session.accounts_new _ _ _) Session.Takes.accounts
  refine ⟨left, ?_, ?_, ?_⟩
  · rw [output]
    exact sent.nothing
  · intro earlier packet split
    rw [output]
    exact sent.split split
  · intro ending ended
    rw [ended] at owes
    refine ⟨owes, ?_⟩
    rintro e rfl
    obtain ⟨limit, made⟩ := accounts
    rw [ended] at made
    exact limit ▸ made.1.symm

/-- A visitor sends two packets in one read. It takes the first reply in small parts, and closes
after three bytes of the second. -/
theorem closed_during_the_second_reply :
    let log : SharedLog := ⟨[47, 108]⟩
    let visit : Visit := ⟨1, 3, 16, ⟨[.data [97, 10, 98, 98, 10]],
      [.upTo 1, .notReady, .upTo 1, .upTo 2, .upTo 3, .close]⟩⟩
    let c := visit.start log (.ofTree ⟨[([[108]], .file [120, 10])]⟩ [])
    ∃ part left, SessionEvent.written c.run.events = [120, 10, 97, 10] ++ part ∧
      part ++ left = [120, 10, 97, 10, 98, 98, 10] ∧ left ≠ [] := by
  intro log visit c
  have clean : (c.happenings.all (·.succeeded)) = true := by cbv
  obtain ⟨whole, _, every⟩ := replies_follow_appends log (.ofTree ⟨[([[108]], .file [120, 10])]⟩ [])
    [120, 10] visit (by cbv) (fun _ member => absurd member List.not_mem_nil) (by simpa using clean)
  obtain ⟨left, _, split, ended⟩ := every c.happenings c.run whole
  have packets : Happening.packets c.happenings = [[97, 10]] ++ [[98, 98, 10]] := by cbv
  have closed : c.run.session.phase = .ended (.ok .closed) := by cbv
  have last : c.happenings.getLast? = some .unanswered := by cbv
  obtain ⟨part, written, joined⟩ := split _ _ packets
  rw [packets] at joined
  exact ⟨part, left, written, joined, (ended _ closed).1.mpr (.inr ⟨rfl, last⟩)⟩

end SharedLog

end PacketLog
