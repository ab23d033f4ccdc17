import PacketLog.Proofs.Server.Integrity
import PacketLog.Proofs.Session.Replies

/-! # Replies from a shared log

Between the append of a packet and the snapshot that answers it, the other sessions and the
timestamp tasks may append as they please. The reply is the log as it was, the packet, and whatever
they appended (`Service.TrueReplies.answer`), and since the log only grows, every reply is the
beginning of every later log and every later reply.
-/

namespace PacketLog

namespace Occurrence

/-- What the log holds after a past without failures, when it held `contents` in the beginning. -/
def logAfter (contents : Bytes) (past : List Occurrence) : Bytes :=
  contents ++ (records past).flatten

variable {contents : Bytes} {past : List Occurrence}

private theorem logAfter_append (later : List Occurrence) :
    logAfter contents (past ++ later) = logAfter contents past ++ (records later).flatten := by
  rw [logAfter, logAfter, records_append, List.flatten_append, List.append_assoc]

private theorem logAfter_appended (task : Nat) (packet : Bytes) (result : Except LogError Unit)
    (later : List Occurrence) :
    logAfter contents (past ++ .session task (.appended packet result) :: later) =
      logAfter contents past ++ packet ++ (records later).flatten := by
  rw [logAfter_append, List.append_assoc]
  rfl

/-- The occurrences that some happenings of a task stand for. -/
theorem happeningsOf_eq_append_cons {task : Nat} {front back : List Happening}
    {happening : Happening} (same : happeningsOf task past = front ++ happening :: back) :
    ∃ before since, past = before ++ .session task happening :: since ∧
      happeningsOf task since = back := by
  obtain ⟨before, rest, rfl, _, after⟩ := List.filterMap_eq_append_iff.mp same
  obtain ⟨skipped, occurrence, since, rfl, nothing, found, later⟩ :=
    List.filterMap_eq_cons_iff.mp after
  cases occurrence with
  | session other happened =>
      rw [happeningOf?] at found
      split at found
      · rename_i here
        obtain rfl := Option.some.inj found
        subst here
        exact ⟨before ++ skipped, since, (List.append_assoc _ _ _).symm, later⟩
      · cases found
  | timestamp other record result => cases found
  | removal => cases found
  | quiet => cases found

/-- A session to which nothing happens appends nothing. -/
theorem author_ne_of_silent {task : Nat} (silent : happeningsOf task past = []) :
    ∀ entry ∈ entries past, entry.author ≠ .session task := by
  intro entry member own
  have listed : entry.record ∈ recordsBy (.session task) past :=
    List.mem_map.mpr ⟨entry, List.mem_filter.mpr ⟨member, by simpa using own⟩, rfl⟩
  rw [recordsBy_session, silent] at listed
  exact absurd listed List.not_mem_nil

end Occurrence

namespace Service

open Occurrence

/-- What the replies of the sessions of a service are, after a past without failures that started
with `contents` in the log. -/
structure TrueReplies (start s : Service) (contents : Bytes) (past : List Occurrence) : Prop where
  /-- At every moment the log holds the records appended so far. -/
  logged : ∀ earlier later, past = earlier ++ later →
    ∃ moment, start.History earlier moment ∧ moment.History later s ∧
      moment.log.Holds moment.storage (logAfter contents earlier)
  /-- What a session does next after an append is to take a snapshot, of the log at the append, the
  packet, and the records that the others have appended since. -/
  answer : ∀ earlier task packet result between happening later,
    past = earlier ++ .session task (.appended packet result) ::
      (between ++ .session task happening :: later) →
    happeningsOf task between = [] →
      (∀ entry ∈ entries between, entry.author ≠ .session task) ∧
      happening = .snapshotTaken
        (.ok (logAfter contents earlier ++ packet ++ (records between).flatten))
  /-- Every snapshot is taken to answer the last append of its session. -/
  asked : ∀ earlier task result later,
    past = earlier ++ .session task (.snapshotTaken result) :: later →
    ∃ before packet between,
      earlier = before ++ .session task (.appended packet (.ok ())) :: between ∧
      happeningsOf task between = [] ∧
      result = .ok (logAfter contents before ++ packet ++ (records between).flatten)
  /-- A reply is the beginning of every later log. -/
  kept : ∀ earlier task reply between later,
    past = earlier ++ .session task (.snapshotTaken (.ok reply)) :: (between ++ later) →
    ∃ moment, start.History (earlier ++ .session task (.snapshotTaken (.ok reply)) :: between)
        moment ∧
      moment.log.Holds moment.storage (reply ++ (records between).flatten)
  /-- A reply is the beginning of every later reply. -/
  extended : ∀ earlier task reply between other reply' later,
    past = earlier ++ .session task (.snapshotTaken (.ok reply)) ::
      (between ++ .session other (.snapshotTaken (.ok reply')) :: later) →
    reply <+: reply'
  /-- Whatever a session sends continues the parts that it has sent since its last snapshot, and is
  part of it. -/
  sent : ∀ earlier task bytes later, past = earlier ++ .session task (.sent bytes) :: later →
    ∃ before reply since, ∃ parts : List Bytes,
      earlier = before ++ .session task (.snapshotTaken (.ok reply)) :: since ∧
      happeningsOf task since = parts.map .sent ∧ parts.flatten ++ bytes <+: reply
  /-- A session that has failed to send, or was closed during a reply, is at its end. -/
  brokenOff : ∀ earlier task happening later, past = earlier ++ .session task happening :: later →
    (∃ e, happening = .sendFailed e) ∨ happening = .unanswered → happeningsOf task later = []

namespace History

variable {start s : Service} {contents : Bytes} {past : List Occurrence}

/-- What a session is about to reply, or replies. -/
theorem repliesIn (history : start.History past s) (begun : start.sessions = []) {task : Nat}
    {session : Session} (found : s.sessions[task]? = some session) :
    Session.RepliesIn (happeningsOf task past) session.phase := by
  have kept := history.session_keeps begun
    (P := fun past session => Session.RepliesIn past session.phase) trivial
    Session.Takes.replies task
  rw [found] at kept
  exact kept

/-- What is sent continues the reply. -/
theorem reply_of_sent {earlier later : List Occurrence} {task : Nat} {bytes : Bytes}
    (history : start.History (earlier ++ .session task (.sent bytes) :: later) s)
    (begun : start.sessions = []) :
    ∃ before reply since, ∃ parts : List Bytes,
      earlier = before ++ .session task (.snapshotTaken (.ok reply)) :: since ∧
      happeningsOf task since = parts.map .sent ∧ parts.flatten ++ bytes <+: reply := by
  obtain ⟨moment, next, before, occurs, _, _⟩ := history.split_at
  obtain ⟨session, after, found, taken, _, _⟩ := occurs
  have current := before.repliesIn begun found
  cases taken with
  | @sent _ left rest count replying within some accepted =>
      rw [replying] at current
      obtain ⟨packet, reply, parts, ⟨front, recent⟩, whole⟩ := current
      rw [List.append_cons] at recent
      obtain ⟨before, since, split, same⟩ := happeningsOf_eq_append_cons recent
      refine ⟨before, reply, since, parts, split, same, ?_⟩
      rw [← whole, accepted, List.prefix_append_right_inj]
      exact List.take_prefix _ _

/-- After a reply that was broken off nothing happens to its session. -/
theorem silent_of_brokenOff {earlier later : List Occurrence} {task : Nat} {happening : Happening}
    (history : start.History (earlier ++ .session task happening :: later) s)
    (breaks : (∃ e, happening = .sendFailed e) ∨ happening = .unanswered) :
    happeningsOf task later = [] := by
  obtain ⟨_, next, _, occurs, _, onward⟩ := history.split_at
  obtain ⟨session, after, found, taken, set, _⟩ := occurs
  obtain ⟨inside, _⟩ := List.getElem?_eq_some_iff.mp found
  have now : next.sessions[task]? = some after := by rw [set, List.getElem?_set_self inside]
  obtain ⟨e, rfl⟩ | rfl := breaks
  · cases taken with
    | sendFailed => exact onward.silent_of_ended now rfl
  · cases taken with
    | unanswered => exact onward.silent_of_ended now rfl

/-- A session that has appended a packet takes a snapshot next. -/
theorem snapshot_of_appended {earlier between later : List Occurrence} {task : Nat}
    {packet : Bytes} {happening : Happening}
    (history : start.History (earlier ++ .session task (.appended packet (.ok ())) ::
      (between ++ .session task happening :: later)) s)
    (silent : happeningsOf task between = []) : ∃ result, happening = .snapshotTaken result := by
  obtain ⟨_, next, _, occurs, _, onward⟩ := history.split_at
  obtain ⟨session, after, found, taken, set, _⟩ := occurs
  obtain ⟨inside, _⟩ := List.getElem?_eq_some_iff.mp found
  have appended : next.sessions[task]? = some after := by
    rw [set, List.getElem?_set_self inside]
  obtain ⟨moment, _, waiting, occurs, _, _⟩ := onward.split_at
  obtain ⟨session', _, found', taken', _, _⟩ := occurs
  have same : after = session' := by
    rw [waiting.session_of_silent silent appended] at found'
    exact Option.some.inj found'
  subst same
  cases taken with
  | appended appending =>
      cases taken' with
      | snapshotTaken => exact ⟨_, rfl⟩
      | received reading => exact nomatch reading
      | receiveFailed reading => exact nomatch reading
      | closed reading => exact nomatch reading
      | appended appending => exact nomatch appending
      | sent replying => exact nomatch replying
      | sendFailed replying => exact nomatch replying
      | unanswered replying => exact nomatch replying

/-- A session that takes a snapshot has appended a packet before. -/
theorem appended_of_snapshot {earlier later : List Occurrence} {task : Nat}
    {result : Except LogError Bytes}
    (history : start.History (earlier ++ .session task (.snapshotTaken result) :: later) s)
    (begun : start.sessions = []) :
    ∃ before packet between,
      earlier = before ++ .session task (.appended packet (.ok ())) :: between ∧
      happeningsOf task between = [] := by
  obtain ⟨moment, next, before, occurs, _, _⟩ := history.split_at
  obtain ⟨session, after, found, taken, _, _⟩ := occurs
  have current := before.repliesIn begun found
  cases taken with
  | snapshotTaken snapshotting =>
      rw [snapshotting] at current
      obtain ⟨front, packet, recent⟩ := current
      obtain ⟨before, between, split, silent⟩ := happeningsOf_eq_append_cons recent
      exact ⟨before, packet, between, split, silent⟩

/-- A snapshot is the log. -/
theorem snapshot_eq {earlier later : List Occurrence} {task : Nat}
    {result : Except LogError Bytes}
    (history : start.History (earlier ++ .session task (.snapshotTaken result) :: later) s)
    (holds : start.log.Holds start.storage contents) (calm : start.storage.Undisturbed)
    (clean : ∀ occurrence ∈ earlier, occurrence.faultless) :
    result = .ok (logAfter contents earlier) := by
  obtain ⟨moment, next, before, occurs, _, _⟩ := history.split_at
  obtain ⟨_, _, _, _, _, snapshot, _⟩ := occurs
  rw [← snapshot]
  exact (before.holds holds calm clean).1.snapshot_eq

end History

/-- **Replies under concurrency.** While no operation on the log fails and the file is not removed,
the reply to a packet is the log at the moment it was appended, the packet, and exactly the records
that other sessions and timestamp tasks appended before the snapshot. So it ends with a record and
contains the packet it answers, it is the beginning of every later log and of every later reply,
and nothing else is ever sent. A session that fails to send ends with that. -/
theorem replies_are_later_logs {config : Config} {address : SocketAddress} {storage : Storage}
    {start s : Service} {contents : Bytes} {past : List Occurrence}
    (begun : new? config address storage = some start)
    (holds : (⟨config.dataFile⟩ : SharedLog).Holds storage contents) (calm : storage.Undisturbed)
    (history : start.History past s) (clean : ∀ occurrence ∈ past, occurrence.faultless) :
    TrueReplies start s contents past := by
  obtain ⟨rfl, rfl, none⟩ := begins begun
  have logged : ∀ earlier later, past = earlier ++ later →
      ∃ moment, start.History earlier moment ∧ moment.History later s ∧
        moment.log.Holds moment.storage (logAfter contents earlier) := by
    rintro earlier later rfl
    obtain ⟨moment, before, after⟩ := history.split
    refine ⟨moment, before, after, (before.holds holds calm ?_).1⟩
    exact fun occurrence member => clean occurrence (List.mem_append_left _ member)
  have taken : ∀ earlier task result later,
      past = earlier ++ .session task (.snapshotTaken result) :: later →
      result = .ok (logAfter contents earlier) := by
    rintro earlier task result later rfl
    refine history.snapshot_eq holds calm ?_
    exact fun occurrence member => clean occurrence (List.mem_append_left _ member)
  refine ⟨logged, ?_, ?_, ?_, ?_, ?_, ?_⟩
  · intro earlier task packet result between happening later split silent
    refine ⟨author_ne_of_silent silent, ?_⟩
    have succeeded : result = .ok () := by
      have appended := clean (.session task (.appended packet result)) (by rw [split]; simp)
      cases result with
      | ok _ => rfl
      | error e => exact nomatch appended
    rw [succeeded] at split
    have same := history
    rw [split] at same
    obtain ⟨snapshot, rfl⟩ := same.snapshot_of_appended silent
    rw [← logAfter_appended task packet (.ok ()) between]
    refine congrArg _ (taken _ task snapshot later ?_)
    rw [split, List.append_assoc]
    rfl
  · intro earlier task result later split
    have snapshot := taken earlier task result later split
    subst split
    obtain ⟨before, packet, between, rfl, silent⟩ := history.appended_of_snapshot none
    rw [logAfter_appended] at snapshot
    exact ⟨before, packet, between, rfl, silent, snapshot⟩
  · intro earlier task reply between later split
    have snapshot := Except.ok.inj (taken earlier task _ _ split)
    rw [← List.cons_append, ← List.append_assoc] at split
    obtain ⟨moment, before, _, held⟩ := logged _ later split
    rw [logAfter_append, ← snapshot] at held
    exact ⟨moment, before, held⟩
  · intro earlier task reply between other reply' later split
    have first := Except.ok.inj (taken earlier task _ _ split)
    rw [← List.cons_append, ← List.append_assoc] at split
    have second := Except.ok.inj (taken _ other _ later split)
    rw [second, logAfter_append, ← first]
    exact List.prefix_append _ _
  · rintro earlier task bytes later rfl
    exact history.reply_of_sent none
  · rintro earlier task happening later rfl
    exact history.silent_of_brokenOff

/-- A second session appends its packet before the first one takes its snapshot, and the reply to
the first shows both. -/
theorem reply_with_the_packet_of_another :
    let config : Config :=
      ⟨.loopback 9, false, [47, 108], none, 8, 4, 16, none, "info", none⟩
    let moves : List Move :=
      [.run, .checkFlag, .acquire, .accept (.loopback 1), .checkFlag, .acquire,
        .accept (.loopback 2), .receive 0 [97, 10], .receive 1 [99, 10], .append 0, .append 1,
        .snapshot 0, .send 0 1]
    ∃ start past s, new? config (.loopback 9) (.ofTree ⟨[]⟩ []) = some start ∧
      start.play moves = some (past, s) ∧ TrueReplies start s [] past ∧
      past.drop 9 = [.session 0 (.appended [97, 10] (.ok ())),
        .session 1 (.appended [99, 10] (.ok ())),
        .session 0 (.snapshotTaken (.ok ([97, 10] ++ [99, 10]))), .session 0 (.sent [97])] := by
  intro config moves
  obtain ⟨start, begun⟩ : ∃ start, new? config (.loopback 9) (.ofTree ⟨[]⟩ []) = some start :=
    ⟨_, rfl⟩
  have outcome : ((new? config (.loopback 9) (.ofTree ⟨[]⟩ [])).bind fun start =>
      (start.play moves).map fun played => (played.1.all (·.faultless), played.1.drop 9)) =
      some (true, [.session 0 (.appended [97, 10] (.ok ())),
        .session 1 (.appended [99, 10] (.ok ())),
        .session 0 (.snapshotTaken (.ok ([97, 10] ++ [99, 10]))), .session 0 (.sent [97])]) := by
    cbv
  rw [begun, Option.bind_some, Option.map_eq_some_iff] at outcome
  obtain ⟨⟨past, s⟩, played, same⟩ := outcome
  obtain ⟨clean, recent⟩ := Prod.mk.inj same
  have empty : (⟨config.dataFile⟩ : SharedLog).Holds (.ofTree ⟨[]⟩ []) [] := by cbv
  have replies := replies_are_later_logs begun empty
    (fun _ member => absurd member List.not_mem_nil) (history_of_play played)
    (by simpa using clean)
  exact ⟨start, past, s, begun, played, replies, recent⟩

end Service

end PacketLog
