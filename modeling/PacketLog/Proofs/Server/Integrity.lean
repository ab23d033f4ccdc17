import Mathlib
import PacketLog.Proofs.Server.History
import PacketLog.Proofs.Timestamp.Records

/-! # The integrity of a shared log

All sessions of a service and its timestamp tasks append to one log, in whatever order their moves
come. Every entry of it was appended by one of them (`Service.History.author_of_entry`) and is a
packet (`Service.History.isPacket_of_record`), and what a session has appended is what it has made
of the bytes it received, whatever the others do (`Service.History.accounts`). -/

namespace PacketLog

namespace Service

/-- A service that has just been made has its configuration, its storage, and no session. -/
theorem begins {config : Config} {address : SocketAddress} {storage : Storage} {start : Service}
    (begun : new? config address storage = some start) :
    start.config = config ∧ start.storage = storage ∧ start.sessions = [] := by
  unfold new? at begun
  split at begun
  · exact nomatch begun
  · obtain rfl := Option.some.inj begun
    exact ⟨rfl, rfl, rfl⟩

namespace History

variable {start s : Service} {past : List Occurrence}

/-- **What the sessions of a service have made of what they received.** -/
theorem accounts (history : start.History past s) (begun : start.sessions = []) {task : Nat}
    {session : Session} (found : s.sessions[task]? = some session) :
    session.Accounts start.config.maxPacketSize (Occurrence.happeningsOf task past) := by
  have kept := history.session_keeps begun (Session.accounts_new _ _ _) Session.Takes.accounts task
  rw [found] at kept
  exact kept

/-- Nothing has happened to a session that there is not. -/
theorem happeningsOf_eq_nil (history : start.History past s) (begun : start.sessions = [])
    {task : Nat} (absent : s.sessions[task]? = none) : Occurrence.happeningsOf task past = [] := by
  have kept := history.session_keeps begun (P := fun _ _ => True) trivial
    (fun _ _ => trivial) task
  rw [absent] at kept
  exact kept

/-- Whoever appended an entry is one of the sessions, or a timestamp task that wrote the record of a
moment. -/
theorem author_of_entry (history : start.History past s) (begun : start.sessions = [])
    {entry : LogEntry} (member : entry ∈ Occurrence.entries past) :
    match entry.author with
    | .session task => ∃ session, s.sessions[task]? = some session
    | .timestamps _ => ∃ moment : Moment, entry.record = moment.record := by
  obtain ⟨occurrence, present, appended⟩ := List.mem_filterMap.mp member
  cases occurrence with
  | session task happening =>
      cases happening with
      | appended packet result =>
          obtain rfl := Option.some.inj appended
          cases found : s.sessions[task]? with
          | some session => exact ⟨session, found⟩
          | none =>
              have nothing := history.happeningsOf_eq_nil begun found
              have happened : Happening.appended packet result ∈
                  Occurrence.happeningsOf task past :=
                List.mem_filterMap.mpr ⟨_, present, if_pos rfl⟩
              rw [nothing] at happened
              exact absurd happened List.not_mem_nil
      | _ => exact nomatch appended
  | timestamp task record result =>
      obtain rfl := Option.some.inj appended
      obtain ⟨earlier, later, rfl⟩ := List.append_of_mem present
      obtain ⟨_, _, _, occurs, _, _⟩ := history.split_at
      exact occurs.1
  | removal => exact nomatch appended
  | quiet => exact nomatch appended

/-- **Every record is a packet.** -/
theorem isPacket_of_record (history : start.History past s) (begun : start.sessions = [])
    {record : Bytes} (member : record ∈ Occurrence.records past) : IsPacket record := by
  obtain ⟨entry, present, rfl⟩ := List.mem_map.mp member
  have author := history.author_of_entry begun present
  cases named : entry.author with
  | session task =>
      rw [named] at author
      obtain ⟨session, found⟩ := author
      have own : entry.record ∈ Occurrence.recordsBy (.session task) past := by
        refine List.mem_map.mpr ⟨entry, List.mem_filter.mpr ⟨present, ?_⟩, rfl⟩
        simpa using named
      rw [Occurrence.recordsBy_session] at own
      have first := (history.accounts begun found).packets_isPrefix
      exact (admissible_of_mem_admitted (first.subset own)).whole
  | timestamps task =>
      rw [named] at author
      obtain ⟨moment, line⟩ := author
      rw [line]
      exact moment.isPacket_record

end History

/-- **The integrity of the log.** In every state that a service can get to while no operation on the
log fails and the file is not removed, the log holds what it held in the beginning and then the
records of some entries. Every entry is a packet of one of the sessions or a timestamp; the entries
of a session are the packets it has appended, in order, which come first among the packets that the
bytes it received are cut into, up to the first segment that is too long; and those of a timestamp
task are the lines it has written, in order. If the log was empty in the beginning, an assembler
makes exactly these records of it and is left with nothing, however it is delivered. -/
theorem log_is_interleaved_records {config : Config} {address : SocketAddress} {storage : Storage}
    {start s : Service} {contents : Bytes} {past : List Occurrence}
    (begun : new? config address storage = some start)
    (holds : (⟨config.dataFile⟩ : SharedLog).Holds storage contents) (calm : storage.Undisturbed)
    (history : start.History past s) (clean : ∀ occurrence ∈ past, occurrence.faultless) :
    s.log.Holds s.storage (contents ++ (Occurrence.records past).flatten) ∧
      (∀ entry ∈ Occurrence.entries past, IsPacket entry.record ∧
        match entry.author with
        | .session task => ∃ session, s.sessions[task]? = some session
        | .timestamps _ => ∃ moment : Moment, entry.record = moment.record) ∧
      (∀ task session, s.sessions[task]? = some session →
        let own := Occurrence.happeningsOf task past
        session.Accounts config.maxPacketSize own ∧
          Occurrence.recordsBy (.session task) past = Happening.packets own ∧
          Happening.packets own <+: admitted config.maxPacketSize (Happening.input own) ∧
          Happening.packets own <+: (cut (Happening.input own)).1) ∧
      (∀ task, Occurrence.recordsBy (.timestamps task) past = Occurrence.timestampsOf task past) ∧
      (contents = [] → ∀ initial limit chunks, s.log.Holds s.storage chunks.flatten →
        (∀ record ∈ Occurrence.records past, record.length ≤ limit) →
        let assembler := Assembler.new initial limit
        Assembler.Call.packets (assembler.deliver chunks) = Occurrence.records past ∧
          Assembler.Call.rejection? (assembler.deliver chunks) = none ∧
          (assembler.after (assembler.deliver chunks)).pending = []) := by
  obtain ⟨rfl, rfl, none⟩ := begins begun
  have now := (history.holds holds calm clean).1
  refine ⟨now, ?_, ?_, fun task => Occurrence.recordsBy_timestamps task past, ?_⟩
  · intro entry member
    exact ⟨history.isPacket_of_record none (List.mem_map_of_mem member),
      history.author_of_entry none member⟩
  · intro task session found own
    have accounts := history.accounts none found
    have first := accounts.packets_isPrefix
    exact ⟨accounts, Occurrence.recordsBy_session task past, first,
      first.trans (admitted_isPrefix_cut _ _)⟩
  · intro empty initial limit chunks held within
    have same := now.unique held
    rw [empty, List.nil_append] at same
    refine Assembler.deliver_flatten initial ?_ same
    intro record member
    exact ⟨history.isPacket_of_record none member, within record member⟩

/-- Two sessions and a timestamp task write to a log in turn; the second session breaks down, and
the first is left with an unfinished packet. -/
theorem two_sessions_and_a_timestamp :
    let config : Config :=
      ⟨.loopback 9, false, [47, 108], some 1, 8, 4, 16, some 2, "info", none⟩
    let moves : List Move :=
      [.run, .checkFlag, .acquire, .accept (.loopback 1), .checkFlag, .acquire,
        .accept (.loopback 2), .receive 0 [97, 10, 98], .receive 1 [99, 10], .append 1, .append 0,
        .snapshot 0, .pollTimestamp 0 false, .pass 1000, .pollTimestamp 0 false,
        .writeTimestamp 0 ⟨0, 0, 0⟩ false, .crash 1, .send 0 4]
    ∃ start past s, new? config (.loopback 9) (.ofTree ⟨[]⟩ []) = some start ∧
      start.play moves = some (past, s) ∧
      s.log.Holds s.storage ([99, 10] ++ [97, 10] ++ Moment.record ⟨0, 0, 0⟩) := by
  intro config moves
  obtain ⟨start, begun⟩ : ∃ start, new? config (.loopback 9) (.ofTree ⟨[]⟩ []) = some start :=
    ⟨_, rfl⟩
  have outcome : ((new? config (.loopback 9) (.ofTree ⟨[]⟩ [])).bind fun start =>
      (start.play moves).map fun played =>
        (played.1.all (·.faultless), Occurrence.records played.1)) =
      some (true, [[99, 10], [97, 10], Moment.record ⟨0, 0, 0⟩]) := by cbv
  rw [begun, Option.bind_some, Option.map_eq_some_iff] at outcome
  obtain ⟨⟨past, s⟩, played, same⟩ := outcome
  obtain ⟨clean, records⟩ := Prod.mk.inj same
  have empty : (⟨config.dataFile⟩ : SharedLog).Holds (.ofTree ⟨[]⟩ []) [] := by cbv
  have integrity := log_is_interleaved_records begun empty
    (fun _ member => absurd member List.not_mem_nil) (history_of_play played)
    (by simpa using clean)
  have held := integrity.1
  rw [records] at held
  exact ⟨start, past, s, begun, played, held⟩

end Service

end PacketLog
