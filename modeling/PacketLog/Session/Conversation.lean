import PacketLog.Session.Session

/-! # A session with a scripted peer

A `Peer` is a script: what each read finds and how each write is answered. A `Conversation` is a
session with such a peer on a log. `Conversation.step?` makes its next move and
`Conversation.run` makes all of them: every move uses up a turn of the script or works off bytes
already read, so that a conversation always ends.
-/

namespace PacketLog

/-- What one attempt to read finds. Data that exceeds the size of the read stays for the next. -/
inductive ReadTurn
  | data (bytes : Bytes)
  | fail (error : IoError)
  | eof
  | notReady
  | close
  deriving DecidableEq, Repr

/-- How one attempt to send is answered. An attempt that was interrupted is made again by whatever
does the sending for the session, which does not come to know of it. -/
inductive SendTurn
  | upTo (limit : Nat)
  | fail (error : IoError)
  | interrupted
  | notReady
  | close
  deriving DecidableEq, Repr

/-- A scripted peer. When its reads are used up it has closed its side; when its sends are, it
accepts everything. -/
structure Peer where
  reads : List ReadTurn
  sends : List SendTurn
  deriving DecidableEq, Repr

/-- What an observer of the connection sees. -/
inductive SessionEvent
  | read (count : Nat)
  | readError
  | eof
  | write (bytes : Bytes)
  | writeError
  | close
  deriving DecidableEq, Repr

/-- A session with its peer, the log and the storage it is kept on, and what was seen so far, latest
first. -/
structure Conversation where
  session : Session
  peer : Peer
  log : SharedLog
  storage : Storage
  seen : List SessionEvent

namespace Conversation

/-- Notes an event. -/
def note (c : Conversation) (event : SessionEvent) : Conversation :=
  { c with seen := event :: c.seen }

/-- Moves the session. -/
def move (c : Conversation) (session : Session) : Conversation := { c with session }

/-- One attempt to read. -/
def read (c : Conversation) : Conversation :=
  match c.peer.reads with
  | [] => (c.move (c.session.received [])).note .eof
  | turn :: reads =>
      let next : Conversation := { c with peer := { c.peer with reads } }
      match turn with
      | .data bytes =>
          let part := bytes.take c.session.readSize
          let left := bytes.drop c.session.readSize
          let reads := if left = [] then reads else .data left :: reads
          let next : Conversation := { c with peer := { c.peer with reads } }
          (next.move (c.session.received part)).note (.read part.length)
      | .fail e => (next.move (c.session.receiveFailed e)).note .readError
      | .eof => (next.move (c.session.received [])).note .eof
      | .notReady => next
      | .close => (next.move c.session.closed).note .close

/-- One attempt to send what is left of a reply. An empty reply is through without one. -/
def send (c : Conversation) (left rest : Bytes) : Conversation :=
  if left = [] then c.move (c.session.sent [] rest 0)
  else
    match c.peer.sends with
    | [] => (c.move (c.session.sent left rest left.length)).note (.write left)
    | turn :: sends =>
        let next : Conversation := { c with peer := { c.peer with sends } }
        match turn with
        | .upTo limit =>
            let part := left.take limit
            (next.move (c.session.sent left rest part.length)).note (.write part)
        | .fail e => (next.move (c.session.sendFailed e)).note .writeError
        | .interrupted => next.note .writeError
        | .notReady => next
        | .close => (next.move c.session.closed).note .close

/-- The next move, if the session has not ended. -/
def step? (c : Conversation) : Option Conversation :=
  match c.session.phase with
  | .reading => some c.read
  | .appending packet rest =>
      let (result, storage) := c.log.appendAsync packet c.storage
      some { c with session := c.session.appended rest result, storage }
  | .snapshotting rest => some (c.move (c.session.snapshotTaken rest (c.log.snapshot c.storage)))
  | .replying left rest => some (c.send left rest)
  | .ended _ => none

/-- The bytes a turn of the script still holds, and the turn itself. -/
def turnWork : ReadTurn → Nat
  | .data bytes => bytes.length + 1
  | _ => 1

/-- The work that remains in a phase: the bytes still to be framed, and the moves up to the next
read. -/
def phaseWork : Phase → Nat
  | .ended _ => 0
  | .reading => 1
  | .replying _ rest => 5 * rest.length + 2
  | .snapshotting rest => 5 * rest.length + 3
  | .appending _ rest => 5 * rest.length + 4

/-- The work that some turns of the script hold. -/
def readWork (reads : List ReadTurn) : Nat := reads.foldr (turnWork · + ·) 0

/-- A bound on the moves a conversation can still make. -/
def work (c : Conversation) : Nat :=
  5 * readWork c.peer.reads + c.peer.sends.length + phaseWork c.session.phase

private theorem readWork_cons (turn : ReadTurn) (reads : List ReadTurn) :
    readWork (turn :: reads) = turnWork turn + readWork reads := rfl

private theorem phaseWork_digest_nil (s : Session) : phaseWork (s.digest []).phase = 1 := by
  simp [Session.digest, phaseWork]

private theorem phaseWork_digest_lt (s : Session) {input : Bytes} (nonempty : input ≠ []) :
    phaseWork (s.digest input).phase < 5 * input.length := by
  have := List.length_pos_iff.2 nonempty
  unfold Session.digest
  rw [if_neg nonempty]
  split
  · rename_i packet rest assembler fed
    have := Assembler.feed_rest_length_lt fed nonempty
    simp only [phaseWork] at *
    omega
  · simp only [phaseWork]
    omega
  · simp only [phaseWork]
    omega

/-- Digesting what is left of a read takes no more work than its bytes account for. -/
theorem phaseWork_digest_le (s : Session) (input : Bytes) :
    phaseWork (s.digest input).phase ≤ 5 * input.length + 1 := by
  by_cases nonempty : input = []
  · subst nonempty
    simp [phaseWork_digest_nil]
  · have := phaseWork_digest_lt s nonempty
    omega

private theorem work_read_lt {c : Conversation} (reading : c.session.phase = .reading) :
    c.read.work < c.work := by
  unfold read
  split
  · rename_i none_left
    simp [work, note, move, Session.received, Session.finish, phaseWork, reading, none_left]
  · rename_i turn reads turns
    have unfolded : c.work =
        5 * (turnWork turn + readWork reads) + c.peer.sends.length + 1 := by
      simp [work, turns, reading, phaseWork, readWork_cons]
    rw [unfolded]
    cases turn with
    | data bytes =>
        simp only [work, note, move, Session.received]
        have sizes : (bytes.take c.session.readSize).length +
            (bytes.drop c.session.readSize).length = bytes.length := by
          rw [← List.length_append, List.take_append_drop]
        by_cases part : bytes.take c.session.readSize = []
        · rw [if_pos part]
          split
          · simp only [Session.finish, phaseWork, turnWork]
            omega
          · simp only [Session.finish, phaseWork, turnWork, readWork_cons]
            omega
        · rw [if_neg part]
          have bound := phaseWork_digest_lt c.session part
          have positive := List.length_pos_iff.2 part
          split
          · simp only [turnWork] at *
            omega
          · simp only [readWork_cons, turnWork] at *
            omega
    | fail e =>
        simp only [work, note, move, Session.receiveFailed]
        split
        · simp only [reading, phaseWork, turnWork]
          omega
        · simp only [Session.finish, phaseWork, turnWork]
          omega
    | eof =>
        simp only [work, note, move, Session.received, Session.finish, phaseWork, turnWork,
          ↓reduceIte]
        omega
    | notReady =>
        simp only [work, reading, phaseWork, turnWork]
        omega
    | close =>
        simp only [work, note, move, Session.closed, Session.finish, phaseWork, turnWork]
        omega

private theorem phaseWork_sent (s : Session) (left rest : Bytes) (count : Nat) :
    phaseWork (s.sent left rest count).phase ≤ 5 * rest.length + 2 := by
  unfold Session.sent
  split
  · exact Nat.le_succ_of_le (phaseWork_digest_le ..)
  · split
    · simp [Session.sendFailed, Session.finish, phaseWork]
    · simp [phaseWork]

private theorem work_send_lt {c : Conversation} {left rest : Bytes}
    (replying : c.session.phase = .replying left rest) : (c.send left rest).work < c.work := by
  have unfolded : c.work = 5 * readWork c.peer.reads + c.peer.sends.length +
      (5 * rest.length + 2) := by simp [work, replying, phaseWork]
  rw [unfolded]
  unfold send
  have through := phaseWork_digest_le c.session rest
  split
  · simp only [work, move, Session.sent, List.drop_nil, ↓reduceIte]
    omega
  · split
    · simp only [work, note, move, Session.sent, List.drop_length, ↓reduceIte]
      omega
    · rename_i turn sends turns
      simp only [turns, List.length_cons]
      cases turn with
      | upTo limit =>
          have := phaseWork_sent c.session left rest (left.take limit).length
          simp only [work, note, move]
          omega
      | fail e =>
          simp only [work, note, move, Session.sendFailed, Session.finish, phaseWork]
          omega
      | interrupted | notReady =>
          simp only [work, note, replying, phaseWork]
          omega
      | close =>
          simp only [work, note, move, Session.closed, Session.finish, phaseWork]
          omega

/-- Every move uses up some of the work. -/
theorem work_step?_lt {c next : Conversation} (moved : c.step? = some next) :
    next.work < c.work := by
  unfold step? at moved
  split at moved
  · rename_i reading
    obtain rfl := Option.some.inj moved
    exact work_read_lt reading
  · rename_i packet rest appending
    obtain rfl := Option.some.inj moved
    have bound := phaseWork_digest_le c.session rest
    have before : phaseWork (.appending packet rest) = 5 * rest.length + 4 := rfl
    simp only [work, appending, Session.appended]
    split
    · have after : phaseWork (.snapshotting rest) = 5 * rest.length + 3 := rfl
      dsimp only
      omega
    · omega
  · rename_i rest snapshotting
    obtain rfl := Option.some.inj moved
    have before : phaseWork (.snapshotting rest) = 5 * rest.length + 3 := rfl
    simp only [work, move, snapshotting, Session.snapshotTaken]
    split
    · rename_i reply _
      have after : phaseWork (.replying reply rest) = 5 * rest.length + 2 := rfl
      dsimp only
      omega
    · rename_i e _
      have after : phaseWork (.ended (.error (.log e))) = 0 := rfl
      simp only [Session.finish]
      omega
  · rename_i left rest replying
    obtain rfl := Option.some.inj moved
    exact work_send_lt replying
  · simp at moved

/-- Makes moves until the session has ended. -/
def run (c : Conversation) : Conversation :=
  match _moved : c.step? with
  | none => c
  | some next => next.run
termination_by c.work
decreasing_by exact work_step?_lt _moved

/-- What was seen, in order. -/
def events (c : Conversation) : List SessionEvent := c.seen.reverse

end Conversation

end PacketLog
