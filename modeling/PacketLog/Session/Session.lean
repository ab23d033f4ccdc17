import PacketLog.Framing.Assembler
import PacketLog.Storage.SharedLog

/-! # One connection's session

A session reads from its peer, frames what it reads, appends every packet to the log and answers
with the whole log. It is a machine without input or output of its own: its phase says what it is
waiting for, and each happening (a read, the result of an append or a snapshot, bytes accepted by
the peer, the closing of the connection) moves it to the next phase.

A packet whose append failed is dropped and the session goes on. Only a successful append is
answered. An interrupted read is tried again, but a reply that cannot be sent ends the session.
-/

namespace PacketLog

/-- How a session ends when nothing went wrong. -/
inductive Disconnect
  | peerClosed
  | closed
  deriving DecidableEq, Repr

/-- A failure that ends one connection. -/
inductive SessionError
  | recv (error : IoError)
  | send (error : IoError)
  | packet (error : TooLarge)
  | log (error : LogError)
  deriving DecidableEq, Repr

/-- The text a connection's failure is reported with. -/
def SessionError.message : SessionError → String
  | .recv e => s!"error receiving data: {e.message}"
  | .send e => s!"error sending data: {e.message}"
  | .packet e => e.message
  | .log e => e.message

/-- How a session ended. -/
abbrev SessionEnd := Except SessionError Disconnect

/-- What a session is waiting for: the next read, the append of a packet, the snapshot that answers
it, or the peer to accept what is `left` of a reply. `rest` is what remains to be framed of the last
read. -/
inductive Phase
  | reading
  | appending (packet rest : Bytes)
  | snapshotting (rest : Bytes)
  | replying (left rest : Bytes)
  | ended (ending : SessionEnd)

/-- One connection: the packet in progress, the size of a read, and what it is waiting for. -/
structure Session where
  assembler : Assembler
  readSize : Nat
  phase : Phase

namespace Session

/-- A session that has just been accepted. -/
def new (initial limit readSize : Nat) : Session where
  assembler := .new initial limit
  readSize := readSize
  phase := .reading

/-- Ends the session. -/
def finish (s : Session) (ending : SessionEnd) : Session := { s with phase := .ended ending }

/-- How the session ended, if it has. -/
def ending? (s : Session) : Option SessionEnd :=
  match s.phase with
  | .ended ending => some ending
  | _ => none

/-- Frames what is left of a read, up to the next complete packet. -/
def digest (s : Session) (input : Bytes) : Session :=
  if input = [] then { s with phase := .reading }
  else
    match s.assembler.feed input with
    | (⟨.ok (some packet), rest⟩, assembler) =>
        { s with assembler, phase := .appending packet rest }
    | (⟨.ok none, _⟩, assembler) => { s with assembler, phase := .reading }
    | (⟨.error e, _⟩, assembler) => { s with assembler, phase := .ended (.error (.packet e)) }

/-- A read delivered bytes; an empty one means that the peer has closed its side. -/
def received (s : Session) (bytes : Bytes) : Session :=
  if bytes = [] then s.finish (.ok .peerClosed) else s.digest bytes

/-- A read failed. It is tried again if it was only interrupted. -/
def receiveFailed (s : Session) (e : IoError) : Session :=
  if e.isInterrupted then s else s.finish (.error (.recv e))

/-- The append of a packet answered; `rest` is framed on if it failed. -/
def appended (s : Session) (rest : Bytes) : Except LogError Unit → Session
  | .ok () => { s with phase := .snapshotting rest }
  | .error _ => s.digest rest

/-- The snapshot that answers a packet was taken. -/
def snapshotTaken (s : Session) (rest : Bytes) : Except LogError Bytes → Session
  | .ok reply => { s with phase := .replying reply rest }
  | .error e => s.finish (.error (.log e))

/-- Sending failed, for whatever reason. -/
def sendFailed (s : Session) (e : IoError) : Session := s.finish (.error (.send e))

/-- The peer accepted `count` bytes of what was left of a reply. To accept none of some bytes is a
failure. A reply without bytes is through at once. -/
def sent (s : Session) (left rest : Bytes) (count : Nat) : Session :=
  if left.drop count = [] then s.digest rest
  else if count = 0 then s.sendFailed (.bare .writeZero)
  else { s with phase := .replying (left.drop count) rest }

/-- The connection is closed from this side. -/
def closed (s : Session) : Session := s.finish (.ok .closed)

end Session

end PacketLog
