import PacketLog.Storage.Sink
import PacketLog.Storage.Storage
import PacketLog.Text.Utf8

/-! # The shared log

The log is one file that every connection appends to and reads from its beginning. A missing file is
an empty log: the first append creates it. Appending, reading and removing are each one operation on
the storage; an operation can also die midway, which its background variant reports as a failure of
its own.
-/

namespace PacketLog

/-- Why an operation on the log failed. -/
inductive LogError
  | open (path : Path) (error : IoError)
  | write (path : Path) (error : IoError)
  | read (path : Path) (error : IoError)
  | remove (path : Path) (error : IoError)
  | blocking (path : Path)
  deriving DecidableEq, Repr

namespace LogError

/-- The text a failed operation is reported with. -/
def message : LogError → String
  | .open path e => s!"failed to open data file '{Utf8.display path}': {e.message}"
  | .write path e => s!"failed to write data file '{Utf8.display path}': {e.message}"
  | .read path e => s!"failed to stream data file '{Utf8.display path}': {e.message}"
  | .remove path e => s!"failed to remove data file '{Utf8.display path}': {e.message}"
  | .blocking path => s!"data file task for '{Utf8.display path}' failed: task panicked"

/-- The failure underneath, when it is one of input or output. -/
def source? : LogError → Option IoError
  | .open _ e | .write _ e | .read _ e | .remove _ e => some e
  | .blocking _ => none

end LogError

/-- What became of an operation: it answered, or died on the way. -/
inductive Run (α : Type)
  | answered (result : Except LogError α)
  | crashed

/-- The log kept in the file at `path`. -/
structure SharedLog where
  path : Path
  deriving DecidableEq, Repr

namespace SharedLog

/-- Appends bytes in full, creating the file if needed. -/
def append (log : SharedLog) (data : Bytes) (s : Storage) : Run Unit × Storage :=
  match Storage.onPath log.path (s.tree.lookupOrCreate s.cwd log.path) with
  | .error e => (.answered (.error (.open log.path e)), s)
  | .ok (tree, location, _) =>
      match (s.withTree tree).writeAll location data with
      | (.complete, s) => (.answered (.ok ()), s)
      | (.failed e, s) => (.answered (.error (.write log.path e)), s)
      | (.crashed, s) => (.crashed, s)

/-- What a failure to open the file for reading comes to: a log without a file is empty. -/
def unopened (log : SharedLog) (e : IoError) : Except LogError Bytes :=
  if e.kind = .notFound then .ok [] else .error (.open log.path e)

/-- The bytes of the log; none when there is no file yet. -/
def contents (log : SharedLog) (s : Storage) : Except LogError Bytes :=
  match Storage.onPath log.path (s.tree.lookupExisting s.cwd log.path) with
  | .error e => log.unopened e
  | .ok (_, .file contents) => .ok contents
  | .ok (_, .directory) => .error (.read log.path (.os Errno.isDirectory))
  | .ok _ => .ok []

/-- Streams the log into a sink and answers the number of bytes streamed. -/
def readAll (log : SharedLog) (s : Storage) (sink : Sink) : Run Nat × Sink :=
  match log.contents s with
  | .error e => (.answered (.error e), sink)
  | .ok contents =>
      match sink.stream contents with
      | (.complete, sink) => (.answered (.ok contents.length), sink)
      | (.failed e, sink) => (.answered (.error (.read log.path e)), sink)
      | (.crashed, sink) => (.crashed, sink)

/-- Copies the whole log into memory. -/
def snapshot (log : SharedLog) (s : Storage) : Except LogError Bytes :=
  match log.readAll s ⟨[], []⟩ with
  | (.answered (.ok _), sink) => .ok sink.received
  | (.answered (.error e), _) => .error e
  | (.crashed, _) => .error (.blocking log.path)

/-- What a failure to delete the file comes to: a file that is missing need not be deleted. -/
def undeleted (log : SharedLog) (e : IoError) : Except LogError Bool :=
  if e.kind = .notFound then .ok false else .error (.remove log.path e)

/-- Deletes the file and answers whether there was one. -/
def remove (log : SharedLog) (s : Storage) : Except LogError Bool × Storage :=
  match Storage.onPath log.path (s.tree.unlink s.cwd log.path) with
  | .ok tree => (.ok true, s.withTree tree)
  | .error e => (log.undeleted e, s)

/-- An operation run in the background: its death is a failure like others. -/
def inBackground {α : Type} (log : SharedLog) : Run α → Except LogError α
  | .answered result => result
  | .crashed => .error (.blocking log.path)

/-- Appends in the background. -/
def appendAsync (log : SharedLog) (data : Bytes) (s : Storage) : Except LogError Unit × Storage :=
  let (run, s) := log.append data s
  (log.inBackground run, s)

/-- Copies the whole log into memory in the background. -/
def snapshotAsync (log : SharedLog) (s : Storage) : Except LogError Bytes :=
  log.inBackground <|
    match log.readAll s ⟨[], []⟩ with
    | (.answered result, sink) => .answered (result.map fun _ => sink.received)
    | (.crashed, _) => .crashed

/-- A snapshot taken in the background is the one that would be taken at once. -/
theorem snapshotAsync_eq (log : SharedLog) (s : Storage) :
    log.snapshotAsync s = log.snapshot s := by
  rw [snapshotAsync, snapshot]
  obtain ⟨run, sink⟩ := log.readAll s ⟨[], []⟩
  cases run with
  | answered result => cases result <;> rfl
  | crashed => rfl

end SharedLog

end PacketLog
