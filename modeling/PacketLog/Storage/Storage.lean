import PacketLog.Failure.IoError
import PacketLog.Storage.FileTree

/-! # Storage

A `Storage` is a file tree seen from a working directory, together with how it will treat the coming
writes to files: each call that is planned for is answered as planned, the others accept everything.
A plan can also have something happen right after a write, which is how a file disappears between a
record and the reply to it, or how a writer dies with its bytes already stored.
-/

namespace PacketLog

/-- What can happen right after a write: the watched file is removed, an empty directory takes its
place, or the writer dies. -/
inductive Mishap
  | removal
  | directory
  | crash
  deriving DecidableEq, Repr

/-- How one write to a file is answered. -/
inductive WriteTurn
  | whole
  | upTo (limit : Nat)
  | fail (error : IoError)
  | wholeThen (mishap : Mishap)
  deriving DecidableEq, Repr

/-- A file tree with a working directory, the plan for the coming writes, and the path that mishaps
strike. -/
structure Storage where
  tree : FileTree
  cwd : Location
  plan : List WriteTurn
  watched : Path
  deriving Repr

/-- How a write call ended. -/
inductive Written
  | accepted (count : Nat)
  | failed (error : IoError)
  | crashed
  deriving DecidableEq, Repr

namespace Storage

/-- A storage that treats every write kindly. -/
def ofTree (tree : FileTree) (cwd : Location) : Storage := ⟨tree, cwd, [], []⟩

/-- The same storage with another tree. -/
def withTree (s : Storage) (tree : FileTree) : Storage := { s with tree }

/-- A path on its way to the operating system, which cannot see one that holds a zero byte. -/
def onPath {α : Type} (path : Path) (call : Except Errno α) : Except IoError α :=
  if path.contains 0 then .error .zeroInPath else call.mapError .os

/-- Whether a path leads to anything. -/
def contains (s : Storage) (path : Path) : Bool := !path.contains 0 && s.tree.contains s.cwd path

/-- The contents of the regular file a path leads to. -/
def fileAt? (s : Storage) (path : Path) : Option Bytes :=
  if path.contains 0 then none else s.tree.fileAt? s.cwd path

/-- Reads a whole file. The devices hold nothing. -/
def contentsOf (s : Storage) (path : Path) : Except IoError Bytes :=
  match onPath path (s.tree.lookupExisting s.cwd path) with
  | .error e => .error e
  | .ok (_, .file contents) => .ok contents
  | .ok (_, .directory) => .error (.os Errno.isDirectory)
  | .ok _ => .ok []

/-- Lets a mishap strike the watched path. A crash changes no file. -/
def suffer (s : Storage) : Mishap → Storage
  | .removal =>
      match s.tree.unlink s.cwd s.watched with
      | .ok tree => s.withTree tree
      | .error _ => s
  | .directory =>
      let bare := match s.tree.unlink s.cwd s.watched with
        | .ok tree => tree
        | .error _ => s.tree
      match bare.makeDirectory s.cwd s.watched with
      | .ok tree => s.withTree tree
      | .error _ => s.withTree bare
  | .crash => s

/-- Adds bytes at the end of what is stored at a location. The null device forgets them. -/
def extend (s : Storage) (location : Location) (data : Bytes) : Storage :=
  match s.tree.get? location with
  | some (.file contents) => s.withTree (s.tree.insert location (.file (contents ++ data)))
  | _ => s

/-- One write call that appends to what is stored at a location. The full device refuses without
taking a turn of the plan. -/
def write (s : Storage) (location : Location) (data : Bytes) : Written × Storage :=
  if s.tree.get? location = some (.device .full) then (.failed (.os Errno.noSpace), s)
  else
    match s.plan with
    | [] => (.accepted data.length, s.extend location data)
    | turn :: plan =>
        let s := { s with plan }
        match turn with
        | .whole => (.accepted data.length, s.extend location data)
        | .upTo limit => (.accepted (min limit data.length), s.extend location (data.take limit))
        | .fail error => (.failed error, s)
        | .wholeThen .crash => (.crashed, s.extend location data)
        | .wholeThen mishap => (.accepted data.length, (s.extend location data).suffer mishap)

/-- How writing a whole byte string ended. -/
inductive Ending
  | complete
  | failed (error : IoError)
  | crashed
  deriving DecidableEq, Repr

/-- Writes until every byte is stored, with at most `calls` calls. A call that stores nothing is a
failure; an interrupted one is repeated. -/
def writeCalls (s : Storage) (location : Location) (data : Bytes) : (calls : Nat) → Ending × Storage
  | 0 => (.complete, s)
  | calls + 1 =>
      if data = [] then (.complete, s)
      else
        match s.write location data with
        | (.accepted 0, s) => (.failed .wroteNothing, s)
        | (.accepted count, s) => s.writeCalls location (data.drop count) calls
        | (.failed error, s) =>
            if error.isInterrupted then s.writeCalls location data calls else (.failed error, s)
        | (.crashed, s) => (.crashed, s)

/-- Writes until every byte is stored. Only planned calls can leave something to do, so one call
more than is planned for is always enough. -/
def writeAll (s : Storage) (location : Location) (data : Bytes) : Ending × Storage :=
  s.writeCalls location data (s.plan.length + 1)

end Storage

end PacketLog
