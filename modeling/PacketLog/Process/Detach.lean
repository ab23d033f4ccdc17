import PacketLog.Failure.IoError
import PacketLog.Storage.Path

/-! # Detaching from the terminal

A process goes into the background in seven system calls: it forks, starts a session of its own,
forks again so that it can never gain a terminal, moves to the root directory, and points its three
standard streams at the null device. Each fork leaves a parent behind that exits with success. The
first call that fails ends the sequence (`Detach.run`).
-/

namespace PacketLog

namespace Detach

/-- One of the system calls that detach a process. -/
inductive Call
  | fork
  | newSession
  | enter (directory : Path)
  | redirect (device : Path) (descriptor : Nat)
  deriving DecidableEq, Repr

/-- The root directory. -/
def root : Path := [Path.slash]

/-- The device that holds nothing and forgets everything. -/
def nullDevice : Path := Bytes.ofString "/dev/null"

/-- The calls that detach a process, in order. -/
def calls : List Call :=
  [.fork, .newSession, .fork, .enter root, .redirect nullDevice 0, .redirect nullDevice 1,
    .redirect nullDevice 2]

/-- What a system call returned: a number, or a failure. -/
abbrev Reply := Except Errno Nat

/-- The replies a system has in store for each kind of call. A call beyond them returns 0. -/
structure Host where
  forks : List Reply
  newSessions : List Reply
  enters : List Reply
  redirects : List Reply
  deriving Repr

/-- The reply to a call, and what the host has in store afterwards. -/
def Host.answer (host : Host) : Call → Reply × Host
  | .fork => (host.forks.headD (.ok 0), { host with forks := host.forks.tail })
  | .newSession =>
      (host.newSessions.headD (.ok 0), { host with newSessions := host.newSessions.tail })
  | .enter _ => (host.enters.headD (.ok 0), { host with enters := host.enters.tail })
  | .redirect _ _ =>
      (host.redirects.headD (.ok 0), { host with redirects := host.redirects.tail })

/-- What became of a process that set out to detach: it runs in the background, it was left behind
as a parent, or a call failed. -/
inductive Outcome
  | detached
  | parent
  | failed (error : IoError)
  deriving DecidableEq, Repr

/-- Whether a reply says that this process is the one that was forked from. -/
def isParent : Call → Nat → Bool
  | .fork, child => child != 0
  | _, _ => false

/-- Makes calls until one of them settles what becomes of the process. Answers also the calls that
were made. -/
def make (host : Host) : List Call → List Call × Outcome
  | [] => ([], .detached)
  | call :: rest =>
      match host.answer call with
      | (.error e, _) => ([call], .failed (.os e))
      | (.ok number, host) =>
          if isParent call number then ([call], .parent)
          else
            let (made, outcome) := make host rest
            (call :: made, outcome)

/-- Detaches a process. -/
def run (host : Host) : List Call × Outcome := make host calls

/-- The exit code of a parent that is left behind. -/
def parentExit : Nat := 0

end Detach

end PacketLog
