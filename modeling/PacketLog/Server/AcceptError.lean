import PacketLog.Failure.IoError

/-! # Failures to accept a connection

Some failures concern only the connection that was about to be accepted, so that the next one is
awaited at once. Others say that the host is out of resources, so that accepting pauses. All others
end the service. `AcceptVerdict.of` sorts a failure into the three.
-/

namespace PacketLog

namespace IoError

/-- Whether a failed accept concerns one connection only: by its kind, wherever it comes from. -/
def isTransientAccept (e : IoError) : Bool :=
  match e.kind with
  | .interrupted | .wouldBlock | .connectionAborted | .connectionReset | .connectionRefused
  | .timedOut => true
  | _ => false

/-- The error numbers of a host that has no descriptor, buffer or memory left. -/
def exhaustion : List Errno :=
  [Errno.tooManyFiles, Errno.fileTableFull, Errno.noBuffers, Errno.noMemory]

/-- Whether a failed accept says that the host is out of resources: by its number only, so that a
failure without one never counts. -/
def isExhaustion (e : IoError) : Bool := e.errno?.any exhaustion.contains

end IoError

/-- What a failed accept asks of the acceptor: to go on at once, to go on after a pause, or to
stop. -/
inductive AcceptVerdict
  | again
  | backOff
  | stop
  deriving DecidableEq, Repr

/-- Sorts a failed accept. -/
def AcceptVerdict.of (e : IoError) : AcceptVerdict :=
  if e.isTransientAccept then .again else if e.isExhaustion then .backOff else .stop

end PacketLog
