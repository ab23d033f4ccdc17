import PacketLog.Failure.Errno

/-! # Input and output failures -/

namespace PacketLog

/-- A failure of an input or output operation: a number from the operating system, a kind alone, or
a kind with a text of its own. -/
inductive IoError
  | os (errno : Errno)
  | bare (kind : ErrorKind)
  | custom (kind : ErrorKind) (text : String)
  deriving DecidableEq, Repr, Inhabited

namespace IoError

/-- The kind of a failure. -/
def kind : IoError → ErrorKind
  | os errno => errno.kind
  | bare kind => kind
  | custom kind _ => kind

/-- The text a failure is reported with. -/
def message : IoError → String
  | os errno => s!"{errno.text} (os error {errno})"
  | bare kind => kind.description
  | custom _ text => text

/-- The operating system's number, if the failure came from there. -/
def errno? : IoError → Option Errno
  | os errno => some errno
  | _ => none

/-- Whether the operation was merely interrupted, so that it is tried again. -/
def isInterrupted (e : IoError) : Bool := e.kind == .interrupted

/-- A path that holds a zero byte never reaches the operating system. -/
def zeroInPath : IoError := .custom .invalidInput "file name contained an unexpected NUL byte"

/-- The other side took no byte at all of what was still to be written. -/
def wroteNothing : IoError := .custom .writeZero "failed to write whole buffer"

/-- A file that is to be read as text is not UTF-8. -/
def notText : IoError := .custom .invalidData "stream did not contain valid UTF-8"

end IoError

end PacketLog
