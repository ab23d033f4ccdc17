/-! # The shutdown flag

The flag goes from unset to set once and is never unset again. Only the call that sets it is told
so. Everything that waits does so until the flag is set.
-/

namespace PacketLog

/-- Whether the service was asked to stop. -/
structure ShutdownFlag where
  triggered : Bool
  deriving DecidableEq, Repr

namespace ShutdownFlag

/-- A flag that is not set. -/
def fresh : ShutdownFlag := ⟨false⟩

/-- Sets the flag, and answers whether this call was the one to set it. -/
def trigger (flag : ShutdownFlag) : Bool × ShutdownFlag := (!flag.triggered, ⟨true⟩)

end ShutdownFlag

end PacketLog
