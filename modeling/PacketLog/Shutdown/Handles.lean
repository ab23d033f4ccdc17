import PacketLog.Shutdown.Flag

/-! # Handles on shutdown flags

A flag is reached through handles, which can be copied and given up, and outlives them as long as
somebody waits for it. `Handles` holds the flags, the handles on them and those who wait, each
numbered in the order it was made.
-/

namespace PacketLog

/-- Somebody who waits for a flag: until it is set, or until told to stop waiting. -/
structure Waiter where
  flag : Nat
  aborted : Bool
  deriving DecidableEq, Repr

/-- Flags, the flag behind each handle that was not given up, and those who wait. -/
structure Handles where
  flags : List ShutdownFlag
  handles : List (Option Nat)
  waiters : List Waiter
  deriving DecidableEq, Repr

namespace Handles

/-- One flag with one handle on it. -/
def single : Handles := ⟨[.fresh], [some 0], []⟩

/-- The number of the flag behind a handle, unless the handle was given up. -/
def flagOf? (h : Handles) (handle : Nat) : Option Nat := (h.handles[handle]?).join

/-- Whether a flag is set. -/
def flagIsSet (h : Handles) (flag : Nat) : Bool := h.flags[flag]?.any (·.triggered)

/-- Whether the flag behind a handle is set; nothing for a handle given up. -/
def isTriggered? (h : Handles) (handle : Nat) : Option Bool := (h.flagOf? handle).map h.flagIsSet

/-- Sets the flag behind a handle, and answers whether this call was the one to set it. -/
def trigger? (h : Handles) (handle : Nat) : Option (Bool × Handles) := do
  let index ← h.flagOf? handle
  let flag ← h.flags[index]?
  let (flipped, flag) := flag.trigger
  some (flipped, { h with flags := h.flags.set index flag })

/-- Adds a handle on the flag behind another one, and answers its number. -/
def clone? (h : Handles) (handle : Nat) : Option (Nat × Handles) := do
  let index ← h.flagOf? handle
  some (h.handles.length, { h with handles := h.handles ++ [some index] })

/-- Adds a new flag with a handle on it, and answers the number of the handle. -/
def create (h : Handles) : Nat × Handles :=
  (h.handles.length,
    { h with flags := h.flags ++ [.fresh], handles := h.handles ++ [some h.flags.length] })

/-- Starts to wait for the flag behind a handle. -/
def wait? (h : Handles) (handle : Nat) : Option Handles := do
  let index ← h.flagOf? handle
  some { h with waiters := h.waiters ++ [⟨index, false⟩] }

/-- Gives up a handle. Who waits through it goes on waiting. -/
def drop? (h : Handles) (handle : Nat) : Option Handles := do
  let _ ← h.flagOf? handle
  some { h with handles := h.handles.set handle none }

/-- Tells somebody to stop waiting. -/
def abort (h : Handles) (waiter : Nat) : Handles :=
  { h with waiters := h.waiters.modify waiter ({ · with aborted := true }) }

/-- Whether somebody has stopped waiting, for either reason. -/
def isDone (h : Handles) (waiter : Waiter) : Bool := waiter.aborted || h.flagIsSet waiter.flag

/-- What every handle shows, with nothing for those given up. -/
def shown (h : Handles) : List (Option Bool) := h.handles.map (·.map h.flagIsSet)

/-- Who has stopped waiting. -/
def done (h : Handles) : List Bool := h.waiters.map h.isDone

end Handles

end PacketLog
