import PacketLog.Net.Address

/-! # The registry of connection handlers

Every accepted connection is served by a handler of its own, and the registry holds an entry for
each, under a key that its guard carries. A handler that exits posts its key, whatever way it exits;
posted keys are struck off whenever the registry is locked (`Registry.lock`), so that exiting never
has to wait. The key that was struck off last is given out again first. Joining drains the registry
and closes it for good.
-/

namespace PacketLog

/-- What the registry knows of a handler: who it serves, and its task. -/
structure Registration where
  peer : SocketAddress
  task : Nat
  deriving DecidableEq, Repr

/-- The entries by key, the keys without an entry (the next to be given out first), the keys posted
since the last lock, and whether new handlers are refused. -/
structure Registry where
  slots : List (Option Registration)
  vacant : List Nat
  posted : List Nat
  closed : Bool
  deriving DecidableEq, Repr

namespace Registry

/-- A registry without handlers. -/
def empty : Registry := ⟨[], [], [], false⟩

/-- The entry under a key. -/
def entry? (r : Registry) (key : Nat) : Option Registration := (r.slots[key]?).join

/-- Strikes off the entry under a key, if there is one. -/
def strikeOff (r : Registry) (key : Nat) : Registry :=
  if (r.entry? key).isSome then
    { r with slots := r.slots.set key none, vacant := key :: r.vacant }
  else r

/-- Takes the lock, which strikes off the posted keys in the order they were posted. -/
def lock (r : Registry) : Registry := { r.posted.foldl strikeOff r with posted := [] }

/-- Posts the key of a handler that exits. -/
def post (r : Registry) (key : Nat) : Registry := { r with posted := r.posted ++ [key] }

/-- The key that the next handler gets. -/
def nextKey (r : Registry) : Nat := r.vacant.headD r.slots.length

/-- The entries, in the order of their keys. -/
def entries (r : Registry) : List Registration := r.slots.filterMap id

/-- How many handlers are registered. -/
def size (r : Registry) : Nat := r.entries.length

/-- Sets out to register a handler: the key its guard will carry, unless handlers are refused. -/
def offer? (r : Registry) : Option Nat := if r.closed then none else some r.nextKey

/-- Registers a handler under the key that was offered. -/
def register (r : Registry) (entry : Registration) : Registry :=
  match r.vacant with
  | [] => { r with slots := r.slots ++ [some entry] }
  | key :: vacant => { r with slots := r.slots.set key (some entry), vacant }

/-- Takes out all entries and refuses handlers from now on. -/
def drain (r : Registry) : List Registration × Registry :=
  (r.entries, { r with slots := [], vacant := [], closed := true })

end Registry

end PacketLog
