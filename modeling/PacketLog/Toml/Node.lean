import PacketLog.Decimal.Positional

/-! # Documents as trees

A document is a tree of tables. How a table came about decides what may still be added to it: by a
header of its own, as a step on the way to another header, by a dotted key, or within braces.
`Entries.descend` finds or makes the table at the end of a path and changes it; `Entries.define`
enters a value there.
-/

namespace PacketLog.Toml

/-- How a table came about. -/
inductive Origin
  | header
  | onTheWay
  | dotted
  | inline
  deriving DecidableEq, Repr

/-- A value of a document, or a table or a row of tables made by headers. A date or time is kept as
it is written. -/
inductive Node
  | string (text : String)
  | integer (value : Int)
  | float (value : FloatValue)
  | boolean (value : Bool)
  | datetime (text : String)
  | array (items : List Node)
  | table (origin : Origin) (entries : List (String × Node))
  | tables (items : List (List (String × Node)))

/-- The entries of a table, in the order they were made. -/
abbrev Entries := List (String × Node)

namespace Entries

/-- Puts a node in the place of the one under a key. -/
def replace (entries : Entries) (key : String) (node : Node) : Entries :=
  entries.map fun entry => if entry.1 == key then (key, node) else entry

/-- Removes the entry under a key. -/
def remove (entries : Entries) (key : String) : Entries := entries.filter (·.1 != key)

/-- Changes the table at the end of a path, making tables of origin `made` for the steps that do not
exist. A row of tables stands for its last one. Values cannot be stepped into, and a dotted key
cannot step into a table that has a header. -/
def descend (made : Origin) (change : Origin → Entries → Option Entries) :
    (path : List String) → Origin → Entries → Option Entries
  | [], origin, entries => change origin entries
  | key :: path, _, entries =>
      match entries.lookup key with
      | none => do
          let inner ← descend made change path made []
          some (entries ++ [(key, .table made inner)])
      | some (.table origin inner) =>
          if origin = .inline ∨ (made = .dotted ∧ origin = .header) then none
          else do
            let inner ← descend made change path origin inner
            some (entries.replace key (.table origin inner))
      | some (.tables items) => do
          let inner ← descend made change path .header (← items.getLast?)
          some (entries.replace key (.tables (items.dropLast ++ [inner])))
      | some _ => none

/-- Enters a value under a dotted key. Only a table made by a dotted key can be reached by one that
has more than one part, and only that way. -/
def define (entries : Entries) (path : List String) (key : String) (value : Node) :
    Option Entries :=
  descend .dotted (fun origin entries =>
    if (origin = .dotted ↔ path = []) ∨ (entries.lookup key).isSome then none
    else some (entries ++ [(key, value)])) path .header entries

end Entries

end PacketLog.Toml
