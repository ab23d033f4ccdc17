import PacketLog.Toml.Node

/-! # Putting a document together

A document is read line by line. The table of the last header collects entries apart from the rest
of the tree and is entered into it when the next header comes, or at the end. A header can name a
table that so far was only a step on the way to others, but no table twice.
-/

namespace PacketLog.Toml

/-- A header: the table it names, or the row of tables it adds to. -/
inductive Header
  | table (path : List String) (key : String)
  | element (path : List String) (key : String)
  deriving DecidableEq, Repr

/-- A document as far as it was read: the tree, the header whose table is being filled (none before
the first one), and the entries of that table. -/
structure Document where
  root : Entries
  header : Option Header
  current : Entries

namespace Document

/-- A document that nothing was read of. -/
def empty : Document := ⟨[], none, []⟩

/-- Enters an item into the table that is being filled. -/
def define (d : Document) (path : List String) (key : String) (value : Node) : Option Document := do
  some { d with current := ← d.current.define path key value }

/-- Enters a table into the table a header's path leads to. -/
def enter (root current : Entries) : Option Header → Option Entries
  | none => some current
  | some (.table path key) =>
      Entries.descend .onTheWay (fun _ entries =>
        match entries.lookup key with
        | none => some (entries ++ [(key, .table .header current)])
        | some _ => none) path .header root
  | some (.element path key) =>
      Entries.descend .onTheWay (fun _ entries =>
        match entries.lookup key with
        | some (.tables items) => some (entries.replace key (.tables (items ++ [current])))
        | _ => none) path .header root

/-- Enters the table that was being filled into the tree. -/
def finish (d : Document) : Option Entries := enter d.root d.current d.header

/-- Starts the table of a header. One that was only a step on the way to others keeps what it
holds; it is taken out of the tree and goes to the end of its table when it is entered again. -/
def openTable (root : Entries) (path : List String) (key : String) : Option Document := do
  let holder ← find root path
  let current ← match holder.lookup key with
    | none => some []
    | some (.table .onTheWay entries) => some entries
    | some _ => none
  let root ←
    Entries.descend .onTheWay (fun _ entries => some (entries.remove key)) path .header root
  some ⟨root, some (.table path key), current⟩
where
  /-- The entries of the table at the end of a path; none on the way to a new one. -/
  find : Entries → List String → Option Entries
    | entries, [] => some entries
    | entries, key :: path =>
        match entries.lookup key with
        | none => some []
        | some (.table .inline _) => none
        | some (.table _ inner) => find inner path
        | some (.tables items) => items.getLast?.bind (find · path)
        | some _ => none

/-- Starts a new table of a row of tables. -/
def openElement (root : Entries) (path : List String) (key : String) : Option Document := do
  let root ← Entries.descend .onTheWay (fun _ entries =>
    match entries.lookup key with
    | none => some (entries ++ [(key, .tables [])])
    | some (.tables _) => some entries
    | some _ => none) path .header root
  some ⟨root, some (.element path key), []⟩

/-- Reads a header. -/
def onHeader (d : Document) (header : Header) : Option Document := do
  let root ← d.finish
  match header with
  | .table path key => openTable root path key
  | .element path key => openElement root path key

end Document

end PacketLog.Toml
