import PacketLog.Journal.Filter
import PacketLog.Storage.Storage

/-! # The journal

A `Journal` shows the notices that pass its filter, one line each: the time, the severity and the
text. It is kept in a file that is opened once, so that it stays the same file whatever becomes of
its path or of the working directory, or else it goes to the terminal and leaves no trace in the
storage.
-/

namespace PacketLog

namespace Moment

/-- A moment in universal time to the microsecond, as in "2026-10-19T14:03:07.250000Z". -/
def stampText (m : Moment) : List Char :=
  let universal : Moment := { m with offset := 0 }
  let date := Date.ofDays universal.day
  let clock := universal.clock
  let micros := m.nanos % second / 1000
  yearText date.year ++ ['-'] ++ twoDigits date.month ++ ['-'] ++ twoDigits date.day ++ ['T'] ++
    twoDigits clock.hour ++ [':'] ++ twoDigits clock.minute ++ [':'] ++ twoDigits clock.second ++
    ['.'] ++ twoDigits (micros / 10000) ++ twoDigits (micros / 100 % 100) ++
    twoDigits (micros % 100) ++ ['Z']

end Moment

/-- A filter, and the place of the file that the journal is kept in, if there is one. -/
structure Journal where
  filter : Filter
  file : Option Location
  deriving DecidableEq, Repr

namespace Journal

/-- The filter to use: the one that the environment asks for, if it makes sense, and otherwise what
can be made of the configured level. Answers also the complaints about that level. -/
def chooseFilter (asked : Option String) (level : String) : Filter × List String :=
  match asked.bind Filter.strict? with
  | some filter => (filter, [])
  | none => Filter.lenient level

/-- Opens a journal, creating its file if there is none. -/
def open? (filter : Filter) (path : Option Path) (s : Storage) :
    Except IoError (Journal × Storage) :=
  match path with
  | none => .ok (⟨filter, none⟩, s)
  | some path => do
      let (tree, location, _) ← Storage.onPath path (s.tree.lookupOrCreate s.cwd path)
      return (⟨filter, some location⟩, s.withTree tree)

/-- The width of the column that severities stand in. -/
def severityWidth : Nat := 5

/-- The line that shows a notice, without the end of the line. -/
def line (moment : Moment) (notice : Notice) : String :=
  let severity := notice.severity.name.toList
  let gap := List.replicate (severityWidth - severity.length) ' '
  String.ofList (moment.stampText ++ [' '] ++ gap ++ severity ++ [' ']) ++ notice.text

/-- Shows a notice, if it passes the filter. -/
def write (journal : Journal) (moment : Moment) (s : Storage) (notice : Notice) : Storage :=
  match journal.file with
  | some location =>
      if journal.filter.shows notice then
        s.extend location (Bytes.ofString (line moment notice) ++ [newline])
      else s
  | none => s

/-- Shows notices one after another. -/
def writeAll (journal : Journal) (moment : Moment) (s : Storage) (notices : List Notice) :
    Storage :=
  notices.foldl (journal.write moment) s

end Journal

end PacketLog
