import PacketLog.Text.Bytes
import PacketLog.Timestamp.Calendar

/-! # Timestamp records

A record is one line that says when it was written, such as "timestamp:Mon, 19 Oct 2026 14:03:07
+0000". `Moment.record` writes it, `readFields?` reads back what it shows, and `readRecord?` reads
the time that it says. Years outside 0 to 9999 carry a sign, and the distance from universal time is
rounded to minutes, with half a minute going away from zero. -/

namespace PacketLog

/-- An instant, in seconds since the beginning of 1970 in universal time and nanoseconds, and the
seconds by which the clock on the wall is ahead. A leap second is the second before it with a
thousand million nanoseconds more. -/
structure Moment where
  seconds : Int
  nanos : Nat
  offset : Int
  deriving DecidableEq, Repr

namespace Moment

/-- The nanoseconds of a second. -/
def second : Nat := 1000000000

/-- Whether the instant lies in a leap second. -/
def isLeap (m : Moment) : Bool := second ≤ m.nanos

/-- The year of the instant in universal time. -/
def year (m : Moment) : Int := (Date.ofDays (m.seconds / Clock.daySeconds)).year

/-- Whether a clock can show the moment: leap seconds end a minute, years have at most 18 bits and a
sign, and clocks on the wall differ from universal time by less than a day. -/
def Valid (m : Moment) : Prop :=
  m.nanos < 2 * second ∧ (m.isLeap = true → m.seconds % 60 = 59) ∧
    -262143 ≤ m.year ∧ m.year ≤ 262142 ∧ m.offset.natAbs < Clock.daySeconds

instance (m : Moment) : Decidable m.Valid := by unfold Valid; infer_instance

end Moment

/-- The names of the days of the week. -/
def weekdayNames : List (List Char) :=
  ["Sun", "Mon", "Tue", "Wed", "Thu", "Fri", "Sat"].map String.toList

/-- The names of the months. -/
def monthNames : List (List Char) :=
  ["Jan", "Feb", "Mar", "Apr", "May", "Jun", "Jul", "Aug", "Sep", "Oct", "Nov", "Dec"].map
    String.toList

/-- What every record starts with. -/
def recordMark : List Char := "timestamp:".toList

/-- A number below 100 in two digits. -/
def twoDigits (n : Nat) : List Char := [Nat.digitChar (n / 10), Nat.digitChar (n % 10)]

/-- A number in at least four digits. -/
def fourDigits (n : Nat) : List Char :=
  if n < 10000 then twoDigits (n / 100) ++ twoDigits (n % 100) else Nat.toDigits 10 n

/-- A year: four digits if they can show it, a sign and at least four digits otherwise. -/
def yearText (year : Int) : List Char :=
  if 0 ≤ year ∧ year ≤ 9999 then fourDigits year.toNat
  else (if year < 0 then '-' else '+') :: fourDigits year.natAbs

/-- A distance from universal time in whole minutes, as a sign, hours and minutes. -/
def offsetText (offset : Int) : List Char :=
  let minutes := (offset.natAbs + 30) / 60
  (if offset < 0 then '-' else '+') :: (twoDigits (minutes / 60) ++ twoDigits (minutes % 60))

/-- What a record shows: a day of the week, a date, a time of day, and the seconds by which its
clock is ahead of universal time. -/
structure RecordFields where
  weekday : Nat
  date : Date
  clock : Clock
  offset : Int
  deriving DecidableEq, Repr

/-- The part of a record after the year. -/
def clockText (clock : Clock) (offset : Int) : List Char :=
  twoDigits clock.hour ++ [':'] ++ twoDigits clock.minute ++ [':'] ++ twoDigits clock.second ++
    [' '] ++ offsetText offset ++ ['\n']

/-- The characters of a record. -/
def RecordFields.text (shown : RecordFields) : List Char :=
  recordMark ++ weekdayNames.getD shown.weekday [] ++ [',', ' '] ++ twoDigits shown.date.day ++
    [' '] ++ monthNames.getD (shown.date.month - 1) [] ++ [' '] ++ yearText shown.date.year ++
    [' '] ++ clockText shown.clock shown.offset

namespace Moment

/-- The seconds since the beginning of 1970 on the clock on the wall. -/
def wall (m : Moment) : Int := m.seconds + m.offset

/-- The day on the wall. -/
def day (m : Moment) : Int := m.wall / Clock.daySeconds

/-- The time of day on the wall. A leap second shows as the one after the last. -/
def clock (m : Moment) : Clock :=
  let clock := Clock.ofSeconds (m.wall % Clock.daySeconds).toNat
  { clock with second := clock.second + if m.isLeap then 1 else 0 }

/-- What the record of a moment shows. -/
def shown (m : Moment) : RecordFields := ⟨weekday m.day, Date.ofDays m.day, m.clock, m.offset⟩

/-- The record of a moment. -/
def record (m : Moment) : Bytes := m.shown.text.map fun c => UInt8.ofNat c.toNat

end Moment

/-- The value of a decimal digit. -/
def digit? (c : Char) : Option Nat := if c.isDigit then some (c.toNat - '0'.toNat) else none

/-- The value of two digits. -/
def readTwo? (a b : Char) : Option Nat := do return (← digit? a) * 10 + (← digit? b)

/-- The value of a row of digits, read on from `value`. -/
def readDigits? (value : Nat) : List Char → Option Nat
  | [] => some value
  | c :: rest => do readDigits? (value * 10 + (← digit? c)) rest

/-- Reads a year: four digits, or a sign and at least four digits that four alone could not show. -/
def readYear? : List Char → Option Int
  | sign :: digits =>
      if sign = '+' ∨ sign = '-' then do
        let size ← readDigits? 0 digits
        let year : Int := if sign = '-' then -size else size
        if yearText year = sign :: digits then some year else none
      else do
        let year ← readDigits? 0 (sign :: digits)
        if digits.length = 3 then some year else none
  | [] => none

/-- Reads the part of a record after the year. -/
def readClock? : List Char → Option (Clock × Int)
  | [h₁, h₂, c₁, m₁, m₂, c₂, s₁, s₂, blank, sign, z₁, z₂, z₃, z₄, ending] => do
      let clock : Clock := ⟨← readTwo? h₁ h₂, ← readTwo? m₁ m₂, ← readTwo? s₁ s₂⟩
      let minutes := (← readTwo? z₁ z₂) * 60 + (← readTwo? z₃ z₄)
      let offset : Int ←
        if sign = '+' then some ((minutes * 60 : Nat) : Int)
        else if sign = '-' then some (-((minutes * 60 : Nat) : Int)) else none
      if [c₁, c₂, blank, ending] = [':', ':', ' ', '\n'] ∧ clock.hour < 24 ∧ clock.minute < 60 ∧
          clock.second ≤ 60 then some (clock, offset)
      else none
  | _ => none

/-- Reads what a record shows. -/
def readFields? (text : List Char) : Option RecordFields :=
  match text.drop recordMark.length with
  | w₁ :: w₂ :: w₃ :: ',' :: ' ' :: d₁ :: d₂ :: ' ' :: m₁ :: m₂ :: m₃ :: ' ' :: rest => do
      let year ← readYear? (rest.takeWhile (· != ' '))
      let (clock, offset) ← readClock? ((rest.dropWhile (· != ' ')).drop 1)
      let weekday ← weekdayNames.findIdx? (· == [w₁, w₂, w₃])
      let month ← monthNames.findIdx? (· == [m₁, m₂, m₃])
      let day ← readTwo? d₁ d₂
      if text.take recordMark.length = recordMark then
        some ⟨weekday, ⟨year, month + 1, day⟩, clock, offset⟩
      else none
  | _ => none

/-- What a record says: the second of its instant, counted from the beginning of 1970 in universal
time, and the seconds by which its clock is ahead. -/
structure RecordedTime where
  seconds : Int
  offset : Int
  deriving DecidableEq, Repr

namespace RecordFields

/-- Whether the calendar has the date, on that day of the week. -/
def isConsistent (shown : RecordFields) : Bool :=
  shown.date.isReal && shown.weekday == PacketLog.weekday shown.date.toDays

/-- What a record says by what it shows. -/
def time (shown : RecordFields) : RecordedTime where
  seconds := shown.date.toDays * Clock.daySeconds + shown.clock.toSeconds - shown.offset
  offset := shown.offset

end RecordFields

/-- Reads a record, checking that its day of the week is that of its date. -/
def readRecord? (text : List Char) : Option RecordedTime :=
  ((readFields? text).filter (·.isConsistent)).map (·.time)

/-- The characters of a line, one for each byte. -/
def characters (line : Bytes) : List Char := line.map fun b => Char.ofNat b.toNat

/-- The length of a record of one of the years 0 to 9999. -/
def recordLength : Nat := 42

/-- Whether a line is a record of one of the years 0 to 9999. -/
def isRecord (line : Bytes) : Bool :=
  line.length == recordLength && (readRecord? (characters line)).isSome

end PacketLog
