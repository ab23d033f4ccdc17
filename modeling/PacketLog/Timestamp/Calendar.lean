/-! # The calendar

Days are counted from 1 January 1970 and dates follow the Gregorian rules without end in both
directions. `Date.ofDays` and `Date.toDays` convert between the two: both let a year start in March,
so that a leap day is the last of its year, and work in cycles of 400 years, which all have the same
number of days.
-/

namespace PacketLog

/-- A date. Years before the year 1 are counted down through 0. -/
structure Date where
  year : Int
  month : Nat
  day : Nat
  deriving DecidableEq, Repr

namespace Date

/-- The days in a cycle of 400 years. -/
def cycleDays : Nat := 146097

/-- The days from 1 March of the year 0 to 1 January 1970. -/
def epochDays : Int := 719468

/-- The days of a cycle that pass before the given one of its years starts. -/
def daysBeforeYear (year : Nat) : Nat := 365 * year + year / 4 - year / 100

/-- The year of a cycle that a day of it lies in. -/
def yearOfCycleDay (day : Nat) : Nat :=
  (day - day / 1460 + day / 36524 - day / 146096) / 365

/-- The days of a year, counted from March, that pass before the given month of it. -/
def daysBeforeMonth (month : Nat) : Nat := (153 * month + 2) / 5

/-- The month, counted from March, that a day of a year lies in. -/
def monthOfYearDay (day : Nat) : Nat := (5 * day + 2) / 153

/-- The date of a day. -/
def ofDays (days : Int) : Date :=
  let sinceStart := days + epochDays
  let cycle := sinceStart / cycleDays
  let cycleDay := (sinceStart % cycleDays).toNat
  let year := yearOfCycleDay cycleDay
  let yearDay := cycleDay - daysBeforeYear year
  let month := monthOfYearDay yearDay
  { year := cycle * 400 + year + (if month < 10 then 0 else 1)
    month := if month < 10 then month + 3 else month - 9
    day := yearDay - daysBeforeMonth month + 1 }

/-- The day of a date. -/
def toDays (date : Date) : Int :=
  let month := if date.month < 3 then date.month + 9 else date.month - 3
  let year := if date.month < 3 then date.year - 1 else date.year
  let cycleYear := (year % 400).toNat
  let cycleDay := daysBeforeYear cycleYear + daysBeforeMonth month + (date.day - 1)
  year / 400 * cycleDays + cycleDay - epochDays

/-- Whether a date is one of the calendar: its day leads back to it. -/
def isReal (date : Date) : Bool := ofDays date.toDays == date

end Date

/-- The day of the week, counted from Sunday. -/
def weekday (days : Int) : Nat := ((days + 4) % 7).toNat

/-- A time of day to the second. -/
structure Clock where
  hour : Nat
  minute : Nat
  second : Nat
  deriving DecidableEq, Repr

namespace Clock

/-- The seconds of a day. -/
def daySeconds : Nat := 86400

/-- The time a number of seconds after midnight. -/
def ofSeconds (seconds : Nat) : Clock :=
  ⟨seconds / 3600, seconds / 60 % 60, seconds % 60⟩

/-- The seconds since midnight. -/
def toSeconds (clock : Clock) : Nat := clock.hour * 3600 + clock.minute * 60 + clock.second

end Clock

end PacketLog
