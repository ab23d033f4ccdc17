import Mathlib.Tactic.IntervalCases
import PacketLog.Timestamp.Calendar

/-! # The calendar is the Gregorian one

`Date.ofDays` and `Date.toDays` compute with cycles of 400 years and years that start in March. Here
the calendar is what the almanac says it is: months have their lengths, of which February's depends
on the leap years (`Date.monthLength`), and after each date comes the next (`Date.next`). The dates
that exist are the `Date.Gregorian` ones. `Date.toDays` numbers them without a gap
(`Date.toDays_next`) and `Date.ofDays` is its inverse (`Date.ofDays_toDays`, `Date.toDays_ofDays`),
for all days before and after 1970.
-/

namespace PacketLog

namespace Date

/-- Whether a year has a leap day: every fourth has one, but of those that end a century only every
fourth. -/
def IsLeapYear (year : Int) : Prop := year % 4 = 0 ∧ (year % 100 ≠ 0 ∨ year % 400 = 0)

instance (year : Int) : Decidable (IsLeapYear year) := inferInstanceAs (Decidable (_ ∧ _))

/-- The days of a month. -/
def monthLength (year : Int) : Nat → Nat
  | 2 => if IsLeapYear year then 29 else 28
  | 4 | 6 | 9 | 11 => 30
  | _ => 31

/-- The dates that exist. -/
structure Gregorian (date : Date) : Prop where
  month_pos : 1 ≤ date.month
  month_le : date.month ≤ 12
  day_pos : 1 ≤ date.day
  day_le : date.day ≤ monthLength date.year date.month

/-- The date of the day after. -/
def next (date : Date) : Date :=
  if date.day < monthLength date.year date.month then { date with day := date.day + 1 }
  else if date.month < 12 then ⟨date.year, date.month + 1, 1⟩
  else ⟨date.year + 1, 1, 1⟩

/-- A month has at least one day and no more than 31. -/
theorem monthLength_bounds (year : Int) (month : Nat) :
    1 ≤ monthLength year month ∧ monthLength year month ≤ 31 := by
  unfold monthLength
  split
  · split <;> decide
  all_goals decide

private theorem Gregorian.next {date : Date} (real : Gregorian date) : Gregorian date.next := by
  unfold Date.next
  split
  · rename_i more
    exact ⟨real.month_pos, real.month_le, Nat.succ_pos _, more⟩
  · split
    · rename_i more
      exact ⟨Nat.succ_pos _, more, Nat.le_refl 1, (monthLength_bounds _ _).1⟩
    · exact ⟨Nat.le_refl 1, Nat.le_add_left 1 11, Nat.le_refl 1, (monthLength_bounds _ _).1⟩

/-! ## Years that start in March -/

/-- The days from 1 March of the year 0 to 1 March of the given one. -/
def daysBeforeMarch (year : Int) : Int := year / 400 * cycleDays + daysBeforeYear (year % 400).toNat

/-- The year a date lies in when years start in March. -/
def marchYear (date : Date) : Int := if date.month < 3 then date.year - 1 else date.year

/-- The month of a date, counted from March. -/
def marchMonth (date : Date) : Nat := if date.month < 3 then date.month + 9 else date.month - 3

/-- The days of a date's year, counted from March, that have passed before the date. -/
def yearDay (date : Date) : Nat := daysBeforeMonth date.marchMonth + (date.day - 1)

private theorem toDays_eq (date : Date) :
    date.toDays = daysBeforeMarch date.marchYear + date.yearDay - epochDays := by
  unfold toDays daysBeforeMarch yearDay marchYear marchMonth
  split <;> push_cast <;> omega

/-- The leap day is the last day of its year. -/
theorem daysBeforeMarch_succ (year : Int) :
    daysBeforeMarch (year + 1) =
      daysBeforeMarch year + if IsLeapYear (year + 1) then 366 else 365 := by
  unfold daysBeforeMarch daysBeforeYear cycleDays
  by_cases leap : IsLeapYear (year + 1)
  · rw [if_pos leap]
    unfold IsLeapYear at leap
    omega
  · rw [if_neg leap]
    unfold IsLeapYear at leap
    omega

/-- Up to January the months have the days that pass between their starts. -/
theorem daysBeforeMonth_succ {date : Date} (real : Gregorian date) (whole : date.month ≠ 2) :
    daysBeforeMonth (date.marchMonth + 1) =
      daysBeforeMonth date.marchMonth + monthLength date.year date.month := by
  obtain ⟨year, month, day⟩ := date
  obtain ⟨low, high, -, -⟩ := real
  simp only at low high whole ⊢
  interval_cases month <;> simp [marchMonth, daysBeforeMonth, monthLength] at whole ⊢

/-- What comes after a month up to January is the first of the next one of the same year. -/
theorem next_of_full {date : Date} (real : Gregorian date)
    (full : monthLength date.year date.month ≤ date.day) (whole : date.month ≠ 2) :
    date.next.marchYear = date.marchYear ∧ date.next.marchMonth = date.marchMonth + 1 ∧
      date.next.day = 1 := by
  have low := real.month_pos
  have high := real.month_le
  unfold next marchYear marchMonth
  rw [if_neg (Nat.not_lt.mpr full)]
  by_cases december : date.month < 12
  · rw [if_pos december]
    grind
  · rw [if_neg december]
    grind

/-- The day after has the next number. -/
theorem toDays_next {date : Date} (real : Gregorian date) : date.next.toDays = date.toDays + 1 := by
  have first := real.day_pos
  rw [toDays_eq, toDays_eq]
  by_cases more : date.day < monthLength date.year date.month
  · rw [next, if_pos more]
    unfold yearDay marchYear marchMonth
    dsimp only
    omega
  have full := Nat.le_of_not_lt more
  have length := Nat.le_antisymm real.day_le full
  by_cases february : date.month = 2
  · have years := daysBeforeMarch_succ (date.year - 1)
    rw [Int.sub_add_cancel] at years
    rw [february, monthLength] at length
    rw [next, if_neg more, if_pos (by omega)]
    unfold yearDay marchYear marchMonth daysBeforeMonth
    simp only [february, Nat.reduceAdd, Nat.reduceLT, if_false, if_true]
    rw [years, length]
    split <;> omega
  · have months := daysBeforeMonth_succ real february
    obtain ⟨sameYear, nextMonth, starts⟩ := next_of_full real full february
    rw [sameYear, yearDay, nextMonth, starts, yearDay, months]
    omega

/-! ## The date of a day -/

/-- The days of a cycle by century, group of four years, year and day of the year. Of the three
corrections, the first takes back the leap days of whole groups, possibly with one that is still to
come; the second gives back those that the ends of centuries lack. -/
theorem yearOfCycleDay_eq {c q s day : Nat} (century : c < 4) (group : q < 25) (year : s < 4)
    (bound : day ≤ 365) (leap : day = 365 → s = 3 ∧ (q = 24 → c = 3)) :
    yearOfCycleDay (36524 * c + 1461 * q + 365 * s + day) = 100 * c + 4 * q + s := by
  -- Only the very last day of the cycle lies past its fourth whole century.
  have centuries : (36524 * c + 1461 * q + 365 * s + day) / 36524 =
      c + if c = 3 ∧ q = 24 ∧ s = 3 ∧ day = 365 then 1 else 0 := by
    split <;> omega
  have cycles : (36524 * c + 1461 * q + 365 * s + day) / 146096 =
      if c = 3 ∧ q = 24 ∧ s = 3 ∧ day = 365 then 1 else 0 := by
    split <;> omega
  have groups : (36524 * c + 1461 * q + 365 * s + day) / 1460 =
      25 * c + q + if 24 * c + q + 365 * s + day < 1460 then 0 else 1 := by
    split <;> omega
  rw [yearOfCycleDay, centuries, cycles, groups]
  split <;> split <;> omega

/-- The days of a cycle by its years, each of which is found on each of its days. -/
theorem yearOfCycleDay_add {year : Int} {day : Nat}
    (bound : day < if IsLeapYear (year + 1) then 366 else 365) :
    daysBeforeYear (year % 400).toNat + day < cycleDays ∧
      yearOfCycleDay (daysBeforeYear (year % 400).toNat + day) = (year % 400).toNat := by
  have leap : day ≤ 365 ∧
      (day = 365 → (year + 1) % 4 = 0 ∧ ((year + 1) % 100 = 0 → (year + 1) % 400 = 0)) := by
    split at bound
    · rename_i leap
      unfold IsLeapYear at leap
      omega
    · omega
  generalize place : (year % 400).toNat = n
  have inside : n < 400 := by omega
  have before : daysBeforeYear n = 36524 * (n / 100) + 1461 * (n % 100 / 4) + 365 * (n % 4) := by
    unfold daysBeforeYear
    omega
  have ends : day = 365 → n % 4 = 3 ∧ (n % 100 / 4 = 24 → n / 100 = 3) := by omega
  rw [before, yearOfCycleDay_eq (by omega) (by omega) (by omega) leap.1 ends]
  unfold cycleDays
  omega

private theorem marchMonth_lt {date : Date} (real : Gregorian date) (whole : date.month ≠ 2) :
    date.marchMonth < 11 := by
  have low := real.month_pos
  have high := real.month_le
  unfold marchMonth
  split <;> omega

/-- February ends with the year, and long before the month after it would. -/
theorem yearDay_lt {date : Date} (real : Gregorian date) :
    date.yearDay < daysBeforeMonth (date.marchMonth + 1) ∧
      date.yearDay < if IsLeapYear (date.marchYear + 1) then 366 else 365 := by
  have first := real.day_pos
  have last := real.day_le
  by_cases february : date.month = 2
  · unfold yearDay marchMonth marchYear
    simp only [february, Nat.reduceLT, Nat.reduceAdd, if_true, Int.sub_add_cancel, daysBeforeMonth]
    rw [february, monthLength] at last
    split at last <;> split <;> omega
  · have months := daysBeforeMonth_succ real february
    have early := marchMonth_lt real february
    have inside : date.yearDay < daysBeforeMonth (date.marchMonth + 1) := by
      rw [yearDay, months]
      omega
    refine ⟨inside, Nat.lt_of_lt_of_le inside ?_⟩
    unfold daysBeforeMonth
    split <;> omega

/-- The month is found on each of its days. -/
theorem monthOfYearDay_yearDay {date : Date} (real : Gregorian date) :
    monthOfYearDay date.yearDay = date.marchMonth := by
  have below := (yearDay_lt real).1
  have above : daysBeforeMonth date.marchMonth ≤ date.yearDay := Nat.le_add_right _ _
  unfold daysBeforeMonth at below above
  unfold monthOfYearDay
  omega

/-- A date from the year it lies in, its month and its day of the year, counted from March. -/
theorem eq_of_march {date : Date} (real : Gregorian date) :
    date = ⟨date.marchYear + if date.marchMonth < 10 then 0 else 1,
      if date.marchMonth < 10 then date.marchMonth + 3 else date.marchMonth - 9,
      date.yearDay - daysBeforeMonth date.marchMonth + 1⟩ := by
  obtain ⟨year, month, day⟩ := date
  obtain ⟨low, high, first, -⟩ := real
  unfold yearDay marchYear marchMonth
  dsimp only at *
  by_cases early : month < 3
  · rw [if_pos early, if_pos early, if_neg (by omega), if_neg (by omega)]
    congr 1 <;> omega
  · rw [if_neg early, if_neg early, if_pos (by omega), if_pos (by omega)]
    congr 1 <;> omega

/-- A day has one date. -/
theorem ofDays_toDays {date : Date} (real : Gregorian date) : ofDays date.toDays = date := by
  obtain ⟨within, year⟩ := yearOfCycleDay_add (yearDay_lt real).2
  have sinceStart : date.toDays + epochDays = daysBeforeMarch date.marchYear + date.yearDay := by
    rw [toDays_eq, Int.sub_add_cancel]
  have cycle : (date.toDays + epochDays) / cycleDays = date.marchYear / 400 := by
    rw [sinceStart, daysBeforeMarch]
    unfold cycleDays at *
    omega
  have cycleDay : ((date.toDays + epochDays) % cycleDays).toNat =
      daysBeforeYear (date.marchYear % 400).toNat + date.yearDay := by
    rw [sinceStart, daysBeforeMarch]
    unfold cycleDays at *
    omega
  have years : date.marchYear / 400 * 400 + (date.marchYear % 400).toNat = date.marchYear := by
    omega
  rw [ofDays]
  simp only [cycle, cycleDay, year, Nat.add_sub_cancel_left, monthOfYearDay_yearDay real, years]
  exact (eq_of_march real).symm

/-- Every day has a date: it is reached day by day from the start of a cycle before it. -/
theorem exists_gregorian (days : Int) : ∃ date, Gregorian date ∧ date.toDays = days := by
  have reached (start : Nat) (steps : Nat) :
      ∃ date, Gregorian date ∧ date.toDays = steps - start * cycleDays := by
    induction steps with
    | zero =>
        refine ⟨⟨1970 - 400 * start, 1, 1⟩,
          ⟨by simp, by simp, by simp, (monthLength_bounds _ _).1⟩, ?_⟩
        rw [toDays_eq]
        unfold daysBeforeMarch yearDay marchYear marchMonth daysBeforeYear daysBeforeMonth cycleDays
          epochDays
        simp only [Nat.reduceLT, if_true]
        omega
    | succ steps ih =>
        obtain ⟨date, real, same⟩ := ih
        refine ⟨date.next, real.next, ?_⟩
        rw [toDays_next real, same]
        omega
  obtain ⟨date, real, same⟩ := reached days.natAbs (days + days.natAbs * cycleDays).toNat
  refine ⟨date, real, same.trans ?_⟩
  unfold cycleDays
  omega

/-- Every day has a date of the calendar. -/
theorem gregorian_ofDays (days : Int) : Gregorian (ofDays days) := by
  obtain ⟨date, real, rfl⟩ := exists_gregorian days
  rwa [ofDays_toDays real]

/-- **Every day has a date.** -/
theorem toDays_ofDays (days : Int) : (ofDays days).toDays = days := by
  obtain ⟨date, real, rfl⟩ := exists_gregorian days
  rw [ofDays_toDays real]

/-- The dates that are told to be real are those of the calendar. -/
theorem isReal_iff {date : Date} : date.isReal = true ↔ Gregorian date := by
  rw [isReal, beq_iff_eq]
  constructor
  · intro same
    rw [← same]
    exact gregorian_ofDays _
  · exact ofDays_toDays

/-- **The calendar is the Gregorian one**: each day has the date after that of the day before. -/
theorem ofDays_succ (days : Int) : ofDays (days + 1) = (ofDays days).next := by
  obtain ⟨date, real, rfl⟩ := exists_gregorian days
  rw [← toDays_next real, ofDays_toDays real, ofDays_toDays real.next]

example : ofDays 0 = ⟨1970, 1, 1⟩ := by decide

end Date

/-- Each day falls on the day of the week after that of the day before. -/
theorem weekday_succ (days : Int) : weekday (days + 1) = (weekday days + 1) % 7 := by
  unfold weekday
  omega

end PacketLog
