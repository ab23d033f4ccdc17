import Mathlib.Data.List.GetD
import Mathlib.Data.List.Nodup
import PacketLog.Proofs.Framing.Delivery
import PacketLog.Proofs.Timestamp.Gregorian
import PacketLog.Proofs.Timestamp.Records

/-! # Records can be read back

For each part of a record there is a reader that gives back what was printed: numbers, years
(`readYear?_yearText`), the time of day and the distance from universal time
(`readClock?_clockText`), and names. Together they read what a record shows
(`RecordFields.readFields?_text`), which is a date of the calendar with its day of the week. Unless
it was written in a leap second, that is the second it was written in (`Moment.time_shown`).
-/

namespace PacketLog

/-! ## Numbers -/

private theorem digit?_digitChar {d : Nat} (small : d < 10) : digit? d.digitChar = some d := by
  have isDigit : d.digitChar.isDigit = true := by simpa [Nat.isDigit_digitChar] using small
  rw [digit?, if_pos isDigit]
  exact congrArg some (Nat.toNat_digitChar_sub_48_of_lt_ten small)

private theorem readTwo?_digitChar {n : Nat} (small : n < 100) :
    readTwo? (n / 10).digitChar (n % 10).digitChar = some n := by
  rw [readTwo?, digit?_digitChar (by omega), digit?_digitChar (by omega)]
  simp only [Option.bind_eq_bind, Option.bind_some, Option.pure_def, Option.some.injEq]
  omega

private theorem readDigits?_eq {text : List Char} (digits : ∀ c ∈ text, c.isDigit = true)
    (value : Nat) :
    readDigits? value text = some (Nat.ofDigitChars 10 text value) := by
  induction text generalizing value with
  | nil => rfl
  | cons c text ih =>
      have here := digits c List.mem_cons_self
      rw [readDigits?, digit?, if_pos here, Nat.ofDigitChars_cons, Nat.mul_comm 10]
      exact ih (fun d member => digits d (List.mem_cons_of_mem _ member)) _

private theorem isDigit_of_mem_twoDigits {n : Nat} (small : n < 100) {c : Char}
    (member : c ∈ twoDigits n) :
    c.isDigit = true := by
  obtain rfl | rfl : c = (n / 10).digitChar ∨ c = (n % 10).digitChar := by
    simpa [twoDigits] using member
  all_goals
    rw [Nat.isDigit_digitChar]
    exact decide_eq_true (by omega)

private theorem isDigit_of_mem_fourDigits {n : Nat} {c : Char} (member : c ∈ fourDigits n) :
    c.isDigit = true := by
  unfold fourDigits at member
  split at member
  · obtain front | back := List.mem_append.mp member
    · exact isDigit_of_mem_twoDigits (by omega) front
    · exact isDigit_of_mem_twoDigits (by omega) back
  · exact Nat.isDigit_of_mem_toDigits (by decide) (by decide) member

private theorem ofDigitChars_twoDigits {n : Nat} (small : n < 100) (value : Nat)
    (rest : List Char) :
    Nat.ofDigitChars 10 (twoDigits n ++ rest) value =
      Nat.ofDigitChars 10 rest (100 * value + n) := by
  rw [twoDigits, List.cons_append, List.cons_append, List.nil_append,
    Nat.ofDigitChars_cons_digitChar_of_lt_ten (by omega),
    Nat.ofDigitChars_cons_digitChar_of_lt_ten (by omega)]
  congr 1
  omega

private theorem readDigits?_fourDigits (n : Nat) : readDigits? 0 (fourDigits n) = some n := by
  rw [readDigits?_eq fun c member => isDigit_of_mem_fourDigits member]
  unfold fourDigits
  split
  · have back := ofDigitChars_twoDigits (n := n % 100) (by omega) (n / 100) []
    rw [List.append_nil] at back
    rw [ofDigitChars_twoDigits (by omega), Nat.mul_zero, Nat.zero_add, back, Nat.ofDigitChars_nil,
      Nat.div_add_mod]
  · rw [Nat.ofDigitChars_ten_toDigits]

/-- Four digits show what they can, and all that is larger takes more. -/
theorem length_fourDigits (n : Nat) :
    4 ≤ (fourDigits n).length ∧ ((fourDigits n).length = 4 ↔ n < 10000) := by
  unfold fourDigits
  split
  · rename_i small
    exact ⟨Nat.le_refl 4, iff_of_true rfl small⟩
  · have long : ¬(Nat.toDigits 10 n).length ≤ 4 := by
      rwa [Nat.length_toDigits_le_iff (by decide) (by decide)]
    omega

/-! ## Years -/

/-- A year takes four characters exactly if it is written without a sign. -/
theorem length_yearText (year : Int) : (yearText year).length = 4 ↔ 0 ≤ year ∧ year ≤ 9999 := by
  unfold yearText
  split
  · rename_i plain
    exact iff_of_true ((length_fourDigits _).2.mpr (by omega)) plain
  · rename_i signed
    have long := (length_fourDigits year.natAbs).1
    rw [List.length_cons]
    exact iff_of_false (by omega) signed

private theorem not_blank_of_isDigit {c : Char} (digit : c.isDigit = true) : (c != ' ') = true := by
  rw [bne_iff_ne]
  rintro rfl
  exact absurd digit (by decide)

private theorem not_blank_of_mem_yearText {year : Int} {c : Char} (member : c ∈ yearText year) :
    (c != ' ') = true := by
  unfold yearText at member
  split at member
  · exact not_blank_of_isDigit (isDigit_of_mem_fourDigits member)
  · obtain rfl | digit := List.mem_cons.mp member
    · split <;> decide
    · exact not_blank_of_isDigit (isDigit_of_mem_fourDigits digit)

/-- A sign comes first or four digits stand alone, so that a year has one text. -/
theorem readYear?_yearText (year : Int) : readYear? (yearText year) = some year := by
  by_cases plain : 0 ≤ year ∧ year ≤ 9999
  · have value := readDigits?_fourDigits year.toNat
    have length := (length_fourDigits year.toNat).2.mpr (by omega)
    have digits : ∀ c ∈ fourDigits year.toNat, c.isDigit = true :=
      fun c member => isDigit_of_mem_fourDigits member
    rw [yearText, if_pos plain]
    generalize fourDigits year.toNat = text at value length digits
    cases text with
    | nil => exact absurd length (by decide)
    | cons first rest =>
        have unsigned : ¬(first = '+' ∨ first = '-') := by
          have digit := digits first List.mem_cons_self
          rintro (rfl | rfl) <;> exact absurd digit (by decide)
        rw [readYear?, if_neg unsigned, value]
        simp only [Option.bind_eq_bind, Option.bind_some]
        rw [if_pos (Nat.succ.inj length), Int.toNat_of_nonneg plain.1]
  · have same : yearText year = (if year < 0 then '-' else '+') :: fourDigits year.natAbs := by
      rw [yearText, if_neg plain]
    by_cases negative : year < 0
    · rw [if_pos negative] at same
      have value : -(year.natAbs : Int) = year := by omega
      rw [same, readYear?, if_pos (Or.inr rfl), readDigits?_fourDigits]
      simp only [Option.bind_eq_bind, Option.bind_some, value, same, if_true]
    · rw [if_neg negative] at same
      have value : (year.natAbs : Int) = year := by omega
      rw [same, readYear?, if_pos (Or.inl rfl), readDigits?_fourDigits]
      simp only [Option.bind_eq_bind, Option.bind_some, value, same, Char.reduceEq, if_false,
        if_true]

/-! ## The time of day -/

namespace Clock

private theorem toSeconds_ofSeconds (seconds : Nat) : (ofSeconds seconds).toSeconds = seconds := by
  simp only [toSeconds, ofSeconds]
  omega

private theorem hour_ofSeconds_lt {seconds : Nat} (bound : seconds < daySeconds) :
    (ofSeconds seconds).hour < 24 :=
  Nat.div_lt_of_lt_mul bound

end Clock

/-- The distance from universal time that a record shows. -/
def shownOffset (offset : Int) : Int :=
  (if offset < 0 then -1 else 1) * ((offset.natAbs + 30) / 60 * 60 : Nat)

/-- Whole minutes are shown as they are. -/
theorem shownOffset_of_dvd {offset : Int} (whole : 60 ∣ offset) : shownOffset offset = offset := by
  unfold shownOffset
  split <;> omega

private theorem readClock?_clockText {clock : Clock} {offset : Int} (hour : clock.hour < 24)
    (minute : clock.minute < 60) (second : clock.second ≤ 60)
    (offsetBound : offset.natAbs < Clock.daySeconds) :
    readClock? (clockText clock offset) = some (clock, shownOffset offset) := by
  have minutes : (offset.natAbs + 30) / 60 / 60 < 100 := by
    unfold Clock.daySeconds at offsetBound
    omega
  have hours := Nat.div_add_mod' ((offset.natAbs + 30) / 60) 60
  simp only [clockText, offsetText, twoDigits, List.cons_append, List.nil_append]
  rw [readClock?, readTwo?_digitChar (by omega), readTwo?_digitChar (by omega),
    readTwo?_digitChar (by omega), readTwo?_digitChar minutes, readTwo?_digitChar (by omega)]
  simp only [Option.bind_eq_bind, Option.bind_some, hours, hour, minute, second, and_self, if_true]
  unfold shownOffset
  by_cases behind : offset < 0
  · simp [behind]
  · simp [behind]

/-! ## Names -/

/-- A name of three letters is found in a list in which it occurs once. -/
theorem findIdx?_getD {names : List (List Char)} (lengths : ∀ name ∈ names, name.length = 3)
    (distinct : names.Nodup) {i : Nat} (inside : i < names.length) :
    ∃ a b c, names.getD i [] = [a, b, c] ∧ names.findIdx? (· == [a, b, c]) = some i := by
  obtain ⟨a, b, c, same⟩ := List.length_eq_three.mp (lengths names[i] (List.getElem_mem inside))
  refine ⟨a, b, c, ?_, ?_⟩
  · rw [List.getD_eq_getElem _ _ inside, same]
  · rw [← same, List.findIdx?_eq_some_iff_getElem]
    refine ⟨inside, beq_self_eq_true _, fun j before found => ?_⟩
    have equal := beq_iff_eq.mp found
    rw [distinct.getElem_inj_iff] at equal
    omega

private theorem exists_weekdayName {i : Nat} (inside : i < 7) :
    ∃ a b c, weekdayNames.getD i [] = [a, b, c] ∧ weekdayNames.findIdx? (· == [a, b, c]) = some i :=
  findIdx?_getD (by decide) (by decide) inside

private theorem exists_monthName {i : Nat} (inside : i < 12) :
    ∃ a b c, monthNames.getD i [] = [a, b, c] ∧ monthNames.findIdx? (· == [a, b, c]) = some i :=
  findIdx?_getD (by decide) (by decide) inside

/-! ## Records -/

namespace RecordFields

/-- What a record has the room to show. -/
structure Fits (shown : RecordFields) : Prop where
  weekday : shown.weekday < 7
  month_pos : 1 ≤ shown.date.month
  month_le : shown.date.month ≤ 12
  day : shown.date.day < 100
  hour : shown.clock.hour < 24
  minute : shown.clock.minute < 60
  second : shown.clock.second ≤ 60
  offset : shown.offset.natAbs < Clock.daySeconds

private theorem Fits.monthIndex_lt {shown : RecordFields} (fits : shown.Fits) :
    shown.date.month - 1 < 12 :=
  Nat.lt_of_le_of_lt (Nat.sub_le_sub_right fits.month_le 1) (by decide)

/-- What a record shows is read back from it. -/
theorem readFields?_text {shown : RecordFields} (fits : shown.Fits) :
    readFields? shown.text = some { shown with offset := shownOffset shown.offset } := by
  obtain ⟨w₁, w₂, w₃, weekdayName, weekdayFound⟩ := exists_weekdayName fits.weekday
  obtain ⟨m₁, m₂, m₃, monthName, monthFound⟩ := exists_monthName fits.monthIndex_lt
  have clockRead := readClock?_clockText fits.hour fits.minute fits.second fits.offset
  -- No year has a blank in it, so that the next blank ends it.
  have yearFirst : (yearText shown.date.year ++ ' ' :: clockText shown.clock shown.offset).takeWhile
      (· != ' ') = yearText shown.date.year := by
    rw [List.takeWhile_append_of_pos fun c member => not_blank_of_mem_yearText member]
    simp
  have clockLast : (yearText shown.date.year ++ ' ' :: clockText shown.clock shown.offset).dropWhile
      (· != ' ') = ' ' :: clockText shown.clock shown.offset := by
    rw [List.dropWhile_append_of_pos fun c member => not_blank_of_mem_yearText member]
    simp
  have text : shown.text = recordMark ++ w₁ :: w₂ :: w₃ :: ',' :: ' ' ::
      (shown.date.day / 10).digitChar :: (shown.date.day % 10).digitChar :: ' ' :: m₁ :: m₂ :: m₃ ::
      ' ' :: (yearText shown.date.year ++ ' ' :: clockText shown.clock shown.offset) := by
    rw [RecordFields.text, weekdayName, monthName, twoDigits]
    simp only [List.append_assoc, List.cons_append, List.nil_append]
  rw [text, readFields?, List.drop_left, List.take_left]
  simp only [yearFirst, clockLast, List.drop_one, List.tail_cons, readYear?_yearText, clockRead,
    weekdayFound, monthFound, readTwo?_digitChar fits.day, Option.bind_eq_bind, Option.bind_some,
    if_true, Nat.sub_add_cancel fits.month_pos]

/-- A record is as long as its year makes it. -/
theorem length_text {shown : RecordFields} (fits : shown.Fits) :
    shown.text.length = 38 + (yearText shown.date.year).length := by
  obtain ⟨w₁, w₂, w₃, weekdayName, -⟩ := exists_weekdayName fits.weekday
  obtain ⟨m₁, m₂, m₃, monthName, -⟩ := exists_monthName fits.monthIndex_lt
  have mark : recordMark.length = 10 := by decide
  rw [RecordFields.text, weekdayName, monthName]
  simp only [clockText, offsetText, twoDigits, List.length_append, List.length_cons,
    List.length_nil, mark]
  omega

private theorem recordMark_isPrefix_text (shown : RecordFields) : recordMark <+: shown.text := by
  simp only [RecordFields.text, List.append_assoc]
  exact List.prefix_append _ _

end RecordFields

namespace Moment

private theorem secondOfDay_lt (m : Moment) :
    (m.wall % Clock.daySeconds).toNat < Clock.daySeconds := by
  unfold Clock.daySeconds
  omega

/-- What a moment shows fits into a record. -/
theorem shown_fits {m : Moment} (valid : m.Valid) : m.shown.Fits where
  weekday := by
    simp only [shown, weekday]
    omega
  month_pos := (Date.gregorian_ofDays m.day).month_pos
  month_le := (Date.gregorian_ofDays m.day).month_le
  day := by
    have inside := (Date.gregorian_ofDays m.day).day_le
    exact Nat.lt_of_le_of_lt (inside.trans (Date.monthLength_bounds _ _).2) (by decide)
  hour := Clock.hour_ofSeconds_lt m.secondOfDay_lt
  minute := Nat.mod_lt _ (by decide)
  second := by
    have second : (m.wall % Clock.daySeconds).toNat % 60 < 60 := Nat.mod_lt _ (by decide)
    simp only [shown, clock, Clock.ofSeconds]
    split <;> omega
  offset := valid.2.2.2.2

/-- What a record shows is the second it was written in, unless that was a leap second. -/
theorem time_shown {m : Moment} (plain : m.isLeap = false) :
    m.shown.time = ⟨m.seconds, m.offset⟩ := by
  have clock : m.clock.toSeconds = (m.wall % Clock.daySeconds).toNat := by
    simp only [Moment.clock, plain, Bool.false_eq_true, if_false, Nat.add_zero]
    exact Clock.toSeconds_ofSeconds _
  have days := Int.mul_ediv_add_emod m.wall Clock.daySeconds
  have rest : 0 ≤ m.wall % Clock.daySeconds := Int.emod_nonneg _ (by decide)
  simp only [RecordFields.time, shown, Date.toDays_ofDays, clock, day, RecordedTime.mk.injEq,
    and_true, Int.toNat_of_nonneg rest]
  rw [Int.mul_comm, days, wall, Int.add_sub_cancel]

/-- What a moment shows is consistent. -/
theorem isConsistent_shown (m : Moment) : m.shown.isConsistent = true := by
  rw [RecordFields.isConsistent, Bool.and_eq_true, beq_iff_eq, Date.isReal_iff]
  refine ⟨Date.gregorian_ofDays _, ?_⟩
  rw [shown, Date.toDays_ofDays]

private theorem readRecord?_shown {m : Moment} (valid : m.Valid) (plain : m.isLeap = false)
    (whole : 60 ∣ m.offset) : readRecord? m.shown.text = some ⟨m.seconds, m.offset⟩ := by
  have same : { m.shown with offset := shownOffset m.shown.offset } = m.shown := by
    rw [shown, shownOffset_of_dvd whole]
  rw [readRecord?, RecordFields.readFields?_text (shown_fits valid), same,
    Option.filter_some_pos m.isConsistent_shown, Option.map_some, time_shown plain]

/-- **A record is a line that tells the time.** Whatever the clock shows, be it in a leap second or
at an odd distance from universal time, the record starts with the mark and is one packet, which an
assembler passes on as it comes. It has 42 bytes just in the years that four digits can show. Read
back, it shows the date and the time on the wall, and the day of the week on which that date of the
calendar falls. If the clock was ahead by whole minutes and it was no leap second, the record says
the second it was written in and by how much the clock was ahead, so that records of different ones
differ. -/
theorem record_tells_time {m : Moment} (valid : m.Valid) :
    (recordMark <+: characters m.record ∧ IsPacket m.record ∧ cut m.record = ([m.record], []) ∧
      (∀ a : Assembler, a.pending = [] → m.record.length ≤ a.limit → ∀ rest,
        (a.feed (m.record ++ rest)).1 = ⟨.ok (some m.record), rest⟩) ∧
      (m.record.length = recordLength ↔
        0 ≤ (Date.ofDays m.day).year ∧ (Date.ofDays m.day).year ≤ 9999)) ∧
    (∃ shown, readFields? (characters m.record) = some shown ∧ shown.date = Date.ofDays m.day ∧
      shown.clock = m.clock ∧ shown.date.Gregorian ∧
      shown.weekday = weekday shown.date.toDays) ∧
    (m.isLeap = false → 60 ∣ m.offset →
      readRecord? (characters m.record) = some ⟨m.seconds, m.offset⟩ ∧
      ∀ other : Moment, other.Valid → other.isLeap = false → 60 ∣ other.offset →
        other.record = m.record → other.seconds = m.seconds ∧ other.offset = m.offset) := by
  have line := m.isPacket_record
  rw [characters_record]
  refine ⟨⟨m.shown.recordMark_isPrefix_text, line, ?_, ?_, ?_⟩, ?_, ?_⟩
  · have alone := cut_packet_append line []
    rwa [List.append_nil, cut_of_not_mem List.not_mem_nil] at alone
  · intro a idle within rest
    exact Assembler.feed_packet idle line within rest
  · have length : m.record.length = 38 + (yearText (Date.ofDays m.day).year).length := by
      rw [record, List.length_map]
      exact RecordFields.length_text (shown_fits valid)
    rw [length, recordLength, ← length_yearText]
    omega
  · have read := RecordFields.readFields?_text (shown_fits valid)
    refine ⟨_, read, rfl, rfl, Date.gregorian_ofDays m.day, ?_⟩
    exact congrArg weekday (Date.toDays_ofDays m.day).symm
  · intro plain whole
    have read := readRecord?_shown valid plain whole
    refine ⟨read, fun other otherValid otherPlain otherWhole same => ?_⟩
    have otherRead := readRecord?_shown otherValid otherPlain otherWhole
    rw [← characters_record, same, characters_record, read] at otherRead
    obtain ⟨seconds, offset⟩ := RecordedTime.mk.inj (Option.some.inj otherRead)
    exact ⟨seconds.symm, offset.symm⟩

/-- At half past midnight the year 10000 has begun in universal time, but not an hour behind. -/
theorem record_of_the_last_hour :
    let m : Moment := ⟨253402302600, 0, -3600⟩
    let universal : Moment := ⟨253402302600, 0, 0⟩
    m.Valid ∧ universal.Valid ∧ m.isLeap = false ∧ 60 ∣ m.offset ∧
      m.shown.text = "timestamp:Fri, 31 Dec 9999 23:30:00 -0100\n".toList ∧
      m.record.length = recordLength ∧ universal.record.length ≠ recordLength ∧
      readRecord? (characters m.record) = some ⟨253402302600, -3600⟩ := by
  intro m universal
  have valid : m.Valid := by decide
  have universalValid : universal.Valid := by decide
  have plain : m.isLeap = false := by decide
  have whole : 60 ∣ m.offset := by decide
  have year : (Date.ofDays m.day).year = 9999 := by decide
  have universalYear : (Date.ofDays universal.day).year = 10000 := by decide
  obtain ⟨⟨-, -, -, -, length⟩, -, reads⟩ := record_tells_time valid
  obtain ⟨⟨-, -, -, -, universalLength⟩, -, -⟩ := record_tells_time universalValid
  rw [year] at length
  rw [universalYear] at universalLength
  exact ⟨valid, universalValid, plain, whole, by decide, length.mpr (by decide),
    fun same => absurd (universalLength.mp same).2 (by decide), (reads plain whole).1⟩

end Moment

end PacketLog
