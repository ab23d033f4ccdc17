import PacketLog.Proofs.Framing.Cutting
import PacketLog.Timestamp.Record

/-! # Records are lines

Whatever a clock shows, its record is put together from characters that print, which are bytes other
than a newline, and ends in the only newline it has (`Moment.isPacket_record`).
-/

namespace PacketLog

/-- A text of blanks and characters that print. -/
def Printable (text : List Char) : Prop := text.all fun c => 32 ≤ c.toNat && c.toNat < 127

instance (text : List Char) : Decidable (Printable text) := inferInstanceAs (Decidable (_ = true))

namespace Printable

private theorem append_iff {l r : List Char} : Printable (l ++ r) ↔ Printable l ∧ Printable r := by
  rw [Printable, List.all_append, Bool.and_eq_true]
  rfl

private theorem cons_iff {c : Char} {text : List Char} :
    Printable (c :: text) ↔ Printable [c] ∧ Printable text :=
  append_iff (l := [c])

/-- Printable characters lie between the space and the tilde. -/
theorem toNat_bounds {text : List Char} (prints : Printable text) {c : Char} (member : c ∈ text) :
    32 ≤ c.toNat ∧ c.toNat < 127 := by
  simpa using List.all_eq_true.mp prints c member

private theorem digitChar (n : Nat) : Printable [n.digitChar] := by
  by_cases small : n < 16
  · exact (by decide : ∀ m : Fin 16, Printable [m.val.digitChar]) ⟨n, small⟩
  · rw [Nat.digitChar_eq_star.mpr (Nat.le_of_not_lt small)]
    decide

private theorem twoDigits (n : Nat) : Printable (twoDigits n) :=
  cons_iff.mpr ⟨digitChar _, digitChar _⟩

private theorem toDigits (n : Nat) : Printable (Nat.toDigits 10 n) := by
  refine List.all_eq_true.mpr fun c member => ?_
  have digit := Nat.isDigit_of_mem_toDigits (by decide) (by decide) member
  obtain ⟨low, high⟩ := Char.isDigit_iff_toNat.mp digit
  simp only [Char.reduceToNat] at low high
  simp only [Bool.and_eq_true, decide_eq_true_eq]
  omega

private theorem fourDigits (n : Nat) : Printable (fourDigits n) := by
  unfold PacketLog.fourDigits
  split
  · exact append_iff.mpr ⟨twoDigits _, twoDigits _⟩
  · exact toDigits n

private theorem yearText (year : Int) : Printable (yearText year) := by
  unfold PacketLog.yearText
  split
  · exact fourDigits _
  · refine cons_iff.mpr ⟨?_, fourDigits _⟩
    split <;> decide

private theorem offsetText (offset : Int) : Printable (offsetText offset) := by
  unfold PacketLog.offsetText
  refine cons_iff.mpr ⟨?_, append_iff.mpr ⟨twoDigits _, twoDigits _⟩⟩
  split <;> decide

/-- A name from a list of names that print, or none. -/
theorem getD {names : List (List Char)} (all : ∀ name ∈ names, Printable name) (i : Nat) :
    Printable (names.getD i []) := by
  rw [List.getD_eq_getElem?_getD]
  cases found : names[i]? with
  | none => rfl
  | some name => exact all name (List.mem_of_getElem? found)

end Printable

/-- A record is one line. -/
theorem RecordFields.text_eq_append (shown : RecordFields) :
    ∃ line, Printable line ∧ shown.text = line ++ ['\n'] := by
  have weekday : Printable (weekdayNames.getD shown.weekday []) := .getD (by decide) _
  have month : Printable (monthNames.getD (shown.date.month - 1) []) := .getD (by decide) _
  unfold text clockText
  simp only [← List.append_assoc]
  refine ⟨_, ?_, rfl⟩
  simp only [Printable.append_iff, weekday, month, Printable.twoDigits, Printable.yearText,
    Printable.offsetText, and_true]
  decide

/-- **A record is one line.** -/
theorem Moment.isPacket_record (m : Moment) : IsPacket m.record := by
  obtain ⟨line, prints, text⟩ := m.shown.text_eq_append
  refine ⟨line.map fun c => UInt8.ofNat c.toNat, ?_, ?_⟩
  · intro member
    obtain ⟨c, present, same⟩ := List.mem_map.mp member
    have bounds := prints.toNat_bounds present
    have value := congrArg UInt8.toNat same
    simp only [UInt8.toNat_ofNat', newline, UInt8.reduceToNat] at value
    omega
  · rw [record, text, List.map_append]
    rfl

/-- The bytes of a record are the characters it was written with. -/
theorem Moment.characters_record (m : Moment) : characters m.record = m.shown.text := by
  have small : ∀ c ∈ m.shown.text, c.toNat < 127 := by
    obtain ⟨line, prints, text⟩ := m.shown.text_eq_append
    intro c member
    rw [text, List.mem_append, List.mem_singleton] at member
    obtain inside | rfl := member
    · exact (prints.toNat_bounds inside).2
    · decide
  rw [record, characters, List.map_map]
  refine (List.map_congr_left fun c member => ?_).trans (List.map_id _)
  have bound := small c member
  rw [Function.comp_apply, id, UInt8.toNat_ofNat', Nat.mod_eq_of_lt (by omega), Char.ofNat_toNat]

end PacketLog
