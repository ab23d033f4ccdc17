import PacketLog.Text.Bytes

/-! # Reading bytes as UTF-8

`Utf8.pieces` splits a byte string into characters and ill-formed runs, a run being the longest
stretch that begins a character but cannot complete it. A text is accepted when no run is
ill-formed (`Utf8.decode?`), and shown with one replacement character for each run otherwise
(`Utf8.display`).
-/

namespace PacketLog.Utf8

/-- What a first byte promises: how many bytes follow it, the least and greatest value of the next
one, and the bits of the character it carries itself. -/
structure Lead where
  following : Nat
  low : UInt8
  high : UInt8
  bits : Nat

/-- The promise of a first byte, or nothing when no character starts with it. -/
def Lead.ofByte? (b : UInt8) : Option Lead :=
  if b ≤ 0x7F then some ⟨0, 0x80, 0xBF, b.toNat⟩
  else if b < 0xC2 then none
  else if b ≤ 0xDF then some ⟨1, 0x80, 0xBF, b.toNat - 0xC0⟩
  else if b = 0xE0 then some ⟨2, 0xA0, 0xBF, 0⟩
  else if b = 0xED then some ⟨2, 0x80, 0x9F, 13⟩
  else if b ≤ 0xEF then some ⟨2, 0x80, 0xBF, b.toNat - 0xE0⟩
  else if b = 0xF0 then some ⟨3, 0x90, 0xBF, 0⟩
  else if b ≤ 0xF3 then some ⟨3, 0x80, 0xBF, b.toNat - 0xF0⟩
  else if b = 0xF4 then some ⟨3, 0x80, 0x8F, 4⟩
  else none

/-- Reads the bytes owed after a first byte. The character is missing when one of them is out of
range, and that byte is then left in place. -/
def follow : (owed : Nat) → (low high : UInt8) → (bits : Nat) → Bytes → Option Char × Bytes
  | 0, _, _, bits, rest => (some (Char.ofNat bits), rest)
  | _ + 1, _, _, _, [] => (none, [])
  | owed + 1, low, high, bits, b :: rest =>
      if low ≤ b ∧ b ≤ high then follow owed 0x80 0xBF (bits * 64 + (b.toNat - 0x80)) rest
      else (none, b :: rest)

private theorem follow_length_le (owed : Nat) (low high : UInt8) (bits : Nat) (bytes : Bytes) :
    (follow owed low high bits bytes).2.length ≤ bytes.length := by
  induction owed generalizing low high bits bytes with
  | zero => simp [follow]
  | succ owed ih =>
      cases bytes with
      | nil => simp [follow]
      | cons b rest =>
          rw [follow]
          split
          · exact Nat.le_succ_of_le (ih ..)
          · simp

/-- The character that starts with `b`, if there is one, and what is left after it or after the
ill-formed run. -/
def piece (b : UInt8) (rest : Bytes) : Option Char × Bytes :=
  match Lead.ofByte? b with
  | none => (none, rest)
  | some lead => follow lead.following lead.low lead.high lead.bits rest

/-- A piece leaves no more bytes than it was taken from. -/
theorem piece_length_le (b : UInt8) (rest : Bytes) : (piece b rest).2.length ≤ rest.length := by
  unfold piece
  split
  · simp
  · exact follow_length_le ..

/-- The characters of a byte string in order, with `none` for every ill-formed run. -/
def pieces : Bytes → List (Option Char)
  | [] => []
  | b :: rest => (piece b rest).1 :: pieces (piece b rest).2
termination_by bytes => bytes.length
decreasing_by exact Nat.lt_succ_of_le (piece_length_le b rest)

/-- The text of a well-formed byte string. -/
def decode? (bytes : Bytes) : Option String :=
  ((pieces bytes).mapM id).map String.ofList

/-- The text of a byte string, with U+FFFD for every ill-formed run. -/
def display (bytes : Bytes) : String :=
  String.ofList ((pieces bytes).map (·.getD (Char.ofNat 0xFFFD)))

end PacketLog.Utf8
