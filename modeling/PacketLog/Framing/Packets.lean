import PacketLog.Text.Bytes

/-! # Cutting bytes into packets

A packet is a stretch of bytes that ends in its only newline. `splitPacket?` cuts the first one off
a byte string, and `cut` cuts a whole stream into its packets and the tail that no newline has ended
yet.
-/

namespace PacketLog

/-- The first packet of a byte string and what follows it, if a newline ends one. -/
def splitPacket? (bytes : Bytes) : Option (Bytes × Bytes) :=
  match bytes.dropWhile (· != newline) with
  | [] => none
  | delimiter :: rest => some (bytes.takeWhile (· != newline) ++ [delimiter], rest)

/-- Cutting off a packet loses nothing. -/
theorem splitPacket?_append {bytes packet rest : Bytes}
    (split : splitPacket? bytes = some (packet, rest)) : packet ++ rest = bytes := by
  have whole := List.takeWhile_append_dropWhile (p := (· != newline)) (l := bytes)
  unfold splitPacket? at split
  split at split
  · simp at split
  · rename_i delimiter tail found
    simp only [Option.some.injEq, Prod.mk.injEq] at split
    obtain ⟨rfl, rfl⟩ := split
    rw [found] at whole
    simpa using whole

/-- A packet is never empty, so that every cut makes progress. -/
theorem splitPacket?_length_lt {bytes packet rest : Bytes}
    (split : splitPacket? bytes = some (packet, rest)) : rest.length < bytes.length := by
  have whole := splitPacket?_append split
  have nonempty : packet ≠ [] := by
    intro empty
    unfold splitPacket? at split
    split at split <;> simp_all
  have := congrArg List.length whole
  have := List.length_pos_iff.2 nonempty
  simp only [List.length_append] at *
  omega

/-- The packets of a stream in order, and the bytes after its last newline. -/
def cut (bytes : Bytes) : List Bytes × Bytes :=
  match split : splitPacket? bytes with
  | none => ([], bytes)
  | some (packet, rest) =>
      have := splitPacket?_length_lt split
      (packet :: (cut rest).1, (cut rest).2)
termination_by bytes.length

end PacketLog
