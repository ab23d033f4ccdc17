import PacketLog.Proofs.Framing.Cutting

/-! # What a size limit admits

The segments of a stream are its packets and its tail. A limit admits the packets in front of the
first segment that is longer (`admitted`), whether that segment is a packet or the tail
(`oversize?`). Both look at the stream as a whole; more of the stream changes neither once there is
a segment that is too long (`admitted_append_of_oversize`).
-/

namespace PacketLog

/-- The packets of a stream and its tail, which may be empty. -/
def segments (bytes : Bytes) : List Bytes := (cut bytes).1 ++ [(cut bytes).2]

/-- The first segment of a stream that is longer than a limit. -/
def oversize? (limit : Nat) (bytes : Bytes) : Option Bytes :=
  (segments bytes).find? (limit < ·.length)

/-- The packets of a stream in front of the first segment that is longer than a limit. -/
def admitted (limit : Nat) (bytes : Bytes) : List Bytes :=
  (cut bytes).1.takeWhile (·.length ≤ limit)

/-- A packet within a limit. -/
structure Admissible (limit : Nat) (packet : Bytes) : Prop where
  whole : IsPacket packet
  within : packet.length ≤ limit

/-- What is admitted comes first in the stream. -/
theorem admitted_isPrefix_cut (limit : Nat) (bytes : Bytes) :
    admitted limit bytes <+: (cut bytes).1 :=
  List.takeWhile_prefix _

/-- What is admitted is admissible. -/
theorem admissible_of_mem_admitted {limit : Nat} {bytes packet : Bytes}
    (member : packet ∈ admitted limit bytes) : Admissible limit packet where
  whole := isPacket_of_mem_cut ((admitted_isPrefix_cut limit bytes).subset member)
  within := by simpa using List.mem_takeWhile_imp member

section Tail

variable {tail : Bytes} (without : newline ∉ tail)
include without

/-- Nothing is admitted before the first newline. -/
theorem admitted_of_not_mem (limit : Nat) : admitted limit tail = [] := by
  rw [admitted, cut_of_not_mem without, List.takeWhile_nil]

/-- Without a newline, the bytes are too long as a whole or not at all. -/
theorem oversize?_of_not_mem (limit : Nat) :
    oversize? limit tail = if limit < tail.length then some tail else none := by
  rw [oversize?, segments, cut_of_not_mem without]
  by_cases long : limit < tail.length <;> simp [long]

end Tail

/-- Admissible packets in front of a stream are admitted first. -/
theorem admitted_flatten_append {limit : Nat} {packets : List Bytes}
    (admissible : ∀ packet ∈ packets, Admissible limit packet) (rest : Bytes) :
    admitted limit (packets.flatten ++ rest) = packets ++ admitted limit rest := by
  rw [admitted, cut_flatten_append fun packet member => (admissible packet member).whole]
  rw [List.takeWhile_append_of_pos fun packet member =>
    by simpa using (admissible packet member).within]
  rfl

/-- Admissible packets in front of a stream are not too long. -/
theorem oversize?_flatten_append {limit : Nat} {packets : List Bytes}
    (admissible : ∀ packet ∈ packets, Admissible limit packet) (rest : Bytes) :
    oversize? limit (packets.flatten ++ rest) = oversize? limit rest := by
  have short : packets.find? (limit < ·.length) = none := by
    rw [List.find?_eq_none]
    intro packet member
    simpa using (admissible packet member).within
  rw [oversize?, segments, cut_flatten_append fun packet member => (admissible packet member).whole,
    List.append_assoc, List.find?_append, short, Option.none_or]
  rfl

section Packet

variable {packet : Bytes} (whole : IsPacket packet)
include whole

/-- A packet within the limit is admitted first. -/
theorem admitted_packet_append {limit : Nat} (within : packet.length ≤ limit) (rest : Bytes) :
    admitted limit (packet ++ rest) = packet :: admitted limit rest := by
  rw [admitted, cut_packet_append whole, List.takeWhile_cons_of_pos (by simpa using within)]
  rfl

/-- A packet within the limit does not matter for what is too long after it. -/
theorem oversize?_packet_append {limit : Nat} (within : packet.length ≤ limit) (rest : Bytes) :
    oversize? limit (packet ++ rest) = oversize? limit rest := by
  rw [oversize?, segments, cut_packet_append whole, List.cons_append,
    List.find?_cons_of_neg (by simpa using within)]
  rfl

/-- Nothing is admitted from a packet beyond the limit on. -/
theorem admitted_long_packet_append {limit : Nat} (long : limit < packet.length) (rest : Bytes) :
    admitted limit (packet ++ rest) = [] := by
  rw [admitted, cut_packet_append whole, List.takeWhile_cons_of_neg (by simpa using long)]

/-- A packet beyond the limit is the first that is too long. -/
theorem oversize?_long_packet_append {limit : Nat} (long : limit < packet.length) (rest : Bytes) :
    oversize? limit (packet ++ rest) = some packet := by
  rw [oversize?, segments, cut_packet_append whole, List.cons_append,
    List.find?_cons_of_pos (by simpa using long)]

end Packet

/-- Without a segment that is too long, all packets are admitted. -/
theorem admitted_eq_cut {limit : Nat} {bytes : Bytes} (fits : oversize? limit bytes = none) :
    admitted limit bytes = (cut bytes).1 := by
  rw [oversize?, List.find?_eq_none] at fits
  rw [admitted, List.takeWhile_eq_self_iff]
  intro packet member
  simpa using fits packet (List.mem_append_left _ member)

/-- **Where the first segment that is too long stands.** It follows the admitted packets. -/
theorem oversize?_position {limit : Nat} {bytes segment : Bytes}
    (found : oversize? limit bytes = some segment) :
    limit < segment.length ∧ ∃ rest, bytes = (admitted limit bytes).flatten ++ segment ++ rest := by
  induction bytes using stream_induction with
  | tail bytes without =>
      rw [oversize?_of_not_mem without] at found
      split at found
      · rename_i long
        obtain rfl := Option.some.inj found
        exact ⟨long, [], by rw [admitted_of_not_mem without]; simp⟩
      · exact absurd found (by simp)
  | packet first rest whole ih =>
      by_cases within : first.length ≤ limit
      · rw [oversize?_packet_append whole within] at found
        obtain ⟨long, after, split⟩ := ih found
        refine ⟨long, after, ?_⟩
        rw [admitted_packet_append whole within, List.flatten_cons, List.append_assoc,
          List.append_assoc, ← List.append_assoc _ segment, ← split]
      · have long : limit < first.length := Nat.lt_of_not_le within
        rw [oversize?_long_packet_append whole long] at found
        obtain rfl := Option.some.inj found
        exact ⟨long, rest, by rw [admitted_long_packet_append whole long]; rfl⟩

/-- Any segment that starts with more bytes than the limit is too long. -/
private theorem oversize?_isSome_of_long {limit : Nat} {front : Bytes} (without : newline ∉ front)
    (long : limit < front.length) (more : Bytes) :
    admitted limit (front ++ more) = [] ∧ (oversize? limit (front ++ more)).isSome := by
  induction more using stream_induction with
  | tail more clean =>
      have absent : newline ∉ front ++ more := by simp [without, clean]
      have longer : limit < (front ++ more).length := by simp; omega
      rw [admitted_of_not_mem absent, oversize?_of_not_mem absent, if_pos longer]
      exact ⟨rfl, rfl⟩
  | packet first rest whole _ =>
      have joined := whole.append_left without
      have longer : limit < (front ++ first).length := by simp; omega
      rw [← List.append_assoc, admitted_long_packet_append joined longer,
        oversize?_long_packet_append joined longer]
      exact ⟨rfl, rfl⟩

/-- **More of a stream does not change what is admitted** once there is a segment that is too
long. -/
theorem admitted_append_of_oversize {limit : Nat} {bytes : Bytes}
    (found : (oversize? limit bytes).isSome) (more : Bytes) :
    admitted limit (bytes ++ more) = admitted limit bytes ∧
      (oversize? limit (bytes ++ more)).isSome := by
  induction bytes using stream_induction with
  | tail bytes without =>
      rw [oversize?_of_not_mem without] at found
      split at found
      · rename_i long
        rw [admitted_of_not_mem without]
        exact oversize?_isSome_of_long without long more
      · exact absurd found (by simp)
  | packet first rest whole ih =>
      rw [List.append_assoc]
      by_cases within : first.length ≤ limit
      · rw [oversize?_packet_append whole within] at found ⊢
        obtain ⟨same, still⟩ := ih found
        rw [admitted_packet_append whole within, admitted_packet_append whole within, same]
        exact ⟨rfl, still⟩
      · have long : limit < first.length := Nat.lt_of_not_le within
        rw [admitted_long_packet_append whole long, admitted_long_packet_append whole long,
          oversize?_long_packet_append whole long]
        exact ⟨rfl, rfl⟩

end PacketLog
