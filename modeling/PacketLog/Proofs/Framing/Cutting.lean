import PacketLog.Framing.Packets
import Mathlib.Data.List.TakeWhile

/-! # Laws of cutting

Cutting a stream is determined by what it yields: packets that each end in their only newline, in
front of a tail without one, are what their concatenation is cut into
(`cut_flatten_append_of_not_mem`), and a stream is the concatenation of what it is cut into
(`cut_flatten_append`).
-/

namespace PacketLog

/-- A byte string that ends in its only newline. -/
def IsPacket (bytes : Bytes) : Prop := ∃ body, newline ∉ body ∧ bytes = body ++ [newline]

/-- A packet has its newline at least. -/
theorem IsPacket.ne_nil {packet : Bytes} (whole : IsPacket packet) : packet ≠ [] := by
  obtain ⟨body, _, rfl⟩ := whole
  exact List.append_ne_nil_of_right_ne_nil _ (List.cons_ne_nil _ _)

/-- Bytes without a newline in front of a packet make it a longer packet. -/
theorem IsPacket.append_left {packet pending : Bytes} (whole : IsPacket packet)
    (without : newline ∉ pending) : IsPacket (pending ++ packet) := by
  obtain ⟨body, clean, rfl⟩ := whole
  refine ⟨pending ++ body, ?_, (List.append_assoc ..).symm⟩
  simp only [List.mem_append, not_or]
  exact ⟨without, clean⟩

/-- There is nothing to cut off exactly when there is no newline. -/
theorem splitPacket?_eq_none {bytes : Bytes} :
    splitPacket? bytes = none ↔ newline ∉ bytes := by
  have search : bytes.dropWhile (· != newline) = [] ↔ newline ∉ bytes := by
    rw [List.dropWhile_eq_nil_iff]
    constructor
    · intro clean member
      simpa using clean newline member
    · intro absent b member
      simpa using fun same : b = newline => absent (same ▸ member)
  rw [← search]
  unfold splitPacket?
  split
  · rename_i found
    simp only [found]
  · rename_i found
    simp only [found, reduceCtorEq]

/-- What is cut off is a packet. -/
theorem isPacket_of_splitPacket? {bytes packet rest : Bytes}
    (split : splitPacket? bytes = some (packet, rest)) : IsPacket packet := by
  unfold splitPacket? at split
  split at split
  · exact absurd split (by simp)
  · rename_i delimiter tail found
    simp only [Option.some.injEq, Prod.mk.injEq] at split
    obtain ⟨rfl, rfl⟩ := split
    have nonempty : bytes.dropWhile (· != newline) ≠ [] := by simp [found]
    have ends : delimiter = newline := by
      have head := List.head_dropWhile_not (· != newline) nonempty
      simp only [found, List.head_cons] at head
      simpa using head
    refine ⟨bytes.takeWhile (· != newline), ?_, by rw [ends]⟩
    intro member
    simpa using List.mem_takeWhile_imp member

/-- A packet in front is what is cut off. -/
theorem splitPacket?_packet_append {packet : Bytes} (whole : IsPacket packet) (rest : Bytes) :
    splitPacket? (packet ++ rest) = some (packet, rest) := by
  obtain ⟨body, clean, rfl⟩ := whole
  have kept : ∀ b ∈ body, (b != newline) = true := by
    intro b member
    simpa using fun same : b = newline => clean (same ▸ member)
  have taken : (body ++ [newline] ++ rest).takeWhile (· != newline) = body := by
    rw [List.append_assoc, List.takeWhile_append_of_pos kept]
    simp
  have dropped : (body ++ [newline] ++ rest).dropWhile (· != newline) = newline :: rest := by
    rw [List.append_assoc, List.dropWhile_append_of_pos kept]
    simp
  simp only [splitPacket?, taken, dropped]

/-- **Induction over a stream.** What holds of every tail, and of a packet in front of every stream
that it holds of, holds of all streams. -/
@[elab_as_elim]
theorem stream_induction {motive : Bytes → Prop}
    (tail : ∀ bytes, newline ∉ bytes → motive bytes)
    (packet : ∀ first rest, IsPacket first → motive rest → motive (first ++ rest))
    (bytes : Bytes) : motive bytes := by
  induction bytes using cut.induct with
  | case1 bytes found => exact tail bytes (splitPacket?_eq_none.mp found)
  | case2 bytes first rest found _ ih =>
      rw [← splitPacket?_append found]
      exact packet first rest (isPacket_of_splitPacket? found) ih

/-! ## Cutting whole streams -/

/-- Without a newline, nothing is cut off. -/
theorem cut_of_not_mem {bytes : Bytes} (without : newline ∉ bytes) : cut bytes = ([], bytes) := by
  rw [cut]
  split
  · rfl
  · rename_i found
    rw [splitPacket?_eq_none.mpr without] at found
    exact absurd found (by simp)

/-- A packet at the beginning is cut off first. -/
theorem cut_packet_append {packet : Bytes} (whole : IsPacket packet) (rest : Bytes) :
    cut (packet ++ rest) = (packet :: (cut rest).1, (cut rest).2) := by
  rw [cut]
  split
  · rename_i found
    rw [splitPacket?_packet_append whole] at found
    exact absurd found (by simp)
  · rename_i found
    rw [splitPacket?_packet_append whole] at found
    simp only [Option.some.injEq, Prod.mk.injEq] at found
    obtain ⟨rfl, rfl⟩ := found
    rfl

/-- Packets in front of a stream are the first that it is cut into. -/
theorem cut_flatten_append {packets : List Bytes} (whole : ∀ packet ∈ packets, IsPacket packet)
    (rest : Bytes) : cut (packets.flatten ++ rest) = (packets ++ (cut rest).1, (cut rest).2) := by
  induction packets with
  | nil => simp
  | cons packet packets ih =>
      rw [List.flatten_cons, List.append_assoc,
        cut_packet_append (whole packet List.mem_cons_self),
        ih fun other member => whole other (List.mem_cons_of_mem _ member)]
      rfl

/-- **Cutting undoes concatenation.** Packets in front of a tail without a newline are what the
stream is cut into. -/
theorem cut_flatten_append_of_not_mem {packets : List Bytes}
    (whole : ∀ packet ∈ packets, IsPacket packet) {tail : Bytes} (without : newline ∉ tail) :
    cut (packets.flatten ++ tail) = (packets, tail) := by
  rw [cut_flatten_append whole, cut_of_not_mem without, List.append_nil]

/-- The packets of a stream are packets. -/
theorem isPacket_of_mem_cut {bytes packet : Bytes} (member : packet ∈ (cut bytes).1) :
    IsPacket packet := by
  induction bytes using stream_induction with
  | tail bytes without =>
      rw [cut_of_not_mem without] at member
      exact absurd member List.not_mem_nil
  | packet first rest whole ih =>
      rw [cut_packet_append whole, List.mem_cons] at member
      obtain rfl | later := member
      · exact whole
      · exact ih later

/-- A stream is its packets followed by its tail. -/
theorem flatten_cut_append (bytes : Bytes) : (cut bytes).1.flatten ++ (cut bytes).2 = bytes := by
  induction bytes using stream_induction with
  | tail bytes without => rw [cut_of_not_mem without]; rfl
  | packet first rest whole ih =>
      rw [cut_packet_append whole, List.flatten_cons, List.append_assoc, ih]

/-- The tail of a stream holds no newline. -/
theorem newline_not_mem_cut (bytes : Bytes) : newline ∉ (cut bytes).2 := by
  induction bytes using stream_induction with
  | tail bytes without => rw [cut_of_not_mem without]; exact without
  | packet first rest whole ih => rw [cut_packet_append whole]; exact ih

/-- **What cutting means.** A stream is cut into packets and a tail exactly when it is the packets
followed by the tail, each packet ends in its only newline, and the tail has none. -/
theorem cut_eq_iff {bytes : Bytes} {packets : List Bytes} {tail : Bytes} :
    cut bytes = (packets, tail) ↔
      packets.flatten ++ tail = bytes ∧ (∀ packet ∈ packets, IsPacket packet) ∧ newline ∉ tail := by
  constructor
  · intro same
    have whole : ∀ packet ∈ (cut bytes).1, IsPacket packet := fun _ => isPacket_of_mem_cut
    have joined := flatten_cut_append bytes
    have without := newline_not_mem_cut bytes
    rw [same] at whole joined without
    exact ⟨joined, whole, without⟩
  · rintro ⟨rfl, whole, without⟩
    exact cut_flatten_append_of_not_mem whole without

end PacketLog
