import PacketLog.Proofs.Framing.Rejection

/-! # Feeding an input round by round

Whoever has an input feeds it in rounds, each time what the round before has left, until nothing is
left or a packet is rejected (`Assembler.Rounds`). Each round takes the input up to its first
newline, or all of it, so that the number of rounds still to come falls by one
(`Assembler.Rounds.length_add`). The bytes held and the input are the packets made, the bytes held
then and what is left: no round looks at a byte again or passes over one
(`Assembler.Rounds.joined`).
-/

namespace PacketLog

/-- The bytes after the first newline, if there is one. -/
def afterNewline (bytes : Bytes) : Bytes := (bytes.dropWhile (· != newline)).drop 1

/-- The rounds it takes to feed an input: one for each newline, and one for the bytes after the
last, if there are any. -/
def roundCount (bytes : Bytes) : Nat :=
  bytes.count newline + if (cut bytes).2 = [] then 0 else 1

private theorem afterNewline_eq (bytes : Bytes) :
    afterNewline bytes = ((splitPacket? bytes).map (·.2)).getD [] := by
  unfold afterNewline splitPacket?
  cases bytes.dropWhile (· != newline) with
  | nil => rfl
  | cons delimiter rest => rfl

section Packet

variable {packet : Bytes} (whole : IsPacket packet)
include whole

private theorem afterNewline_packet_append (rest : Bytes) : afterNewline
    (packet ++ rest) = rest := by
  rw [afterNewline_eq, splitPacket?_packet_append whole]
  rfl

private theorem roundCount_packet_append (rest : Bytes) :
    roundCount (packet ++ rest) = roundCount rest + 1 := by
  have one : packet.count newline = 1 := by
    obtain ⟨body, clean, rfl⟩ := whole
    rw [List.count_append, List.count_eq_zero_of_not_mem clean]
    rfl
  rw [roundCount, roundCount, cut_packet_append whole, List.count_append, one, Nat.add_assoc,
    Nat.add_comm]

end Packet

section Tail

variable {tail : Bytes} (without : newline ∉ tail)
include without

private theorem afterNewline_of_not_mem : afterNewline tail = [] := by
  rw [afterNewline_eq, splitPacket?_eq_none.mpr without]
  rfl

private theorem roundCount_of_not_mem : roundCount tail = if tail = [] then 0 else 1 := by
  rw [roundCount, cut_of_not_mem without, List.count_eq_zero_of_not_mem without, Nat.zero_add]

end Tail

private theorem roundCount_nil : roundCount [] = 0 := roundCount_of_not_mem List.not_mem_nil

private theorem roundCount_pos {bytes : Bytes} (nonempty : bytes ≠ []) : 0 < roundCount bytes := by
  induction bytes using stream_induction with
  | tail bytes without =>
      rw [roundCount_of_not_mem without, if_neg nonempty]
      exact Nat.zero_lt_one
  | packet first rest whole _ =>
      rw [roundCount_packet_append whole]
      exact Nat.succ_pos _

namespace Assembler

/-! ## One round -/

section Round

variable {a next : Assembler} {input rest : Bytes} {completed : Option Bytes}
  (fed : a.feed input = (⟨.ok completed, rest⟩, next))
include fed

/-- A feed leaves the bytes after the first newline. -/
theorem rest_of_feed_ok : rest = afterNewline input := by
  have outcome := a.feed_fed input
  rw [fed] at outcome
  cases outcome with
  | packet whole split =>
      rw [split, afterNewline_packet_append whole]
  | tail without =>
      rw [afterNewline_of_not_mem without]

private theorem roundCount_of_feed_ok (nonempty : input ≠ []) :
    roundCount input = roundCount rest + 1 := by
  have outcome := a.feed_fed input
  rw [fed] at outcome
  cases outcome with
  | packet whole split =>
      rw [split, roundCount_packet_append whole]
  | tail without =>
      rw [roundCount_of_not_mem without, if_neg nonempty, roundCount_nil]

/-- A feed puts every byte that it takes into the packet that it completes, or holds it. -/
theorem joined_of_feed_ok :
    a.pending ++ input = completed.toList.flatten ++ next.pending ++ rest := by
  have outcome := a.feed_fed input
  rw [fed] at outcome
  cases outcome with
  | packet _ split =>
      rw [split]
      simp
  | tail => simp

end Round

/-! ## Rounds in a row -/

/-- Rounds lead from an assembler with an input to the one that they leave, with what is left of
the input. A round is only made as long as something is left. None of these calls has failed. -/
inductive Rounds (a : Assembler) (input : Bytes) : List Call → Assembler → Bytes → Prop
  | none : Rounds a input [] a input
  | onward {made : List Call} {b next : Assembler} {left rest : Bytes} {completed : Option Bytes}
      (before : Rounds a input made b left) (more : left ≠ [])
      (fed : b.feed left = (⟨.ok completed, rest⟩, next)) :
      Rounds a input (made ++ [⟨⟨.ok completed, rest⟩, next⟩]) next rest

/-- A further call adds the packet it completes, if it does. -/
theorem Call.packets_concat (made : List Call) (completed : Option Bytes) (rest : Bytes)
    (next : Assembler) :
    packets (made ++ [⟨⟨.ok completed, rest⟩, next⟩]) = packets made ++ completed.toList := by
  rw [packets, packets, List.filterMap_append]
  cases completed <;> rfl

namespace Rounds

variable {a b next : Assembler} {input left : Bytes} {made : List Call} {e : TooLarge}
  (rounds : a.Rounds input made b left)
include rounds

/-- Rounds never change the limit. -/
theorem limit_eq : b.limit = a.limit := by
  induction rounds with
  | none => rfl
  | @onward _ b _ left _ _ _ _ fed ih =>
      rw [← ih, ← b.limit_of_feed left, fed]

/-- Rounds are the first of the calls made on the whole input. -/
theorem calls_eq : a.calls input = made ++ b.calls left := by
  induction rounds with
  | none => rfl
  | onward _ more fed ih =>
      rw [ih, calls_of_ok more fed, List.append_assoc]
      rfl

/-- **Progress.** The rounds made and those still to come are the rounds that the input takes. -/
theorem length_add : made.length + roundCount left = roundCount input := by
  induction rounds with
  | none => exact Nat.zero_add _
  | onward _ more fed ih =>
      have fewer := roundCount_of_feed_ok fed more
      rw [List.length_append, List.length_singleton]
      omega

/-- **No byte twice, and none passed over.** The packets made, the bytes held and what is left are
the bytes held at first and the input. -/
theorem joined : a.pending ++ input = (Call.packets made).flatten ++ b.pending ++ left := by
  induction rounds with
  | none => rfl
  | @onward made b next left rest completed _ _ fed ih =>
      calc a.pending ++ input
          = (Call.packets made).flatten ++ (b.pending ++ left) := by
            rw [ih, List.append_assoc]
        _ = (Call.packets made).flatten ++
              (completed.toList.flatten ++ next.pending ++ rest) := by
            rw [joined_of_feed_ok fed]
        _ = (Call.packets (made ++ [⟨⟨.ok completed, rest⟩, next⟩])).flatten ++ next.pending ++
              rest := by
            rw [Call.packets_concat, List.flatten_append]
            simp only [List.append_assoc]

/-- Rounds that leave nothing are all calls there are. -/
theorem calls_of_nothing_left (nothing : left = []) : a.calls input = made := by
  rw [rounds.calls_eq, nothing, calls_nil, List.append_nil]

/-- Rounds before a rejection and the rejection are all calls there are. -/
theorem calls_of_rejected {rest : Bytes} (more : left ≠ [])
    (fed : b.feed left = (⟨.error e, rest⟩, next)) :
    a.calls input = made ++ [⟨⟨.error e, rest⟩, next⟩] := by
  rw [rounds.calls_eq, calls_of_error more fed]

/-- Rounds that leave nothing are as many as the input has parts. -/
theorem length_of_nothing_left (nothing : left = []) : made.length = roundCount input := by
  have whole := rounds.length_add
  rwa [nothing, roundCount_nil, Nat.add_zero] at whole

/-- Rounds that leave something are fewer than the input has parts. -/
theorem length_lt (more : left ≠ []) : made.length < roundCount input := by
  have whole := rounds.length_add
  have positive := roundCount_pos more
  omega

end Rounds

/-- **Feeding ends**, with nothing left or with a rejection. -/
theorem exists_rounds (a : Assembler) (input : Bytes) :
    ∃ made b left, a.Rounds input made b left ∧
      (left = [] ∨ left ≠ [] ∧ ∃ e, (b.feed left).1.result = .error e) := by
  -- The induction goes by the rounds to come, from any state on the way.
  have onward : ∀ (toCome : Nat) (made : List Call) (b : Assembler) (left : Bytes),
      roundCount left = toCome → a.Rounds input made b left →
      ∃ made b left, a.Rounds input made b left ∧
        (left = [] ∨ left ≠ [] ∧ ∃ e, (b.feed left).1.result = .error e) := by
    intro toCome
    induction toCome with
    | zero =>
        intro made b left none rounds
        have nothing : left = [] := by
          by_contra more
          exact absurd none (roundCount_pos more).ne'
        exact ⟨made, b, left, rounds, .inl nothing⟩
    | succ toCome ih =>
        intro made b left some rounds
        have more : left ≠ [] := by
          rintro rfl
          exact absurd some (by rw [roundCount_nil]; exact (Nat.succ_ne_zero _).symm)
        rcases fed : b.feed left with ⟨⟨result, rest⟩, next⟩
        cases result with
        | error e => exact ⟨made, b, left, rounds, .inr ⟨more, e, by rw [fed]⟩⟩
        | ok completed =>
            have fewer := roundCount_of_feed_ok fed more
            exact ih _ next rest (by omega) (.onward rounds more fed)
  exact onward _ [] a input rfl .none

end Assembler

end PacketLog
