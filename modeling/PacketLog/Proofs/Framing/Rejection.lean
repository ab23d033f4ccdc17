import PacketLog.Proofs.Framing.Delivery

/-! # After a rejection

A caller sees of a feed what it answers, which bytes of the input it leaves unread, and how many
bytes the assembler holds afterwards (`Assembler.look`). None of this depends on the capacity of the
buffer: assemblers that differ in nothing else stay so and show the same, whatever they are fed
(`Assembler.Alike.shows_eq`). A rejection takes nothing and leaves an assembler that holds nothing
(`Assembler.feed_rejected`), which is alike to a new one.
-/

namespace PacketLog

namespace Assembler

/-! ## What a caller sees -/

/-- What a caller sees of a feed: the packet it completed, if any, or the rejection, the bytes left
unread, and the number of bytes held afterwards. -/
structure Seen where
  answer : Except TooLarge (Option Bytes)
  unread : Bytes
  held : Nat

/-- What a caller sees of one feed. -/
def look (a : Assembler) (input : Bytes) : Seen where
  answer := (a.feed input).1.result
  unread := (a.feed input).1.rest
  held := (a.feed input).2.pending.length

/-- The assembler that is left when some inputs were fed to it, each in one call, whatever the calls
answered. -/
def fedWith (a : Assembler) (inputs : List Bytes) : Assembler :=
  inputs.foldl (fun a input => (a.feed input).2) a

/-- What a caller sees who feeds some inputs, each in one call, whatever the calls answer. -/
def shows (a : Assembler) : List Bytes → List Seen
  | [] => []
  | input :: later => a.look input :: (a.feed input).2.shows later

variable {a b : Assembler}

/-- Whatever is fed, the limit stays. -/
theorem limit_fedWith (inputs : List Bytes) : (a.fedWith inputs).limit = a.limit := by
  induction inputs generalizing a with
  | nil => rfl
  | cons input later ih => exact ih.trans (a.limit_of_feed input)

/-! ## Capacities do not show -/

/-- Two assemblers that hold the same bytes under the same limit. Their capacities may differ. -/
structure Alike (a b : Assembler) : Prop where
  pending : a.pending = b.pending
  limit : a.limit = b.limit

/-- What two alike assemblers answer to bytes that they are to hold. -/
inductive HoldAlike : Except TooLarge Assembler → Except TooLarge Assembler → Prop
  | held {a b : Assembler} (alike : a.Alike b) : HoldAlike (.ok a) (.ok b)
  | rejected (e : TooLarge) : HoldAlike (.error e) (.error e)

private theorem Alike.clear (alike : a.Alike b) : a.clear.Alike b.clear := ⟨rfl, alike.limit⟩

private theorem Alike.hold (alike : a.Alike b) (chunk : Bytes) :
    HoldAlike (a.hold chunk) (b.hold chunk) := by
  rw [Assembler.hold, Assembler.hold, alike.pending, alike.limit]
  split
  · exact .rejected _
  · exact .held ⟨rfl, rfl⟩

/-- **One feed.** Alike assemblers give the same answer and stay alike. -/
theorem Alike.feed (alike : a.Alike b) (input : Bytes) :
    (a.feed input).1 = (b.feed input).1 ∧ (a.feed input).2.Alike (b.feed input).2 := by
  unfold Assembler.feed
  cases splitPacket? input with
  | some first =>
      rcases first with ⟨packet, rest⟩
      have held := alike.hold packet
      dsimp only
      generalize a.hold packet = here at held ⊢
      generalize b.hold packet = there at held ⊢
      cases held with
      | held after => exact ⟨by dsimp only; rw [after.pending], after.clear⟩
      | rejected e => exact ⟨rfl, alike.clear⟩
  | none =>
      have held := alike.hold input
      dsimp only
      generalize a.hold input = here at held ⊢
      generalize b.hold input = there at held ⊢
      cases held with
      | held after => exact ⟨rfl, after⟩
      | rejected e => exact ⟨rfl, alike.clear⟩

/-- **Any feeds.** Nobody can tell alike assemblers from each other, whatever is fed to them. -/
theorem Alike.shows_eq (alike : a.Alike b) (inputs : List Bytes) :
    a.shows inputs = b.shows inputs := by
  induction inputs generalizing a b with
  | nil => rfl
  | cons input later ih =>
      obtain ⟨same, after⟩ := alike.feed input
      rw [shows, shows, ih after, look, look, same, after.pending]

/-! ## What a rejection leaves -/

/-- The first segment of an input: its first packet, or all of it if it has none. -/
def FirstSegment (input segment : Bytes) : Prop :=
  ∃ rest, input = segment ++ rest ∧ (IsPacket segment ∨ newline ∉ segment ∧ rest = [])

/-- A feed rejects its input exactly if the first segment of it would grow too long. -/
theorem feed_error_iff (a : Assembler) (input : Bytes) :
    ∃ segment, FirstSegment input segment ∧ ∀ e, (a.feed input).1.result = .error e ↔
      a.limit < a.pending.length + segment.length ∧
        e = ⟨a.pending.length + segment.length, a.limit⟩ := by
  have outcome := a.feed_fed input
  generalize a.feed input = result at outcome
  cases outcome with
  | @packet first rest _ whole split within =>
      rw [List.length_append] at within
      refine ⟨first, ⟨rest, split, .inl whole⟩, fun e => ?_⟩
      exact iff_of_false nofun fun rejected => absurd rejected.1 (Nat.not_lt.mpr within)
  | tail without within =>
      rw [List.length_append] at within
      refine ⟨input, ⟨[], (List.append_nil input).symm, .inr ⟨without, rfl⟩⟩, fun e => ?_⟩
      exact iff_of_false nofun fun rejected => absurd rejected.1 (Nat.not_lt.mpr within)
  | @tooLong segment rest cutOff split long =>
      refine ⟨segment, ⟨rest, split, cutOff⟩, fun e => ?_⟩
      rw [List.length_append] at long ⊢
      rw [Except.error.injEq]
      exact ⟨fun same => ⟨long, same.symm⟩, fun rejected => rejected.2.symm⟩

/-- A rejection leaves all of the input, and the assembler as it was, but that it holds nothing. -/
theorem feed_rejected {input : Bytes} {e : TooLarge}
    (rejected : (a.feed input).1.result = .error e) :
    a.feed input = (⟨.error e, input⟩, a.clear) := by
  have outcome := a.feed_fed input
  generalize a.feed input = result at outcome rejected
  cases outcome with
  | packet | tail => exact nomatch rejected
  | tooLong =>
      obtain rfl := Except.error.inj rejected
      rfl

/-- **A rejection starts afresh.** Take any assembler that can come of a new one. A feed rejects
its input exactly if the bytes held and the first segment of the input exceed the limit together,
and reports how many these are. It then takes nothing, forgets the bytes held, and keeps the
capacity and the limit. From then on nobody can tell the assembler from a new one of any initial
capacity, whatever is fed to both, be it what was rejected or a part of it. And what is seen of an
assembler never depends on more than the bytes it holds and its limit. -/
theorem rejection_starts_afresh (initial limit : Nat) (history : List Bytes) (input : Bytes) :
    let a := (new initial limit).fedWith history
    (∃ segment, FirstSegment input segment ∧ ∀ e, (a.feed input).1.result = .error e ↔
      limit < a.pending.length + segment.length ∧
        e = ⟨a.pending.length + segment.length, limit⟩) ∧
    (∀ e, (a.feed input).1.result = .error e →
      (a.look input).unread = input ∧
      (a.feed input).2 = { pending := [], capacity := a.capacity, limit := limit } ∧
      ∀ later initial', (a.feed input).2.shows later = (new initial' limit).shows later) ∧
    ∀ b : Assembler, b.pending = a.pending → b.limit = limit →
      ∀ later, b.shows later = a.shows later := by
  intro a
  have same : a.limit = limit := limit_fedWith history
  refine ⟨?_, ?_, ?_⟩
  · obtain ⟨segment, first, rejects⟩ := a.feed_error_iff input
    rw [same] at rejects
    exact ⟨segment, first, rejects⟩
  · intro e rejected
    have left := feed_rejected rejected
    refine ⟨?_, ?_, ?_⟩
    · rw [look, left]
    · rw [left, Assembler.clear, same]
    · intro later initial'
      rw [left]
      have alike : a.clear.Alike (new initial' limit) := ⟨rfl, same⟩
      exact alike.shows_eq later
  · intro b pending bound later
    have alike : b.Alike a := ⟨pending, bound.trans same.symm⟩
    exact alike.shows_eq later

/-- At most three bytes a packet: one of five is rejected, and its last two, fed again, are a
packet. -/
example : (new 1 3).shows [[97, 98, 99, 100, 10, 101], [100, 10, 101], [101]] =
    [⟨.error ⟨5, 3⟩, [97, 98, 99, 100, 10, 101], 0⟩, ⟨.ok (some [100, 10]), [101], 0⟩,
      ⟨.ok none, [], 1⟩] := by
  rfl

end Assembler

end PacketLog
