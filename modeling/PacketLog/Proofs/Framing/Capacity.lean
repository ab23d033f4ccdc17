import Mathlib
import PacketLog.Proofs.Framing.Rejection

/-! # How capacities grow

One number decides the capacity of an assembler: the greatest size that a packet in progress has
reached in a feed (`Assembler.peak`). However the bytes came, the capacity is what the first one
becomes when it is doubled until that size fits (`Assembler.Roomy.capacity_fedWith`). Doubling
always ends, because it is only asked for sizes within the limit (`Assembler.grow_settles`).
-/

namespace PacketLog

namespace Assembler

/-- The size that the packet in progress reaches in a feed: the bytes held and those taken. A feed
that fails takes none and counts for nothing. -/
def reach (a : Assembler) (input : Bytes) : Nat :=
  match (a.feed input).1.result with
  | .ok _ => a.pending.length + (input.length - (a.feed input).1.rest.length)
  | .error _ => 0

/-- The greatest size that a packet in progress reaches while some inputs are fed, each in one call,
whatever the calls answer. -/
def peak (a : Assembler) : List Bytes → Nat
  | [] => 0
  | input :: later => max (a.reach input) ((a.feed input).2.peak later)

/-- After so many rounds of doubling, and not before, a size fits. -/
structure Settles (limit size capacity rounds : Nat) : Prop where
  fits : size ≤ (doubled limit)^[rounds] capacity
  early : ∀ earlier < rounds, (doubled limit)^[earlier] capacity < size

/-! ## Doubling -/

section Doubling

variable {limit size capacity : Nat}

private theorem doubled_eq (bounded : limit ≤ maxSize) (capacity : Nat) :
    doubled limit capacity = min limit (2 * capacity) := by
  unfold doubled
  omega

/-- A doubling helps as long as the capacity is below the limit. -/
theorem lt_doubled (bounded : limit ≤ maxSize) (positive : 0 < capacity)
    (below : capacity < limit) : capacity < doubled limit capacity := by
  rw [doubled_eq bounded]
  omega

/-- **Rounds of doubling** multiply a capacity by a power of two, up to the limit. -/
theorem iterate_doubled (bounded : limit ≤ maxSize) (within : capacity ≤ limit) (rounds : Nat) :
    (doubled limit)^[rounds] capacity = min limit (capacity * 2 ^ rounds) := by
  induction rounds with
  | zero => rw [Function.iterate_zero_apply, Nat.pow_zero, Nat.mul_one, min_eq_right within]
  | succ rounds ih =>
      rw [Function.iterate_succ_apply', ih, doubled_eq bounded, Nat.pow_succ, ← Nat.mul_assoc]
      omega

private theorem grow_of_le (fits : size ≤ capacity) : grow limit size capacity = capacity := by
  rw [grow, if_neg fun grows => absurd grows.1 (Nat.not_lt.mpr fits)]

/-- **Doubling ends** for every size within the limit, with a capacity that it fits. -/
theorem grow_settles (bounded : limit ≤ maxSize) (within : size ≤ limit) (positive : 0 < capacity) :
    ∃ rounds, Settles limit size capacity rounds ∧
      grow limit size capacity = (doubled limit)^[rounds] capacity := by
  induction capacity using grow.induct limit size with
  | case1 capacity grows ih =>
      obtain ⟨rounds, settles, same⟩ := ih (positive.trans grows.2)
      refine ⟨rounds + 1, ⟨settles.fits, ?_⟩, ?_⟩
      · intro earlier before
        cases earlier with
        | zero => exact grows.1
        | succ earlier => exact settles.early earlier (Nat.lt_of_succ_lt_succ before)
      · rw [grow, if_pos grows, same, Function.iterate_succ_apply]
  | case2 capacity stays =>
      have fits : size ≤ capacity := by
        by_contra short
        have short := Nat.lt_of_not_le short
        exact stays ⟨short, lt_doubled bounded positive (short.trans_le within)⟩
      exact ⟨0, ⟨fits, nofun⟩, grow_of_le fits⟩

private theorem le_grow (limit size capacity : Nat) : capacity ≤ grow limit size capacity := by
  induction capacity using grow.induct limit size with
  | case1 capacity grows ih =>
      rw [grow, if_pos grows]
      exact grows.2.le.trans ih
  | case2 capacity stays => rw [grow, if_neg stays]

private theorem grow_le (bounded : capacity ≤ max 1 limit) :
    grow limit size capacity ≤ max 1 limit := by
  induction capacity using grow.induct limit size with
  | case1 capacity grows ih =>
      rw [grow, if_pos grows]
      exact ih ((min_le_right _ _).trans (le_max_right _ _))
  | case2 capacity stays =>
      rw [grow, if_neg stays]
      exact bounded

private theorem size_le_grow (bounded : limit ≤ maxSize) (within : size ≤ limit)
    (positive : 0 < capacity) :
    size ≤ grow limit size capacity := by
  obtain ⟨rounds, settles, same⟩ := grow_settles bounded within positive
  rw [same]
  exact settles.fits

/-- A size that fits already does not matter. -/
theorem grow_max_of_le {other : Nat} (fits : other ≤ capacity) :
    grow limit (max other size) capacity = grow limit size capacity := by
  induction capacity using grow.induct limit size with
  | case1 capacity grows ih =>
      have more : capacity < max other size := grows.1.trans_le (le_max_right _ _)
      have unfolded : grow limit size capacity = grow limit size (doubled limit capacity) := by
        rw [grow, if_pos grows]
      rw [grow, if_pos ⟨more, grows.2⟩, unfolded]
      exact ih (fits.trans grows.2.le)
  | case2 capacity stays =>
      have still : ¬(capacity < max other size ∧ capacity < doubled limit capacity) := by
        rintro ⟨more, helps⟩
        exact stays ⟨(lt_max_iff.mp more).resolve_left (Nat.not_lt.mpr fits), helps⟩
      rw [grow, if_neg still, grow, if_neg stays]

/-- **One size after another.** Doubling until one size fits and then until another does is doubling
until the greater one does. -/
theorem grow_grow {other : Nat} (bounded : limit ≤ maxSize) (within : size ≤ limit)
    (positive : 0 < capacity) :
    grow limit other (grow limit size capacity) = grow limit (max size other) capacity := by
  induction capacity using grow.induct limit size with
  | case1 capacity grows ih =>
      have more : capacity < max size other := grows.1.trans_le (le_max_left _ _)
      rw [grow.eq_def limit size capacity, if_pos grows, ih (positive.trans grows.2),
        grow.eq_def limit (max size other) capacity, if_pos ⟨more, grows.2⟩]
  | case2 capacity stays =>
      have same : grow limit size capacity = capacity := by rw [grow, if_neg stays]
      have fits := size_le_grow bounded within positive
      rw [same] at fits ⊢
      exact (grow_max_of_le fits).symm

/-- **The closed form.** A capacity that has to grow becomes the least of its multiples by powers of
two, each cut off at the limit, that the size does not exceed. -/
theorem isLeast_grow (bounded : limit ≤ maxSize) (within : size ≤ limit) (positive : 0 < capacity)
    (short : capacity < size) :
    IsLeast {c | (∃ k, c = min limit (capacity * 2 ^ k)) ∧ size ≤ c}
      (grow limit size capacity) := by
  have inside : capacity ≤ limit := short.le.trans within
  obtain ⟨rounds, settles, same⟩ := grow_settles bounded within positive
  rw [same]
  refine ⟨⟨⟨rounds, iterate_doubled bounded inside rounds⟩, settles.fits⟩, ?_⟩
  rintro other ⟨⟨k, rfl⟩, fits⟩
  rw [← iterate_doubled bounded inside k] at fits
  have later : rounds ≤ k := by
    by_contra earlier
    exact absurd fits (Nat.not_le.mpr (settles.early k (Nat.lt_of_not_le earlier)))
  rw [iterate_doubled bounded inside]
  exact min_le_min_left _ (Nat.mul_le_mul_left _ (Nat.pow_le_pow_right Nat.two_pos later))

end Doubling

/-! ## Feeds -/

variable {a : Assembler}

private theorem reach_of_ok {input : Bytes} {completed : Option Bytes}
    (fed : (a.feed input).1.result = .ok completed) :
    a.reach input = a.pending.length + (input.length - (a.feed input).1.rest.length) := by
  rw [reach, fed]

/-- What holding some bytes makes of the capacity. -/
theorem capacity_of_hold {held : Assembler} {chunk : Bytes} (kept : a.hold chunk = .ok held) :
    held.capacity = grow a.limit (a.pending.length + chunk.length) a.capacity ∧
      a.pending.length + chunk.length ≤ a.limit := by
  unfold hold at kept
  dsimp only at kept
  split at kept
  · exact nomatch kept
  · rename_i fits
    obtain rfl := Except.ok.inj kept
    exact ⟨rfl, Nat.le_of_not_lt fits⟩

/-- **One feed** doubles the capacity until the size that it reaches fits. That size is within the
limit. -/
theorem capacity_feed (a : Assembler) (input : Bytes) :
    (a.feed input).2.capacity = grow a.limit (a.reach input) a.capacity ∧
      a.reach input ≤ a.limit := by
  have unchanged : grow a.limit 0 a.capacity = a.capacity := grow_of_le (Nat.zero_le _)
  unfold reach feed
  cases cutOff : splitPacket? input with
  | some first =>
      rcases first with ⟨packet, rest⟩
      have taken : input.length - rest.length = packet.length := by
        rw [← splitPacket?_append cutOff, List.length_append, Nat.add_sub_cancel]
      dsimp only
      cases kept : a.hold packet with
      | ok held =>
          have grown := capacity_of_hold kept
          rw [← taken] at grown
          exact grown
      | error e => exact ⟨unchanged.symm, Nat.zero_le _⟩
  | none =>
      dsimp only
      cases kept : a.hold input with
      | ok held => exact capacity_of_hold kept
      | error e => exact ⟨unchanged.symm, Nat.zero_le _⟩

private theorem peak_le (a : Assembler) (history : List Bytes) : a.peak history ≤ a.limit := by
  induction history generalizing a with
  | nil => exact Nat.zero_le _
  | cons input later ih =>
      refine max_le (a.capacity_feed input).2 ?_
      rw [← a.limit_of_feed input]
      exact ih _

private theorem pending_feed_le (a : Assembler) (input : Bytes) :
    (a.feed input).2.pending.length ≤ a.reach input := by
  unfold reach
  have outcome := a.feed_fed input
  generalize a.feed input = result at outcome
  cases outcome with
  | packet | tooLong => exact Nat.zero_le _
  | tail =>
      dsimp only
      rw [List.length_append]
      exact le_rfl

/-- What is held fits into the buffer, and the buffer keeps within the limit. -/
structure Roomy (a : Assembler) : Prop where
  bounded : a.limit ≤ maxSize
  positive : 0 < a.capacity
  within : a.capacity ≤ max 1 a.limit
  holds : a.pending.length ≤ a.capacity

private theorem roomy_new (initial : Nat) {limit : Nat} (bounded : limit ≤ maxSize) :
    (new initial limit).Roomy where
  bounded := bounded
  positive := Nat.zero_lt_one.trans_le (le_max_left _ _)
  within := max_le_max le_rfl (min_le_right _ _)
  holds := Nat.zero_le _

namespace Roomy

variable (roomy : a.Roomy)
include roomy

private theorem feed (input : Bytes) : (a.feed input).2.Roomy := by
  obtain ⟨grown, within⟩ := a.capacity_feed input
  have limit := a.limit_of_feed input
  refine ⟨limit ▸ roomy.bounded, ?_, ?_, ?_⟩
  · rw [grown]
    exact roomy.positive.trans_le (le_grow _ _ _)
  · rw [grown, limit]
    exact grow_le roomy.within
  · rw [grown]
    exact (a.pending_feed_le input).trans (size_le_grow roomy.bounded within roomy.positive)

private theorem fedWith (history : List Bytes) : (a.fedWith history).Roomy := by
  induction history generalizing a with
  | nil => exact roomy
  | cons input later ih => exact ih (roomy.feed input)

/-- **Any feeds** make of the capacity what one doubling for the greatest size does. -/
theorem capacity_fedWith (history : List Bytes) :
    (a.fedWith history).capacity = grow a.limit (a.peak history) a.capacity := by
  induction history generalizing a with
  | nil => exact (grow_of_le (Nat.zero_le _)).symm
  | cons input later ih =>
      obtain ⟨grown, within⟩ := a.capacity_feed input
      have rest := ih (roomy.feed input)
      rw [a.limit_of_feed input, grown, grow_grow roomy.bounded within roomy.positive] at rest
      exact rest

private theorem capacity_le_fedWith (history : List Bytes) : a.capacity ≤
    (a.fedWith history).capacity := by
  rw [roomy.capacity_fedWith]
  exact le_grow _ _ _

/-- A successful feed doubles the capacity in finitely many rounds, and what is held when the buffer
is enlarged is no more than the new capacity. -/
theorem settles {input : Bytes} {completed : Option Bytes}
    (fed : (a.feed input).1.result = .ok completed) :
    (∃ rounds, Settles a.limit (a.pending.length + (input.length - (a.feed input).1.rest.length))
        a.capacity rounds ∧ (a.feed input).2.capacity = (doubled a.limit)^[rounds] a.capacity) ∧
      a.pending.length ≤ (a.feed input).2.capacity := by
  obtain ⟨grown, within⟩ := a.capacity_feed input
  rw [← reach_of_ok fed, grown]
  exact ⟨grow_settles roomy.bounded within roomy.positive, roomy.holds.trans (le_grow _ _ _)⟩

end Roomy

/-- **The greatest size decides.** Take any assembler that comes of a new one, with a limit that the
machine can express. If the greatest size of a packet in progress that any feed reached is no more
than the first capacity, the capacity is still that one; otherwise it is the least number that this
size does not exceed among the first capacity times the powers of two, each cut off at the limit.
So it never shrinks, and histories with the same greatest size end with the same capacity. What is
held never exceeds the capacity, which never exceeds the limit, or 1 if that is zero. In each
successful feed, doubling ends with the first round after which the size fits, and what is held
before is no more than the capacity that comes of it. -/
theorem capacity_from_peak (initial limit : Nat) (bounded : limit ≤ maxSize)
    (history : List Bytes) :
    let first := max 1 (min initial limit)
    let greatest := (new initial limit).peak history
    let a := (new initial limit).fedWith history
    (greatest ≤ first → a.capacity = first) ∧
    (first < greatest →
      IsLeast {c | (∃ k, c = min limit (first * 2 ^ k)) ∧ greatest ≤ c} a.capacity) ∧
    (∀ later, a.capacity ≤ (a.fedWith later).capacity) ∧
    (∀ history', (new initial limit).peak history' = greatest →
      ((new initial limit).fedWith history').capacity = a.capacity) ∧
    (a.pending.length ≤ a.capacity ∧ a.capacity ≤ max 1 limit) ∧
    ∀ input completed, (a.feed input).1.result = .ok completed →
      (∃ rounds, Settles limit (a.pending.length + (input.length - (a.feed input).1.rest.length))
        a.capacity rounds ∧ (a.feed input).2.capacity = (doubled limit)^[rounds] a.capacity) ∧
      a.pending.length ≤ (a.feed input).2.capacity := by
  intro first greatest a
  have fresh := roomy_new initial bounded
  have roomy : a.Roomy := fresh.fedWith history
  have same : a.limit = limit := limit_fedWith history
  have grown : a.capacity = grow limit greatest first := fresh.capacity_fedWith history
  have within : greatest ≤ limit := (new initial limit).peak_le history
  refine ⟨?_, ?_, roomy.capacity_le_fedWith, ?_, ⟨roomy.holds, same ▸ roomy.within⟩, ?_⟩
  · intro fits
    rw [grown, grow_of_le fits]
  · intro short
    rw [grown]
    exact isLeast_grow bounded within fresh.positive short
  · intro history' alike
    rw [grown, fresh.capacity_fedWith, alike]
    rfl
  · intro input completed fed
    rw [← same]
    exact roomy.settles fed

/-- At most 11 bytes a packet and a buffer for 2 at first: a packet of 3 bytes, one of 12 that is
rejected, and one of 9 bytes that comes in two parts. -/
theorem capacity_cut_off_at_the_limit :
    let history : List Bytes := [[97, 98, 10], List.replicate 12 97, List.replicate 8 97, [10]]
    11 ≤ maxSize ∧ 2 < (new 2 11).peak history ∧
      IsLeast {c | (∃ k, c = min 11 (2 * 2 ^ k)) ∧ 9 ≤ c} ((new 2 11).fedWith history).capacity ∧
      ((new 2 11).fedWith history).capacity = 11 := by
  intro history
  have bounded : 11 ≤ maxSize := by decide
  have greatest : (new 2 11).peak history = 9 := by decide +kernel
  obtain ⟨_, closed, _⟩ := capacity_from_peak 2 11 bounded history
  rw [greatest] at closed
  exact ⟨bounded, by rw [greatest]; decide, closed (by decide), by decide +kernel⟩

end Assembler

end PacketLog
