import PacketLog.Framing.Packets

/-! # Assembling packets from reads

An `Assembler` holds the bytes of a packet in progress. It is offered whatever a read delivered and
takes bytes up to the next newline (`Assembler.feed`), which completes a packet, or takes them all.
A packet that would outgrow the limit is rejected: the offer is left untouched and the bytes held
so far are forgotten, so that the next offer starts a new packet.

The capacity is the size of the buffer the bytes are held in. It starts at the initial capacity,
doubles as needed and never passes the limit. What a feed answers does not depend on it.
-/

namespace PacketLog

/-- The largest size the machine can express. -/
def maxSize : Nat := UInt64.size - 1

/-- A packet in progress: the bytes held so far, the capacity of their buffer, and the largest
packet accepted. -/
structure Assembler where
  pending : Bytes
  capacity : Nat
  limit : Nat
  deriving DecidableEq, Repr

/-- A packet was rejected: the size it would have reached, and the limit. -/
structure TooLarge where
  size : Nat
  limit : Nat
  deriving DecidableEq, Repr

/-- The text a rejected packet is reported with. -/
def TooLarge.message (e : TooLarge) : String :=
  s!"packet exceeds maximum size ({e.size} > {e.limit})"

/-- What a feed answers: the packet it completed, if any, or that it rejected one, and the bytes it
has left of those it was offered. -/
structure Answer where
  result : Except TooLarge (Option Bytes)
  rest : Bytes

namespace Assembler

/-- A new assembler holds nothing. Its capacity is the initial one, but at most the limit and never
zero. -/
def new (initial limit : Nat) : Assembler where
  pending := []
  capacity := max 1 (min initial limit)
  limit := limit

/-- One doubling of a capacity: it stops at the largest size and at the limit. -/
def doubled (limit capacity : Nat) : Nat := min (min (2 * capacity) maxSize) limit

/-- Doubles a capacity until `needed` fits. A doubling that no longer helps ends the attempt. -/
def grow (limit needed capacity : Nat) : Nat :=
  if capacity < needed ∧ capacity < doubled limit capacity then
    grow limit needed (doubled limit capacity)
  else capacity
termination_by needed - capacity

/-- Adds bytes to those held, unless the packet would outgrow the limit. -/
def hold (a : Assembler) (chunk : Bytes) : Except TooLarge Assembler :=
  let needed := a.pending.length + chunk.length
  if a.limit < needed then .error ⟨needed, a.limit⟩
  else .ok { a with pending := a.pending ++ chunk, capacity := grow a.limit needed a.capacity }

/-- Forgets the bytes held so far. -/
def clear (a : Assembler) : Assembler := { a with pending := [] }

/-- Takes bytes up to and including the next newline, or all of them when there is none. A feed that
rejects a packet takes nothing. -/
def feed (a : Assembler) (input : Bytes) : Answer × Assembler :=
  match splitPacket? input with
  | some (packet, rest) =>
      match a.hold packet with
      | .ok held => (⟨.ok (some held.pending), rest⟩, held.clear)
      | .error e => (⟨.error e, input⟩, a.clear)
  | none =>
      match a.hold input with
      | .ok held => (⟨.ok none, []⟩, held)
      | .error e => (⟨.error e, input⟩, a.clear)

/-- A successful feed of some bytes takes at least one of them. -/
theorem feed_rest_length_lt {a next : Assembler} {input rest : Bytes} {packet : Option Bytes}
    (fed : a.feed input = (⟨.ok packet, rest⟩, next)) (nonempty : input ≠ []) :
    rest.length < input.length := by
  unfold feed at fed
  split at fed
  · rename_i first left cutOff
    split at fed
    · simp only [Prod.mk.injEq, Answer.mk.injEq] at fed
      obtain ⟨⟨_, rfl⟩, _⟩ := fed
      exact splitPacket?_length_lt cutOff
    · simp at fed
  · split at fed
    · simp only [Prod.mk.injEq, Answer.mk.injEq] at fed
      obtain ⟨⟨_, rfl⟩, _⟩ := fed
      exact List.length_pos_iff.2 nonempty
    · simp at fed

/-- One call of `feed`: what it answered and the assembler it left. -/
structure Call where
  answer : Answer
  next : Assembler

/-- Feeds a read until nothing of it is left or a packet is rejected: the calls made, in order. -/
def calls (a : Assembler) (input : Bytes) : List Call :=
  if empty : input = [] then []
  else
    match fed : a.feed input with
    | (⟨.error e, rest⟩, next) => [⟨⟨.error e, rest⟩, next⟩]
    | (⟨.ok packet, rest⟩, next) =>
        have := feed_rest_length_lt fed empty
        ⟨⟨.ok packet, rest⟩, next⟩ :: calls next rest
termination_by input.length

/-- The packets that some calls completed, in order. -/
def Call.packets (calls : List Call) : List Bytes :=
  calls.filterMap fun call => match call.answer.result with
    | .ok packet => packet
    | .error _ => none

end Assembler

end PacketLog
