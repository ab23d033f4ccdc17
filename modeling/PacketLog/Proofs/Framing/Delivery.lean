import PacketLog.Framing.Assembler
import PacketLog.Proofs.Framing.Admission

/-! # What an assembler makes of a stream

An assembler that has rejected nothing has made admissible packets of the bytes it took and holds
the tail (`Assembler.Framed`). A feed keeps this up or rejects the first segment of the stream that
is too long (`Assembler.Framed.feed_ok`, `Assembler.Framed.feed_error`), and so do the calls made on
one chunk (`Assembler.Framed.calls`) and on a stream that comes in chunks (`Assembler.deliver`).
-/

namespace PacketLog

namespace Assembler

/-! ## One feed -/

/-- The outcomes of a feed: it completes a packet, holds everything, or rejects a segment. -/
inductive Fed (a : Assembler) (input : Bytes) : Answer × Assembler → Prop
  | packet {first rest : Bytes} {capacity : Nat} (whole : IsPacket first)
      (split : input = first ++ rest) (within : (a.pending ++ first).length ≤ a.limit) :
      Fed a input (⟨.ok (some (a.pending ++ first)), rest⟩, ⟨[], capacity, a.limit⟩)
  | tail {capacity : Nat} (without : newline ∉ input)
      (within : (a.pending ++ input).length ≤ a.limit) :
      Fed a input (⟨.ok none, []⟩, ⟨a.pending ++ input, capacity, a.limit⟩)
  | tooLong {segment rest : Bytes} (cutOff : IsPacket segment ∨ newline ∉ segment ∧ rest = [])
      (split : input = segment ++ rest) (long : a.limit < (a.pending ++ segment).length) :
      Fed a input (⟨.error ⟨(a.pending ++ segment).length, a.limit⟩, input⟩, a.clear)

/-- Every feed has one of these outcomes. -/
theorem feed_fed (a : Assembler) (input : Bytes) : a.Fed input (a.feed input) := by
  unfold feed
  split
  · rename_i first rest found
    have whole := isPacket_of_splitPacket? found
    have split := (splitPacket?_append found).symm
    by_cases long : a.limit < (a.pending ++ first).length
    · rw [List.length_append] at long
      rw [hold, if_pos long, ← List.length_append]
      exact .tooLong (.inl whole) split (List.length_append ▸ long)
    · have within : (a.pending ++ first).length ≤ a.limit := Nat.le_of_not_lt long
      rw [List.length_append] at long
      rw [hold, if_neg long]
      exact .packet whole split within
  · rename_i found
    have without := splitPacket?_eq_none.mp found
    by_cases long : a.limit < (a.pending ++ input).length
    · rw [List.length_append] at long
      rw [hold, if_pos long, ← List.length_append]
      exact .tooLong (.inr ⟨without, rfl⟩) (List.append_nil input).symm (List.length_append ▸ long)
    · have within : (a.pending ++ input).length ≤ a.limit := Nat.le_of_not_lt long
      rw [List.length_append] at long
      rw [hold, if_neg long]
      exact .tail without within

/-- Nothing is pending after a packet was completed. -/
theorem pending_of_feed {a next : Assembler} {input packet rest : Bytes}
    (fed : a.feed input = (⟨.ok (some packet), rest⟩, next)) : next.pending = [] := by
  have outcome := a.feed_fed input
  rw [fed] at outcome
  cases outcome with
  | packet => rfl

/-- A feed that completes no packet leaves nothing of its input. -/
theorem rest_of_feed {a next : Assembler} {input rest : Bytes}
    (fed : a.feed input = (⟨.ok none, rest⟩, next)) : rest = [] := by
  have outcome := a.feed_fed input
  rw [fed] at outcome
  cases outcome with
  | tail => rfl

/-- An assembler that holds nothing passes on a packet as it comes. -/
theorem feed_packet {a : Assembler} (idle : a.pending = []) {packet : Bytes}
    (whole : IsPacket packet) (within : packet.length ≤ a.limit) (rest : Bytes) :
    (a.feed (packet ++ rest)).1 = ⟨.ok (some packet), rest⟩ := by
  have fits : ¬a.limit < a.pending.length + packet.length := by
    rwa [idle, List.length_nil, Nat.zero_add, Nat.not_lt]
  rw [feed, splitPacket?_packet_append whole]
  dsimp only
  rw [hold, if_neg fits, idle]
  rfl

/-- A feed never changes the limit. -/
theorem limit_of_feed (a : Assembler) (input : Bytes) : (a.feed input).2.limit = a.limit := by
  have outcome := a.feed_fed input
  generalize a.feed input = result at outcome
  cases outcome <;> rfl

/-- What an assembler has made of the bytes it took: admissible packets, and a tail within the
limit, which it holds. -/
structure Framed (a : Assembler) (taken : Bytes) (packets : List Bytes) : Prop where
  admissible : ∀ packet ∈ packets, Admissible a.limit packet
  joined : packets.flatten ++ a.pending = taken
  unfinished : newline ∉ a.pending
  room : a.pending.length ≤ a.limit

/-- A new assembler has taken nothing. -/
theorem framed_new (initial limit : Nat) : (new initial limit).Framed [] [] where
  admissible := fun _ member => absurd member List.not_mem_nil
  joined := rfl
  unfinished := List.not_mem_nil
  room := Nat.zero_le _

namespace Framed

variable {a : Assembler} {taken : Bytes} {packets : List Bytes} (framed : a.Framed taken packets)
include framed

/-- The packets made are those that the bytes taken are cut into. -/
theorem cut_eq : cut taken = (packets, a.pending) := by
  rw [← framed.joined]
  exact cut_flatten_append_of_not_mem (fun packet member => (framed.admissible packet member).whole)
    framed.unfinished

/-- Nothing that was taken in is too long. -/
theorem oversize?_eq_none : oversize? a.limit taken = none := by
  rw [← framed.joined, oversize?_flatten_append framed.admissible,
    oversize?_of_not_mem framed.unfinished, if_neg (Nat.not_lt.mpr framed.room)]

/-- What is admitted of the bytes taken in are the packets given out. -/
theorem admitted_eq : admitted a.limit taken = packets := by
  rw [admitted_eq_cut framed.oversize?_eq_none, framed.cut_eq]

/-- A successful feed takes the input up to what it leaves, and adds the packet it completes. -/
theorem feed_ok {input rest : Bytes} {result : Option Bytes} {next : Assembler}
    (fed : a.feed input = (⟨.ok result, rest⟩, next)) :
    ∃ consumed, input = consumed ++ rest ∧ next.limit = a.limit ∧
      next.Framed (taken ++ consumed) (packets ++ result.toList) := by
  have outcome := a.feed_fed input
  rw [fed] at outcome
  cases outcome with
  | @packet first _ _ whole split within =>
      refine ⟨first, split, rfl, ?_, ?_, List.not_mem_nil, Nat.zero_le _⟩
      · intro packet member
        obtain earlier | same := List.mem_append.mp member
        · exact framed.admissible packet earlier
        · obtain rfl := List.mem_singleton.mp same
          exact ⟨whole.append_left framed.unfinished, within⟩
      · rw [← framed.joined]
        simp
  | tail without within =>
      refine ⟨input, (List.append_nil input).symm, rfl, ?_, ?_, ?_, within⟩
      · simpa using framed.admissible
      · rw [← framed.joined]
        simp
      · simpa using ⟨framed.unfinished, without⟩

/-- **What a failed feed says of the stream.** It has a segment that is too long; the first one has
the reported size, and the packets in front of it are those already made. -/
theorem feed_error {input rest : Bytes} {e : TooLarge} {next : Assembler}
    (fed : a.feed input = (⟨.error e, rest⟩, next)) :
    admitted a.limit (taken ++ input) = packets ∧
      ∃ segment, oversize? a.limit (taken ++ input) = some segment ∧
        e = ⟨segment.length, a.limit⟩ := by
  have outcome := a.feed_fed input
  rw [fed] at outcome
  cases outcome with
  | @tooLong segment rest cutOff split long =>
      have stream : taken ++ input = packets.flatten ++ (a.pending ++ segment ++ rest) := by
        rw [← framed.joined, split]
        simp
      rw [stream, admitted_flatten_append framed.admissible,
        oversize?_flatten_append framed.admissible]
      obtain whole | ⟨without, rfl⟩ := cutOff
      · have joined := whole.append_left framed.unfinished
        rw [admitted_long_packet_append joined long, oversize?_long_packet_append joined long,
          List.append_nil]
        exact ⟨rfl, _, rfl, rfl⟩
      · have absent : newline ∉ a.pending ++ segment := by
          simpa using ⟨framed.unfinished, without⟩
        rw [List.append_nil, admitted_of_not_mem absent, oversize?_of_not_mem absent, if_pos long,
          List.append_nil]
        exact ⟨rfl, _, rfl, rfl⟩

end Framed

/-! ## The calls made on one chunk -/

/-- The rejection among some calls, if there is one. -/
def Call.rejection? (calls : List Call) : Option TooLarge :=
  calls.findSome? fun call => match call.answer.result with
    | .error e => some e
    | .ok _ => none

/-- The assembler that some calls leave. -/
def after (a : Assembler) (calls : List Call) : Assembler := calls.foldl (fun _ call => call.next) a

/-- Feeds the chunks of a stream one after another until a packet is rejected: the calls made, in
order. -/
def deliver (a : Assembler) : List Bytes → List Call
  | [] => []
  | chunk :: rest =>
      let made := a.calls chunk
      if (Call.rejection? made).isSome then made else made ++ (a.after made).deliver rest

/-- No input takes no calls. -/
theorem calls_nil (a : Assembler) : a.calls [] = [] := by rw [calls, dif_pos rfl]

/-- A call that fails is the last one. -/
theorem calls_of_error {a next : Assembler} {input rest : Bytes} {e : TooLarge}
    (nonempty : input ≠ []) (fed : a.feed input = (⟨.error e, rest⟩, next)) :
    a.calls input = [⟨⟨.error e, rest⟩, next⟩] := by
  rw [calls, dif_neg nonempty]
  split
  · rename_i same
    rw [fed] at same
    simp only [Prod.mk.injEq, Answer.mk.injEq, Except.error.injEq] at same
    obtain ⟨⟨rfl, rfl⟩, rfl⟩ := same
    rfl
  · rename_i same
    rw [fed] at same
    simp at same

/-- After a call that succeeds, what it left is fed. -/
theorem calls_of_ok {a next : Assembler} {input rest : Bytes} {result : Option Bytes}
    (nonempty : input ≠ []) (fed : a.feed input = (⟨.ok result, rest⟩, next)) :
    a.calls input = ⟨⟨.ok result, rest⟩, next⟩ :: next.calls rest := by
  rw [calls, dif_neg nonempty]
  split
  · rename_i same
    rw [fed] at same
    simp at same
  · rename_i same
    rw [fed] at same
    simp only [Prod.mk.injEq, Answer.mk.injEq, Except.ok.injEq] at same
    obtain ⟨⟨rfl, rfl⟩, rfl⟩ := same
    rfl

/-- What calls on a stream account for: without a rejection the assembler they leave has made their
packets of the stream, and a rejection tells the size of the first segment that is too long, which
follows their packets. -/
def Accounts (limit : Nat) (stream : Bytes) (packets : List Bytes) (last : Assembler) :
    Option TooLarge → Prop
  | none => last.limit = limit ∧ last.Framed stream packets
  | some e => admitted limit stream = packets ∧
      ∃ segment, oversize? limit stream = some segment ∧ e = ⟨segment.length, limit⟩

/-- **One chunk.** The calls made on a chunk account for the stream up to its end. -/
theorem Framed.calls {a : Assembler} {taken : Bytes} {packets : List Bytes}
    (framed : a.Framed taken packets) (input : Bytes) :
    Accounts a.limit (taken ++ input) (packets ++ Call.packets (a.calls input))
      (a.after (a.calls input)) (Call.rejection? (a.calls input)) := by
  induction a, input using calls.induct generalizing taken packets with
  | case1 a =>
      rw [calls_nil]
      refine ⟨rfl, ?_⟩
      change a.Framed (taken ++ []) (packets ++ [])
      rwa [List.append_nil, List.append_nil]
  | case2 a input nonempty e left next fed =>
      rw [calls_of_error nonempty fed]
      obtain ⟨same, segment, found, size⟩ := framed.feed_error fed
      exact ⟨by rw [same]; exact (List.append_nil packets).symm, segment, found, size⟩
  | case3 a input nonempty result left next fed _ ih =>
      obtain ⟨consumed, split, limit, after⟩ := framed.feed_ok fed
      have rest := ih after
      rw [limit, List.append_assoc, ← split, List.append_assoc] at rest
      rw [calls_of_ok nonempty fed]
      have emitted : Call.packets (⟨⟨.ok result, left⟩, next⟩ :: next.calls left) =
          result.toList ++ Call.packets (next.calls left) := by
        cases result <;> rfl
      rw [emitted]
      exact rest

/-! ## Streams that come in chunks -/

namespace Framed

variable {a : Assembler} {taken : Bytes} {packets : List Bytes} (framed : a.Framed taken packets)
include framed

/-- Chunks without a rejection are made into packets and a tail as their concatenation would be. -/
theorem deliver_ok {chunks : List Bytes} (accepted : Call.rejection? (a.deliver chunks) = none) :
    (a.after (a.deliver chunks)).limit = a.limit ∧
      (a.after (a.deliver chunks)).Framed (taken ++ chunks.flatten)
        (packets ++ Call.packets (a.deliver chunks)) := by
  induction chunks generalizing a taken packets with
  | nil =>
      refine ⟨rfl, ?_⟩
      change a.Framed (taken ++ []) (packets ++ [])
      rwa [List.append_nil, List.append_nil]
  | cons chunk rest ih =>
      have first := framed.calls chunk
      simp only [deliver] at accepted ⊢
      cases outcome : Call.rejection? (a.calls chunk) with
      | some e => simp [outcome] at accepted
      | none =>
          rw [outcome] at first
          obtain ⟨limit, made⟩ := first
          simp only [outcome, Option.isSome_none, Bool.false_eq_true, ↓reduceIte] at accepted ⊢
          have later : Call.rejection? ((a.after (a.calls chunk)).deliver rest) = none := by
            rw [Call.rejection?, List.findSome?_append, Option.or_eq_none_iff] at accepted
            exact accepted.2
          obtain ⟨same, whole⟩ := ih made later
          rw [after, List.foldl_append, Call.packets, List.filterMap_append, ← List.append_assoc,
            List.flatten_cons, ← List.append_assoc]
          exact ⟨same.trans limit, whole⟩

/-- A rejection happens in the first chunk that brings a segment that is too long. -/
theorem deliver_error {chunks : List Bytes} {e : TooLarge}
    (rejected : Call.rejection? (a.deliver chunks) = some e) :
    ∃ before chunk later, chunks = before ++ chunk :: later ∧
      oversize? a.limit (taken ++ before.flatten) = none ∧
      admitted a.limit (taken ++ before.flatten ++ chunk) =
        packets ++ Call.packets (a.deliver chunks) ∧
      ∃ segment, oversize? a.limit (taken ++ before.flatten ++ chunk) = some segment ∧
        e = ⟨segment.length, a.limit⟩ := by
  induction chunks generalizing a taken packets with
  | nil => simp [deliver, Call.rejection?] at rejected
  | cons chunk rest ih =>
      have first := framed.calls chunk
      simp only [deliver] at rejected ⊢
      cases outcome : Call.rejection? (a.calls chunk) with
      | some e' =>
          simp only [outcome, Option.isSome_some, ↓reduceIte] at rejected ⊢
          obtain rfl := Option.some.inj rejected
          rw [outcome] at first
          refine ⟨[], chunk, rest, rfl, ?_, ?_⟩
          · rw [List.flatten_nil, List.append_nil]
            exact framed.oversize?_eq_none
          · rw [List.flatten_nil, List.append_nil]
            exact first
      | none =>
          rw [outcome] at first
          obtain ⟨limit, made⟩ := first
          simp only [outcome, Option.isSome_none, Bool.false_eq_true, ↓reduceIte] at rejected ⊢
          have later : Call.rejection? ((a.after (a.calls chunk)).deliver rest) = some e := by
            rw [Call.rejection?, List.findSome?_append] at rejected
            rw [Call.rejection?] at outcome
            rwa [outcome, Option.none_or] at rejected
          obtain ⟨before, next, others, split, fits, same, found⟩ := ih made later
          rw [limit] at fits same found
          refine ⟨chunk :: before, next, others, by rw [split]; rfl, ?_, ?_, ?_⟩
          · rwa [List.flatten_cons, ← List.append_assoc]
          · rw [List.flatten_cons, ← List.append_assoc, same, Call.packets, Call.packets,
              Call.packets, List.filterMap_append, List.append_assoc]
          · rwa [List.flatten_cons, ← List.append_assoc]

end Framed

/-- A stream has a segment that is too long exactly when a new assembler rejects one, and the
packets made are those in front of it. -/
theorem deliver_new (initial limit : Nat) (chunks : List Bytes) :
    Call.packets ((new initial limit).deliver chunks) = admitted limit chunks.flatten ∧
      (Call.rejection? ((new initial limit).deliver chunks)).isSome =
        (oversize? limit chunks.flatten).isSome := by
  have fresh := framed_new initial limit
  cases outcome : Call.rejection? ((new initial limit).deliver chunks) with
  | none =>
      obtain ⟨same, made⟩ := fresh.deliver_ok outcome
      have packets := made.admitted_eq
      have fits := made.oversize?_eq_none
      rw [same] at packets fits
      exact ⟨packets.symm, (congrArg Option.isSome fits).symm⟩
  | some e =>
      obtain ⟨before, chunk, later, split, _, packets, segment, found, _⟩ :=
        fresh.deliver_error outcome
      have stream : chunks.flatten = before.flatten ++ chunk ++ later.flatten := by
        rw [split]
        simp
      have long : (oversize? limit (before.flatten ++ chunk)).isSome :=
        Option.isSome_iff_exists.mpr ⟨segment, found⟩
      obtain ⟨same, still⟩ := admitted_append_of_oversize long later.flatten
      rw [stream, same, still]
      exact ⟨packets.symm, rfl⟩

/-- **Assemblers undo concatenation.** Admissible packets that follow each other are what a new
assembler makes of their bytes, with nothing rejected or left over. -/
theorem deliver_flatten (initial : Nat) {limit : Nat} {packets chunks : List Bytes}
    (admissible : ∀ packet ∈ packets, Admissible limit packet)
    (same : chunks.flatten = packets.flatten) :
    Call.packets ((new initial limit).deliver chunks) = packets ∧
      Call.rejection? ((new initial limit).deliver chunks) = none ∧
      ((new initial limit).after ((new initial limit).deliver chunks)).pending = [] := by
  have whole : cut chunks.flatten = (packets, []) := by
    rw [same, ← List.append_nil packets.flatten]
    exact cut_flatten_append_of_not_mem (fun packet member => (admissible packet member).whole)
      List.not_mem_nil
  have fits : oversize? limit chunks.flatten = none := by
    rw [same, ← List.append_nil packets.flatten, oversize?_flatten_append admissible,
      oversize?_of_not_mem List.not_mem_nil]
    rfl
  obtain ⟨made, rejected⟩ := deliver_new initial limit chunks
  rw [fits] at rejected
  have accepted := Option.isSome_eq_false_iff.mp rejected
  have framed := ((framed_new initial limit).deliver_ok (Option.isNone_iff_eq_none.mp accepted)).2
  have held := framed.cut_eq
  rw [List.nil_append, whole] at held
  refine ⟨?_, Option.isNone_iff_eq_none.mp accepted, (congrArg Prod.snd held).symm⟩
  rw [made, admitted_eq_cut fits, whole]

/-- **Framing under every chunking.** A stream that is delivered in chunks to a new assembler is cut
into packets and a tail; the packets made are those in front of the first segment that is longer
than the limit, and a call fails exactly when there is such a segment. It fails in the first chunk
that brings the stream to one, with nothing of it in a packet, and reports its size so far. If no
call fails, the packets and the bytes held are the stream. Neither the chunks nor the initial
capacity matter to the packets or to whether a call fails. -/
theorem chunked_framing (initial limit : Nat) (chunks : List Bytes) :
    let made := (new initial limit).deliver chunks
    let held := ((new initial limit).after made).pending
    (∃ packets tail, packets.flatten ++ tail = chunks.flatten ∧
      (∀ packet ∈ packets, IsPacket packet) ∧ newline ∉ tail ∧
      Call.packets made = packets.takeWhile (·.length ≤ limit) ∧
      ((Call.rejection? made).isSome ↔ ∃ segment ∈ packets ++ [tail], limit < segment.length)) ∧
    (∀ e, Call.rejection? made = some e →
      ∃ before chunk later segment rest, chunks = before ++ chunk :: later ∧
        oversize? limit before.flatten = none ∧
        oversize? limit (before.flatten ++ chunk) = some segment ∧
        before.flatten ++ chunk = (Call.packets made).flatten ++ segment ++ rest ∧
        e.limit = limit ∧ limit < e.size ∧ e.size = segment.length) ∧
    (Call.rejection? made = none →
      (Call.packets made).flatten ++ held = chunks.flatten ∧ newline ∉ held) ∧
    ∀ (initial' : Nat) (chunks' : List Bytes), chunks'.flatten = chunks.flatten →
      Call.packets ((new initial' limit).deliver chunks') = Call.packets made ∧
      (Call.rejection? ((new initial' limit).deliver chunks')).isSome =
        (Call.rejection? made).isSome := by
  intro made held
  have fresh := framed_new initial limit
  obtain ⟨packets, fails⟩ := deliver_new initial limit chunks
  refine ⟨⟨(cut chunks.flatten).1, (cut chunks.flatten).2, flatten_cut_append _,
    fun _ => isPacket_of_mem_cut, newline_not_mem_cut _, packets, ?_⟩, ?_, ?_, ?_⟩
  · rw [fails, oversize?, segments, List.find?_isSome]
    simp only [decide_eq_true_eq]
  · intro e rejected
    obtain ⟨before, chunk, later, split, fits, same, segment, found, size⟩ :=
      fresh.deliver_error rejected
    obtain ⟨long, rest, position⟩ := oversize?_position found
    rw [same, List.nil_append] at position
    refine ⟨before, chunk, later, segment, rest, split, fits, found, position, ?_⟩
    rw [size]
    exact ⟨rfl, long, rfl⟩
  · intro accepted
    obtain ⟨_, made⟩ := fresh.deliver_ok accepted
    exact ⟨made.joined, made.unfinished⟩
  · intro initial' chunks' same
    obtain ⟨packets', fails'⟩ := deliver_new initial' limit chunks'
    rw [packets', fails', same]
    exact ⟨packets.symm, fails.symm⟩

end Assembler

end PacketLog
