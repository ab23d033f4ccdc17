import PacketLog.Proofs.Storage.LockOrder

/-! # Reading a log out

A reader fetches the file chunk by chunk, and a sink may take each chunk in as many pieces as it
likes, refuse to, or break down. Whatever it does, what it has accepted is at every single step a
part of the log from the beginning, and the log is left as it is (`SharedLog.Reading.after`). So a
read ends in one of two ways (`SharedLog.Streams`): all of the log was accepted and its length is
the answer, or something of it is missing, and one of the turns that were planned is to blame.
-/

namespace PacketLog

/-- What a turn makes of a handover that it puts an end to. Bytes are taken by the others, or the
call was only interrupted and is repeated. -/
def SinkTurn.refusal? : SinkTurn → Option Handover
  | .upTo 0 => some (.failed .wroteNothing)
  | .upTo _ => none
  | .fail error => if error.isInterrupted then none else some (.failed error)
  | .crash => some .crashed

/-- A turn that is repeated and takes nothing. -/
def SinkTurn.isInterruption : SinkTurn → Bool
  | .fail error => error.isInterrupted
  | _ => false

namespace Sink

/-- The same sink if nothing interrupted it. -/
def uninterrupted (sink : Sink) : Sink :=
  { sink with plan := sink.plan.filter (!·.isInterruption) }

/-- One write call of a chunk that is not empty: some of it is accepted or it is to be repeated, or
the turn is to blame for the end of the handover. -/
inductive Offered (sink : Sink) (left : Bytes) : Written × Sink → Prop
  | accepted {count : Nat} {next : Sink} (plan : next.plan <:+ sink.plan)
      (received : next.received = sink.received ++ left.take (count + 1)) :
      Offered sink left (.accepted (count + 1), next)
  | nothing {next : Sink} (turn : .upTo 0 ∈ sink.plan) (plan : next.plan <:+ sink.plan)
      (received : next.received = sink.received) : Offered sink left (.accepted 0, next)
  | failed {error : IoError} {next : Sink} (turn : .fail error ∈ sink.plan)
      (plan : next.plan <:+ sink.plan) (received : next.received = sink.received) :
      Offered sink left (.failed error, next)
  | crashed {next : Sink} (turn : .crash ∈ sink.plan) (plan : next.plan <:+ sink.plan)
      (received : next.received = sink.received) : Offered sink left (.crashed, next)

private theorem offered (sink : Sink) {left : Bytes} (something : left ≠ []) :
    Offered sink left (sink.offer left) := by
  have long := List.length_pos_iff.mpr something
  obtain ⟨plan, received⟩ := sink
  cases plan with
  | nil =>
      obtain ⟨count, whole⟩ := Nat.exists_eq_succ_of_ne_zero long.ne'
      rw [offer]
      simp only [whole]
      refine .accepted (List.suffix_refl _) ?_
      rw [List.take_of_length_le (Nat.le_of_eq whole)]
  | cons turn plan =>
      have used := List.suffix_cons turn plan
      cases turn with
      | fail error => exact .failed List.mem_cons_self used rfl
      | crash => exact .crashed List.mem_cons_self used rfl
      | upTo limit =>
          cases limit with
          | zero =>
              rw [offer]
              simp only [Nat.zero_min, List.take_zero, List.append_nil]
              exact .nothing List.mem_cons_self used rfl
          | succ limit =>
              obtain ⟨count, some⟩ : ∃ count, min (limit + 1) left.length = count + 1 :=
                Nat.exists_eq_succ_of_ne_zero (by omega)
              rw [offer]
              simp only [some]
              refine .accepted used ?_
              rw [← some, ← List.take_eq_take_min]

/-! ## Interruptions -/

private theorem writeAll_uninterrupted (sink : Sink) (data : Bytes) :
    writeAll sink.uninterrupted.plan sink.received data =
      ((writeAll sink.plan sink.received data).1,
        (writeAll sink.plan sink.received data).2.uninterrupted) := by
  obtain ⟨plan, received⟩ := sink
  induction plan generalizing received data with
  | nil => rfl
  | cons turn rest ih =>
      by_cases nothing : data = []
      · rw [nothing, writeAll_nil, writeAll_nil]
        rfl
      · cases turn with
        | upTo limit =>
            cases limit with
            | zero => simp [uninterrupted, SinkTurn.isInterruption, writeAll, nothing]
            | succ limit =>
                have later := ih (data.drop (limit + 1)) (received ++ data.take (limit + 1))
                simpa [uninterrupted, SinkTurn.isInterruption, writeAll, nothing] using later
        | fail error =>
            by_cases again : error.isInterrupted
            · have later := ih data received
              simpa [uninterrupted, SinkTurn.isInterruption, writeAll, nothing, again] using later
            · simp [uninterrupted, SinkTurn.isInterruption, writeAll, nothing, again]
        | crash => simp [uninterrupted, SinkTurn.isInterruption, writeAll, nothing]

/-- **Interruptions make no difference** to what is accepted, and how it ends. -/
theorem stream_uninterrupted (sink : Sink) (contents : Bytes) :
    sink.uninterrupted.stream contents =
      ((sink.stream contents).1, (sink.stream contents).2.uninterrupted) := by
  by_cases nothing : contents = []
  · rw [nothing, stream_nil, stream_nil]
  · rw [stream_eq _ nothing, stream_eq _ nothing]
    have chunk := sink.writeAll_uninterrupted (contents.take chunkSize)
    have same : sink.uninterrupted.received = sink.received := rfl
    rw [same, chunk]
    generalize writeAll sink.plan sink.received (contents.take chunkSize) = ended
    obtain ⟨ending, next⟩ := ended
    cases ending with
    | complete => exact next.stream_uninterrupted (contents.drop chunkSize)
    | failed e => rfl
    | crashed => rfl
termination_by contents.length
decreasing_by
  have := List.length_pos_iff.mpr nothing
  have : 0 < chunkSize := by decide
  simp only [List.length_drop]
  omega

end Sink

namespace Work

/-- What a reader hands over to. -/
def sink? : Work → Option Sink
  | .seeking sink | .fetching _ _ sink | .handing _ _ _ sink | .ended (.streamed _ sink) => some sink
  | _ => none

/-- The next step is a write call of the sink. -/
def callsSink : Work → Bool
  | .handing _ _ left _ => !left.isEmpty
  | _ => false

end Work

namespace SharedLog

variable {log : SharedLog} {s : Storage} {contents : Bytes} {sink : Sink}

/-- How a read of some bytes into a sink can end: the sink has accepted them all and is told how
many there are, or it has accepted some and not the others, and one of its turns is to blame. -/
inductive Streams (log : SharedLog) (contents : Bytes) (sink : Sink) : Run Nat × Sink → Prop
  | whole {next : Sink} (received : next.received = sink.received ++ contents) :
      Streams log contents sink (.answered (.ok contents.length), next)
  | cutOff {taken left : Bytes} {turn : SinkTurn} {ending : Handover} {next : Sink}
      (split : contents = taken ++ left) (unfinished : left ≠ [])
      (received : next.received = sink.received ++ taken) (planned : turn ∈ sink.plan)
      (blame : turn.refusal? = some ending) :
      Streams log contents sink (log.handed 0 ending, next)

/-- Where a read of some bytes into a sink can stand. -/
inductive Reading (log : SharedLog) (s : Storage) (contents : Bytes) (sink : Sink) : Work → Prop
  | seeking : Reading log s contents sink (.seeking sink)
  | fetching {location : Location} {fetched : Nat} {next : Sink}
      (stored : s.tree.get? location = some (.file contents)) (within : fetched ≤ contents.length)
      (plan : next.plan <:+ sink.plan)
      (received : next.received = sink.received ++ contents.take fetched) :
      Reading log s contents sink (.fetching location fetched next)
  | handing {location : Location} {fetched : Nat} {taken left : Bytes} {next : Sink}
      (stored : s.tree.get? location = some (.file contents)) (within : fetched ≤ contents.length)
      (split : contents.take fetched = taken ++ left) (plan : next.plan <:+ sink.plan)
      (received : next.received = sink.received ++ taken) :
      Reading log s contents sink (.handing location fetched left next)
  | ended {run : Run Nat} {next : Sink} (streams : log.Streams contents sink (run, next)) :
      Reading log s contents sink (.ended (.streamed run next))

namespace Reading

/-- Opening the file finds it, or that there is nothing to read. -/
theorem seek (holds : log.Holds s contents) :
    Reading log s contents sink (log.advance (.seeking sink, s)).1 := by
  rw [Holds] at holds
  rw [advance]
  cases found : Storage.onPath log.path (s.tree.lookupExisting s.cwd log.path) with
  | error e =>
      rw [found] at holds
      obtain ⟨missing, rfl⟩ := holds
      dsimp only
      rw [if_pos missing]
      exact .ended (.whole (List.append_nil _).symm)
  | ok existing =>
      obtain ⟨location, entry⟩ := existing
      rw [found] at holds
      cases entry with
      | file stored =>
          obtain rfl : stored = contents := holds
          have kept := (Storage.onPath_eq_ok_iff.mp found).2
          exact .fetching (FileTree.get?_of_lookupExisting kept).2 (Nat.zero_le _)
            (List.suffix_refl _) (List.append_nil _).symm
      | _ => exact holds.elim

private theorem fetch {location : Location} {fetched : Nat} {next : Sink}
    (stored : s.tree.get? location = some (.file contents)) (within : fetched ≤ contents.length)
    (plan : next.plan <:+ sink.plan)
    (received : next.received = sink.received ++ contents.take fetched) :
    Reading log s contents sink (log.advance (.fetching location fetched next, s)).1 := by
  rw [advance, stored]
  dsimp only
  by_cases finished : (contents.drop fetched).take Sink.chunkSize = []
  · have all : fetched = contents.length := by
      have positive : Sink.chunkSize ≠ 0 := by decide
      have rest := (List.take_eq_nil_iff.mp finished).resolve_left positive
      exact Nat.le_antisymm within (List.drop_eq_nil_iff.mp rest)
    rw [if_pos finished, all]
    refine .ended (.whole ?_)
    rw [received, all, List.take_length]
  · rw [if_neg finished]
    refine .handing stored ?_ ?_ plan received
    · simp only [List.length_take, List.length_drop]
      omega
    · rw [List.take_add, List.length_take, ← List.take_eq_take_min]

private theorem hand {location : Location} {fetched : Nat} {taken left : Bytes} {next : Sink}
    (stored : s.tree.get? location = some (.file contents)) (within : fetched ≤ contents.length)
    (split : contents.take fetched = taken ++ left) (plan : next.plan <:+ sink.plan)
    (received : next.received = sink.received ++ taken) :
    Reading log s contents sink (log.advance (.handing location fetched left next, s)).1 := by
  rw [advance]
  by_cases nothing : left = []
  · rw [if_pos nothing]
    refine .fetching stored within plan ?_
    rw [received, split, nothing, List.append_nil]
  · rw [if_neg nothing]
    -- Whoever ends the handover leaves what is still in the chunk, and the rest of the file.
    have whole : contents = taken ++ (left ++ contents.drop fetched) := by
      rw [← List.append_assoc, ← split, List.take_append_drop]
    have unfinished : left ++ contents.drop fetched ≠ [] :=
      fun empty => nothing (List.append_eq_nil_iff.mp empty).1
    have offered := next.offered nothing
    generalize next.offer left = answer at offered
    cases offered with
    | @accepted count after used more =>
        have further : contents.take fetched =
            taken ++ left.take (count + 1) ++ left.drop (count + 1) := by
          rw [split, List.append_assoc, List.take_append_drop]
        refine .handing stored within further (used.trans plan) ?_
        rw [more, received, List.append_assoc]
    | nothing turn used same =>
        exact .ended (.cutOff whole unfinished (same.trans received) (plan.subset turn) rfl)
    | @failed error after turn used same =>
        dsimp only
        by_cases again : error.isInterrupted
        · rw [if_pos again]
          exact .handing stored within split (used.trans plan) (same.trans received)
        · rw [if_neg again]
          refine .ended (.cutOff whole unfinished (same.trans received) (plan.subset turn) ?_)
          rw [SinkTurn.refusal?, if_neg again]
    | crashed turn used same =>
        exact .ended (.cutOff whole unfinished (same.trans received) (plan.subset turn) rfl)

/-- **One step** of a read. -/
theorem advance (holds : log.Holds s contents) {work : Work}
    (reading : Reading log s contents sink work) :
    Reading log s contents sink (log.advance (work, s)).1 := by
  cases reading with
  | seeking => exact seek holds
  | fetching stored within plan received => exact fetch stored within plan received
  | handing stored within split plan received => exact hand stored within split plan received
  | ended streams => exact .ended streams

/-- **Any number of steps** of a read. -/
theorem after (holds : log.Holds s contents) (sink : Sink) (steps : Nat) :
    Reading log s contents sink (log.after (.seeking sink, s) steps).1 := by
  induction steps with
  | zero => exact .seeking
  | succ steps ih =>
      have same : (log.after (.seeking sink, s) steps).2 = s := (after_onlyReads log rfl s steps).2
      rw [SharedLog.after]
      generalize log.after (.seeking sink, s) steps = reached at ih same
      obtain ⟨work, _⟩ := reached
      obtain rfl := same
      exact ih.advance holds

/-- What has been accepted is a part of the log, from the beginning. -/
theorem accepted {work : Work} (reading : Reading log s contents sink work) :
    ∃ next taken left, work.sink? = some next ∧ contents = taken ++ left ∧
      next.received = sink.received ++ taken := by
  cases reading with
  | seeking => exact ⟨sink, [], contents, rfl, rfl, (List.append_nil _).symm⟩
  | @fetching _ fetched next _ _ _ received =>
      exact ⟨next, _, contents.drop fetched, rfl, (List.take_append_drop _ _).symm, received⟩
  | @handing _ fetched taken left next _ _ split _ received =>
      refine ⟨next, taken, left ++ contents.drop fetched, rfl, ?_, received⟩
      rw [← List.append_assoc, ← split, List.take_append_drop]
  | ended streams =>
      cases streams with
      | whole received => exact ⟨_, contents, [], rfl, (List.append_nil _).symm, received⟩
      | cutOff split _ received => exact ⟨_, _, _, rfl, split, received⟩

private theorem callsSink_of_nil {work : Work} (reading : Reading log s [] sink work) :
    work.callsSink = false := by
  cases reading with
  | handing _ _ split =>
      rw [List.take_nil] at split
      rw [Work.callsSink, (List.append_eq_nil_iff.mp split.symm).2]
      rfl
  | _ => rfl

end Reading

namespace Holds

variable (holds : log.Holds s contents)
include holds

/-- How reading the log ends. -/
theorem streams (sink : Sink) : log.Streams contents sink (log.readAll s sink) := by
  obtain ⟨steps, there⟩ := gets_readAll log s sink
  have reading := Reading.after holds sink steps
  rw [there] at reading
  cases reading with
  | ended streams => exact streams

private theorem readAll_eq_stream (sink : Sink) :
    log.readAll s sink =
      (log.handed contents.length (sink.stream contents).1, (sink.stream contents).2) := by
  rw [readAll_eq, holds.contents_eq]

/-- A buffer takes everything, after what it held. -/
theorem readAll_buffer (held : Bytes) :
    log.readAll s ⟨[], held⟩ = (.answered (.ok contents.length), ⟨[], held ++ contents⟩) := by
  rw [holds.readAll_eq_stream, Sink.stream, dif_pos (.inl rfl)]
  rfl

private theorem readAll_uninterrupted (sink : Sink) :
    log.readAll s sink.uninterrupted =
      ((log.readAll s sink).1, (log.readAll s sink).2.uninterrupted) := by
  rw [holds.readAll_eq_stream, holds.readAll_eq_stream, sink.stream_uninterrupted]

end Holds

namespace Streams

variable {ended : Run Nat × Sink}

/-- A read that is told how much it has read has read everything, and only then. -/
theorem answered_iff (streams : log.Streams contents sink ended) (count : Nat) :
    ended.1 = .answered (.ok count) ↔
      count = contents.length ∧ ended.2.received = sink.received ++ contents := by
  cases streams with
  | whole received =>
      refine ⟨fun told => ⟨?_, received⟩, fun told => by rw [told.1]⟩
      cases told
      rfl
  | @cutOff taken left turn ending next split unfinished received planned blame =>
      refine iff_of_false (fun told => ?_) (fun told => ?_)
      · cases ending with
        | complete =>
            rw [SinkTurn.refusal?.eq_def] at blame
            repeat' split at blame
            all_goals cases blame
        | failed e => cases told
        | crashed => cases told
      · rw [received, split] at told
        simp [unfinished] at told

end Streams

/-- **A sink receives the log and nothing else.** At every single step of a read, what the sink has
accepted since the read began is a part of the log from the beginning, and the storage is as it was.
Left alone the read comes to an end: it answers with the length of the log exactly when everything
was accepted, and otherwise something is missing and a turn of the sink is to blame, be it a
failure, an acceptance of nothing or a breakdown. Interruptions make no difference, and where there
is nothing to read the sink is not even called. A buffer has the log added to what it held, as a
snapshot has. Wherever the read is left, whoever locks the mutex next finds the log as before. -/
theorem reads_out_exactly (holds : log.Holds s contents) (sink : Sink) :
    (∀ steps, (log.after (.seeking sink, s) steps).2 = s ∧
      ∃ now taken left, (log.after (.seeking sink, s) steps).1.sink? = some now ∧
        contents = taken ++ left ∧ now.received = sink.received ++ taken) ∧
    log.Gets (.seeking sink, s)
      (.ended (.streamed (log.readAll s sink).1 (log.readAll s sink).2), s) ∧
    log.Streams contents sink (log.readAll s sink) ∧
    (∀ count, (log.readAll s sink).1 = .answered (.ok count) ↔
      count = contents.length ∧ (log.readAll s sink).2.received = sink.received ++ contents) ∧
    log.readAll s sink.uninterrupted =
      ((log.readAll s sink).1, (log.readAll s sink).2.uninterrupted) ∧
    (contents = [] → log.readAll s sink = (.answered (.ok 0), sink) ∧
      ∀ steps, (log.after (.seeking sink, s) steps).1.callsSink = false) ∧
    (∀ held, log.readAll s ⟨[], held⟩ =
      (.answered (.ok contents.length), ⟨[], held ++ contents⟩)) ∧
    log.snapshot s = .ok contents ∧
    ∀ (mutex : Mutex) (dying : Bool) (steps caller : Nat) (call : LogCall),
      ∃ held, lock? (mutex.unlock dying) caller = some held ∧
        log.perform (log.after (.seeking sink, s) steps).2 call = log.perform s call := by
  have unchanged (steps : Nat) : (log.after (.seeking sink, s) steps).2 = s :=
    (after_onlyReads log rfl s steps).2
  refine ⟨fun steps => ⟨unchanged steps, (Reading.after holds sink steps).accepted⟩,
    gets_readAll log s sink, holds.streams sink, (holds.streams sink).answered_iff,
    holds.readAll_uninterrupted sink, ?_, holds.readAll_buffer, holds.snapshot_eq, ?_⟩
  · rintro rfl
    refine ⟨?_, fun steps => (Reading.after holds sink steps).callsSink_of_nil⟩
    rw [holds.readAll_eq_stream, Sink.stream_nil]
    rfl
  · intro mutex dying steps caller call
    rw [unchanged, lock?_eq]
    exact ⟨_, rfl, rfl⟩

/-- A sink that takes one byte, is interrupted, takes another and then none: it has the two, and the
third is what it lacks. -/
theorem sink_that_stops_in_the_middle :
    let s : Storage := .ofTree ⟨[([[108]], .file [97, 98, 99])]⟩ []
    let log : SharedLog := ⟨[108]⟩
    let sink : Sink := ⟨[.upTo 1, .fail (.bare .interrupted), .upTo 1, .upTo 0, .crash], [33]⟩
    log.Streams [97, 98, 99] sink (log.readAll s sink) ∧
      log.readAll s sink =
        (.answered (.error (.read [108] .wroteNothing)), ⟨[.crash], [33, 97, 98]⟩) ∧
      log.readAll s ⟨[], [33]⟩ = (.answered (.ok 3), ⟨[], [33, 97, 98, 99]⟩) := by
  intro s log sink
  have shown : log.view? s = some [97, 98, 99] := by cbv
  have laws := reads_out_exactly (view?_eq_some_iff.mp shown) sink
  obtain ⟨_, _, streams, _, _, _, buffer, _⟩ := laws
  exact ⟨streams, by cbv, buffer [33]⟩

end SharedLog

end PacketLog
