import PacketLog.Proofs.Storage.ByteLog

/-! # The single steps of a call

None of the operations on a log is one step for the operating system: an append opens the file and
writes as often as it takes, and a read opens it, fetches one chunk after another and hands each
over in as many write calls as the sink wants. `Work` is where such a call stands, and
`SharedLog.advance` takes its next step, on whatever the storage has become by then. A call whose
steps nobody comes between is the operation itself (`SharedLog.gets_perform`).
-/

namespace PacketLog

namespace Sink

/-- One write call. -/
def offer (sink : Sink) (data : Bytes) : Written × Sink :=
  match sink.plan with
  | [] => (.accepted data.length, { sink with received := sink.received ++ data })
  | .upTo limit :: plan =>
      (.accepted (min limit data.length), ⟨plan, sink.received ++ data.take limit⟩)
  | .fail error :: plan => (.failed error, { sink with plan })
  | .crash :: plan => (.crashed, { sink with plan })

/-- To write nothing takes no turn of the sink. -/
theorem writeAll_nil (plan : List SinkTurn) (received : Bytes) :
    writeAll plan received [] = (.complete, ⟨plan, received⟩) := by
  cases plan with
  | nil => rw [writeAll, List.append_nil]
  | cons turn rest =>
      rw [writeAll.eq_def]
      exact if_pos rfl

/-- Handing over begins with a whole chunk, whether or not anything is planned. -/
theorem stream_eq (sink : Sink) {contents : Bytes} (some : contents ≠ []) :
    sink.stream contents =
      match writeAll sink.plan sink.received (contents.take chunkSize) with
      | (.complete, next) => next.stream (contents.drop chunkSize)
      | ended => ended := by
  by_cases planned : sink.plan = []
  · have rest : stream ⟨[], sink.received ++ contents.take chunkSize⟩ (contents.drop chunkSize) =
        (.complete, ⟨[], sink.received ++ contents⟩) := by
      rw [stream, dif_pos (.inl rfl), List.append_assoc, List.take_append_drop]
    rw [stream, dif_pos (.inl planned), planned, writeAll]
    exact rest.symm
  · rw [stream, dif_neg (not_or.mpr ⟨planned, some⟩)]
    split <;> simp_all

/-- To stream nothing takes no turn of the sink. -/
theorem stream_nil (sink : Sink) : sink.stream [] = (.complete, sink) := by
  rw [stream, dif_pos (.inr rfl), List.append_nil]

end Sink

/-- What the steps of a call come to. -/
inductive LogOutcome
  | appended (run : Run Unit)
  | streamed (run : Run Nat) (sink : Sink)
  | removed (result : Except LogError Bool)

/-- Where a call stands: about to open the file, at work on it, or done. `left` is what is still to
be written or to be handed over, and `fetched` counts the bytes of the file that were read. -/
inductive Work
  | opening (data : Bytes)
  | writing (location : Location) (left : Bytes)
  | seeking (sink : Sink)
  | fetching (location : Location) (fetched : Nat) (sink : Sink)
  | handing (location : Location) (fetched : Nat) (left : Bytes) (sink : Sink)
  | unlinking
  | ended (outcome : LogOutcome)

/-- From here on a call changes nothing. -/
def Work.onlyReads : Work → Bool
  | .seeking _ | .fetching _ _ _ | .handing _ _ _ _ | .ended _ => true
  | _ => false

namespace LogCall

/-- Where a call begins. A snapshot is read into an empty buffer. -/
def work : LogCall → Work
  | .append data | .appendAsync data => .opening data
  | .snapshot | .snapshotAsync => .seeking ⟨[], []⟩
  | .readAll sink => .seeking sink
  | .remove => .unlinking

/-- What the caller is told. -/
def reply (log : SharedLog) : LogCall → LogOutcome → LogReply
  | .appendAsync _, .appended run => .appendedAsync (log.inBackground run)
  | .snapshot, .streamed run sink | .snapshotAsync, .streamed run sink =>
      .snapshotTaken ((log.inBackground run).map fun _ => sink.received)
  | _, .appended run => .appended run
  | _, .streamed run sink => .streamed run sink
  | _, .removed result => .removed result

end LogCall

namespace SharedLog

/-- What a writer is told. -/
def written (log : SharedLog) : Storage.Ending → Run Unit
  | .complete => .answered (.ok ())
  | .failed e => .answered (.error (.write log.path e))
  | .crashed => .crashed

/-- What a reader is told that has handed over `count` bytes if all went well. -/
def handed (log : SharedLog) (count : Nat) : Handover → Run Nat
  | .complete => .answered (.ok count)
  | .failed e => .answered (.error (.read log.path e))
  | .crashed => .crashed

/-- The next step of a call: one system call or one write call of the sink, and what it decides. -/
def advance (log : SharedLog) : Work × Storage → Work × Storage
  | (.opening data, s) =>
      match Storage.onPath log.path (s.tree.lookupOrCreate s.cwd log.path) with
      | .error e => (.ended (.appended (.answered (.error (.open log.path e)))), s)
      | .ok (tree, location, _) => (.writing location data, s.withTree tree)
  | (.writing location left, s) =>
      if left = [] then (.ended (.appended (log.written .complete)), s)
      else
        match s.write location left with
        | (.accepted 0, s) => (.ended (.appended (log.written (.failed .wroteNothing))), s)
        | (.accepted count, s) => (.writing location (left.drop count), s)
        | (.failed e, s) =>
            if e.isInterrupted then (.writing location left, s)
            else (.ended (.appended (log.written (.failed e))), s)
        | (.crashed, s) => (.ended (.appended (log.written .crashed)), s)
  | (.seeking sink, s) =>
      match Storage.onPath log.path (s.tree.lookupExisting s.cwd log.path) with
      | .error e =>
          if e.kind = .notFound then (.ended (.streamed (log.handed 0 .complete) sink), s)
          else (.ended (.streamed (.answered (.error (.open log.path e))) sink), s)
      | .ok (_, .directory) =>
          (.ended (.streamed (log.handed 0 (.failed (.os Errno.isDirectory))) sink), s)
      | .ok (location, _) => (.fetching location 0 sink, s)
  | (.fetching location fetched sink, s) =>
      match s.tree.get? location with
      | some (.file contents) =>
          let chunk := (contents.drop fetched).take Sink.chunkSize
          if chunk = [] then (.ended (.streamed (log.handed fetched .complete) sink), s)
          else (.handing location (fetched + chunk.length) chunk sink, s)
      | _ => (.ended (.streamed (log.handed fetched .complete) sink), s)
  | (.handing location fetched left sink, s) =>
      if left = [] then (.fetching location fetched sink, s)
      else
        match sink.offer left with
        | (.accepted 0, sink) => (.ended (.streamed (log.handed 0 (.failed .wroteNothing)) sink), s)
        | (.accepted count, sink) => (.handing location fetched (left.drop count) sink, s)
        | (.failed e, sink) =>
            if e.isInterrupted then (.handing location fetched left sink, s)
            else (.ended (.streamed (log.handed 0 (.failed e)) sink), s)
        | (.crashed, sink) => (.ended (.streamed (log.handed 0 .crashed) sink), s)
  | (.unlinking, s) =>
      let (result, s) := log.remove s
      (.ended (.removed result), s)
  | (.ended outcome, s) => (.ended outcome, s)

/-- Some steps of a call, one after another. -/
def after (log : SharedLog) (start : Work × Storage) : (steps : Nat) → Work × Storage
  | 0 => start
  | steps + 1 => log.advance (log.after start steps)

/-- A call that is left alone gets from one place to another. -/
def Gets (log : SharedLog) (start target : Work × Storage) : Prop :=
  ∃ steps, log.after start steps = target

variable {log : SharedLog}

private theorem advance_writing_nil (location : Location) (s : Storage) :
    log.advance (.writing location [], s) = (.ended (.appended (log.written .complete)), s) := by
  rw [advance, if_pos rfl]

private theorem advance_handing_nil (location : Location) (fetched : Nat) (sink : Sink)
    (s : Storage) :
    log.advance (.handing location fetched [] sink, s) = (.fetching location fetched sink, s) := by
  rw [advance, if_pos rfl]

/-- The steps after the first start from where it led. -/
theorem after_succ (start : Work × Storage) (steps : Nat) :
    log.after start (steps + 1) = log.after (log.advance start) steps := by
  induction steps with
  | zero => rfl
  | succ steps ih => exact congrArg log.advance ih

private theorem after_add (start : Work × Storage) (steps more : Nat) :
    log.after start (steps + more) = log.after (log.after start steps) more := by
  induction more with
  | zero => rfl
  | succ more ih => exact congrArg log.advance ih

/-- Nothing moves work that has ended. -/
theorem after_ended (outcome : LogOutcome) (s : Storage) (steps : Nat) :
    log.after (.ended outcome, s) steps = (.ended outcome, s) := by
  induction steps with
  | zero => rfl
  | succ steps ih => rw [after, ih, advance]

namespace Gets

variable {start target : Work × Storage}

private theorem refl : log.Gets start start := ⟨0, rfl⟩

private theorem step (next : log.Gets (log.advance start) target) : log.Gets start target := by
  obtain ⟨steps, there⟩ := next
  exact ⟨steps + 1, (after_succ start steps).trans there⟩

private theorem of_eq {middle : Work × Storage} (next : log.advance start = middle)
    (rest : log.Gets middle target) : log.Gets start target :=
  .step (next ▸ rest)

private theorem trans {middle : Work × Storage} (first : log.Gets start middle)
    (second : log.Gets middle target) : log.Gets start target := by
  obtain ⟨steps, there⟩ := first
  induction steps generalizing start with
  | zero =>
      obtain rfl : start = middle := there
      exact second
  | succ steps ih => exact .step (ih ((after_succ start steps).symm.trans there))

/-- What a call comes to does not depend on how often it is asked. -/
theorem ended_unique {outcome other : LogOutcome} {s t : Storage}
    (gets : log.Gets start (.ended outcome, s)) (same : log.Gets start (.ended other, t)) :
    other = outcome ∧ t = s := by
  obtain ⟨steps, there⟩ := gets
  obtain ⟨more, here⟩ := same
  induction steps generalizing start more with
  | zero =>
      obtain rfl : start = (.ended outcome, s) := there
      rw [after_ended] at here
      simp_all
  | succ steps ih =>
      rw [after_succ] at there
      cases more with
      | zero =>
          obtain rfl : start = (.ended other, t) := here
          rw [advance, after_ended] at there
          simp_all
      | succ more => exact ih there more ((after_succ start more).symm.trans here)

/-- A call that has come some way still comes to what it comes to. -/
theorem rest {outcome : LogOutcome} {s : Storage} (gets : log.Gets start (.ended outcome, s))
    (steps : Nat) : log.Gets (log.after start steps) (.ended outcome, s) := by
  obtain ⟨all, there⟩ := gets
  obtain ⟨more, rfl⟩ | ⟨more, rfl⟩ := (Nat.le_total steps all).imp Nat.exists_eq_add_of_le
    Nat.exists_eq_add_of_le
  · exact ⟨more, (after_add start steps more).symm.trans there⟩
  · refine ⟨0, ?_⟩
    rw [after_add, there]
    exact after_ended outcome s more

end Gets

/-! ## Appending -/

private theorem append_eq (data : Bytes) (s : Storage) :
    log.append data s =
      match Storage.onPath log.path (s.tree.lookupOrCreate s.cwd log.path) with
      | .error e => (.answered (.error (.open log.path e)), s)
      | .ok (tree, location, _) =>
          (log.written ((s.withTree tree).writeAll location data).1,
            ((s.withTree tree).writeAll location data).2) := by
  rw [append]
  cases Storage.onPath log.path (s.tree.lookupOrCreate s.cwd log.path) with
  | error e => rfl
  | ok made =>
      dsimp only
      generalize Storage.writeAll _ _ _ = ended
      obtain ⟨_ | e | _, next⟩ := ended <;> rfl

end SharedLog

/-- A write uses up a turn of the plan, or all is accepted where nothing is planned. Only the full
device does neither, and it does not merely interrupt. -/
theorem Storage.write_plan (s : Storage) (location : Location) (data : Bytes) :
    s.write location data = (.failed (.os Errno.noSpace), s) ∨
      (s.plan = [] ∧ (s.write location data).1 = .accepted data.length) ∨
        (s.write location data).2.plan.length + 1 = s.plan.length := by
  have extended (t : Storage) (data : Bytes) : (t.extend location data).plan = t.plan := by
    rw [extend]
    split <;> rfl
  have suffered (t : Storage) (mishap : Mishap) : (t.suffer mishap).plan = t.plan := by
    cases mishap with
    | removal =>
        rw [suffer]
        split <;> rfl
    | directory =>
        simp only [suffer]
        split <;> rfl
    | crash => rfl
  rw [write]
  split
  · exact .inl rfl
  · refine .inr ?_
    cases planned : s.plan with
    | nil => exact .inl ⟨rfl, rfl⟩
    | cons turn plan =>
        right
        cases turn with
        | whole => simp [extended]
        | upTo limit => simp [extended]
        | fail error => simp
        | wholeThen mishap => cases mishap <;> simp [extended, suffered]

namespace SharedLog

variable {log : SharedLog}

/-- Writing, step by step, ends as a loop of write calls does. -/
theorem gets_writeCalls (location : Location) {s : Storage} {left : Bytes} {calls : Nat}
    (enough : s.plan.length < calls ∨ left = []) :
    log.Gets (.writing location left, s)
      (.ended (.appended (log.written (s.writeCalls location left calls).1)),
        (s.writeCalls location left calls).2) := by
  induction calls generalizing s left with
  | zero =>
      obtain rfl : left = [] := enough.resolve_left (Nat.not_lt_zero _)
      exact .of_eq (advance_writing_nil location s) .refl
  | succ calls ih =>
      rw [Storage.writeCalls]
      by_cases nothing : left = []
      · rw [if_pos nothing, nothing]
        exact .of_eq (advance_writing_nil location s) .refl
      · have bound := enough.resolve_right nothing
        have used := s.write_plan location left
        refine .step ?_
        rw [advance, if_neg nothing, if_neg nothing]
        generalize s.write location left = wrote at used
        obtain ⟨answer, next⟩ := wrote
        cases answer with
        | accepted count =>
            cases count with
            | zero => exact .refl
            | succ count =>
                refine ih ?_
                obtain refused | ⟨_, whole⟩ | fewer := used
                · cases refused
                · right
                  rw [Written.accepted.inj whole, List.drop_length]
                · left
                  dsimp only at fewer
                  omega
        | failed error =>
            dsimp only
            by_cases again : error.isInterrupted
            · rw [if_pos again, if_pos again]
              refine ih (.inl ?_)
              obtain refused | ⟨_, whole⟩ | fewer := used
              · cases refused
                cases again
              · cases whole
              · dsimp only at fewer
                omega
            · rw [if_neg again, if_neg again]
              exact .refl
        | crashed => exact .refl

/-- Appending, step by step, ends as the operation does. -/
theorem gets_append (data : Bytes) (s : Storage) :
    log.Gets (.opening data, s)
      (.ended (.appended (log.append data s).1), (log.append data s).2) := by
  refine .step ?_
  rw [advance, append_eq]
  cases Storage.onPath log.path (s.tree.lookupOrCreate s.cwd log.path) with
  | error e => exact .refl
  | ok made => exact gets_writeCalls made.2.1 (.inl (Nat.lt_succ_self _))

/-! ## Reading -/

/-- Reading out answers what keeps it from starting, or hands out the contents. -/
theorem readAll_eq (s : Storage) (sink : Sink) :
    log.readAll s sink =
      match log.contents s with
      | .error e => (.answered (.error e), sink)
      | .ok contents =>
          (log.handed contents.length (sink.stream contents).1, (sink.stream contents).2) := by
  rw [readAll]
  cases log.contents s with
  | error e => rfl
  | ok contents =>
      dsimp only
      generalize sink.stream contents = ended
      obtain ⟨_ | e | _, next⟩ := ended <;> rfl

/-- Handing over a chunk, step by step, goes on to the next one exactly where writing it completes.
-/
theorem gets_writeAll (location : Location) (fetched : Nat) (sink : Sink) (left : Bytes)
    (s : Storage) :
    log.Gets (.handing location fetched left sink, s)
      (match Sink.writeAll sink.plan sink.received left with
        | (.complete, sink) => (.fetching location fetched sink, s)
        | (ending, sink) => (.ended (.streamed (log.handed 0 ending) sink), s)) := by
  obtain ⟨plan, received⟩ := sink
  induction plan generalizing received left with
  | nil =>
      rw [Sink.writeAll]
      by_cases nothing : left = []
      · rw [nothing, List.append_nil]
        exact .of_eq (advance_handing_nil ..) .refl
      · refine .step ?_
        rw [advance, if_neg nothing]
        obtain ⟨count, long⟩ :=
          Nat.exists_eq_succ_of_ne_zero (mt List.length_eq_zero_iff.mp nothing)
        rw [Sink.offer]
        simp only [long]
        rw [List.drop_eq_nil_of_le (Nat.le_of_eq long)]
        exact .of_eq (advance_handing_nil ..) .refl
  | cons turn rest ih =>
      by_cases nothing : left = []
      · rw [nothing, Sink.writeAll_nil]
        exact .of_eq (advance_handing_nil ..) .refl
      · refine .step ?_
        rw [Sink.writeAll.eq_def, advance, if_neg nothing]
        dsimp only
        rw [if_neg nothing, Sink.offer]
        cases turn with
        | upTo limit =>
            cases limit with
            | zero =>
                simp only [Nat.zero_min, List.take_zero, List.append_nil]
                exact .refl
            | succ limit =>
                have long := List.length_pos_iff.mpr nothing
                obtain ⟨count, accepted⟩ : ∃ count, min (limit + 1) left.length = count + 1 :=
                  Nat.exists_eq_succ_of_ne_zero (by omega)
                have same : left.drop (count + 1) = left.drop (limit + 1) := by
                  rw [← accepted, ← List.drop_eq_drop_min]
                simp only [accepted, same]
                exact ih _ _
        | fail error =>
            dsimp only
            by_cases again : error.isInterrupted
            · rw [if_pos again, if_pos again]
              exact ih _ _
            · rw [if_neg again, if_neg again]
              exact .refl
        | crash => exact .refl

/-- Reading the file at a location, chunk by chunk, ends as handing over the rest of it does. -/
theorem gets_stream {location : Location} {s : Storage} {contents : Bytes}
    (stored : s.tree.get? location = some (.file contents)) {fetched : Nat}
    (within : fetched ≤ contents.length) (sink : Sink) :
    log.Gets (.fetching location fetched sink, s)
      (.ended (.streamed (log.handed contents.length (sink.stream (contents.drop fetched)).1)
        (sink.stream (contents.drop fetched)).2), s) := by
  have positive : 0 < Sink.chunkSize := by decide
  refine .step ?_
  rw [advance, stored]
  dsimp only
  by_cases finished : contents.drop fetched = []
  · have all : fetched = contents.length :=
      Nat.le_antisymm within (List.drop_eq_nil_iff.mp finished)
    rw [finished, List.take_nil, if_pos rfl, Sink.stream_nil, all]
    exact .refl
  · have some : (contents.drop fetched).take Sink.chunkSize ≠ [] := by
      simp [List.take_eq_nil_iff, finished, positive.ne']
    rw [if_neg some, Sink.stream_eq sink finished]
    refine (gets_writeAll _ _ _ _ _).trans ?_
    generalize Sink.writeAll _ _ _ = ended
    obtain ⟨ending, next⟩ := ended
    cases ending with
    | complete =>
        have long := List.length_pos_iff.mpr some
        have further : fetched + ((contents.drop fetched).take Sink.chunkSize).length ≤
            contents.length := by
          simp only [List.length_take, List.length_drop]
          omega
        have rest := gets_stream stored further next
        have same : contents.drop (fetched + ((contents.drop fetched).take Sink.chunkSize).length) =
            (contents.drop fetched).drop Sink.chunkSize := by
          rw [List.drop_drop, List.length_take, List.length_drop]
          by_cases short : contents.length - fetched ≤ Sink.chunkSize
          · rw [List.drop_eq_nil_of_le (by omega), List.drop_eq_nil_of_le (by omega)]
          · rw [Nat.min_eq_left (by omega)]
        rw [same] at rest
        exact rest
    | failed e => exact .refl
    | crashed => exact .refl
termination_by contents.length - fetched
decreasing_by
  simp only [List.length_take, List.length_drop] at long ⊢
  omega

/-- Reading, step by step, ends as the operation does, and the storage stays as it is. -/
theorem gets_readAll (log : SharedLog) (s : Storage) (sink : Sink) :
    log.Gets (.seeking sink, s)
      (.ended (.streamed (log.readAll s sink).1 (log.readAll s sink).2), s)
      := by
  refine .step ?_
  rw [advance, readAll_eq, contents]
  cases found : Storage.onPath log.path (s.tree.lookupExisting s.cwd log.path) with
  | error e =>
      dsimp only
      rw [unopened]
      by_cases missing : e.kind = .notFound
      · simp only [missing, ↓reduceIte, Sink.stream_nil]
        exact .refl
      · simp only [missing, ↓reduceIte]
        exact .refl
  | ok existing =>
      obtain ⟨location, entry⟩ := existing
      obtain ⟨_, looked⟩ := Storage.onPath_eq_ok_iff.mp found
      obtain rfl | ⟨stored, noLink⟩ := FileTree.entry_of_lookupExisting looked
      · exact .refl
      · cases entry with
        | directory => exact .refl
        | link target => exact absurd rfl (noLink target)
        | file contents => exact gets_stream stored (Nat.zero_le _) sink
        | device device =>
            refine .of_eq (by rw [advance, stored]) ?_
            simp only [Sink.stream_nil]
            exact .refl

private theorem advance_onlyReads {work : Work} (reads : work.onlyReads) (s : Storage) :
    (log.advance (work, s)).1.onlyReads ∧ (log.advance (work, s)).2 = s := by
  cases work with
  | opening data => cases reads
  | writing location left => cases reads
  | unlinking => cases reads
  | ended outcome => exact ⟨rfl, rfl⟩
  | seeking sink =>
      rw [advance]
      repeat' split
      all_goals exact ⟨rfl, rfl⟩
  | fetching location fetched sink =>
      rw [advance]
      dsimp only
      repeat' split
      all_goals exact ⟨rfl, rfl⟩
  | handing location fetched left sink =>
      rw [advance]
      repeat' split
      all_goals exact ⟨rfl, rfl⟩

/-- A call that only reads leaves the storage as it is, at every step. -/
theorem after_onlyReads (log : SharedLog) {work : Work} (reads : work.onlyReads) (s : Storage)
    (steps : Nat) :
    (log.after (work, s) steps).1.onlyReads ∧ (log.after (work, s) steps).2 = s := by
  induction steps with
  | zero => exact ⟨reads, rfl⟩
  | succ steps ih =>
      obtain ⟨still, same⟩ := ih
      rw [after]
      generalize log.after (work, s) steps = reached at still same
      obtain ⟨now, _⟩ := reached
      obtain rfl := same
      exact advance_onlyReads still _

/-! ## Every call -/

/-- **A call that is left alone** comes to an end, and it ends as the operation does. -/
theorem gets_perform (log : SharedLog) (s : Storage) (call : LogCall) :
    ∃ outcome, log.Gets (call.work, s) (.ended outcome, (log.perform s call).2) ∧
      call.reply log outcome = (log.perform s call).1 := by
  cases call with
  | append data => exact ⟨_, gets_append data s, rfl⟩
  | appendAsync data => exact ⟨_, gets_append data s, rfl⟩
  | snapshot =>
      refine ⟨_, gets_readAll log s ⟨[], []⟩, ?_⟩
      rw [perform, ← snapshotAsync_eq, snapshotAsync, LogCall.reply]
      generalize log.readAll s ⟨[], []⟩ = read
      obtain ⟨_ | _, sink⟩ := read <;> rfl
  | snapshotAsync =>
      refine ⟨_, gets_readAll log s ⟨[], []⟩, ?_⟩
      rw [perform, snapshotAsync, LogCall.reply]
      generalize log.readAll s ⟨[], []⟩ = read
      obtain ⟨_ | _, sink⟩ := read <;> rfl
  | readAll sink => exact ⟨_, gets_readAll log s sink, rfl⟩
  | remove => exact ⟨_, .of_eq rfl .refl, rfl⟩

end SharedLog

end PacketLog
