import PacketLog.Proofs.Storage.ReadingOut

/-! # What contending callers see

The calls on a log answer as if they had been made one after another in the order in which its mutex
was locked. Read as bytes this says who sees what: each append that returned added its data, a
caller that died over an append added a part of it, and every read saw exactly what the turns before
it made of the log, whole, and nothing of the turns behind it (`Contention.in_lock_order`).
-/

namespace PacketLog

/-- The failure of a file operation that a reply tells of. What a sink refuses is none. -/
def LogReply.fileError? : LogReply → Option IoError
  | .appended (.answered (.error e)) | .appendedAsync (.error e) | .snapshotTaken (.error e)
  | .removed (.error e) => e.source?
  | _ => none

/-- Nobody was told of a failure of a file operation. -/
def NoFileError (callers : List LogCaller) : Prop :=
  ∀ (i : Nat) (call : LogCall) (reply : LogReply),
    callers[i]? = some (.returned call reply) → reply.fileError? = none

/-- What a turn makes of the bytes of a log, and what its caller is told. -/
inductive Effect (log : SharedLog) : LogCaller → Bytes → Bytes → Prop
  | appended {data old : Bytes} :
      Effect log (.returned (.append data) (.appended (.answered (.ok ())))) old (old ++ data)
  | appendedAsync {data old : Bytes} :
      Effect log (.returned (.appendAsync data) (.appendedAsync (.ok ()))) old (old ++ data)
  /-- The writer died when all was written. -/
  | crashed {data old : Bytes} :
      Effect log (.returned (.append data) (.appended .crashed)) old (old ++ data)
  | crashedAsync {data old : Bytes} :
      Effect log (.returned (.appendAsync data) (.appendedAsync (.error (.blocking log.path)))) old
        (old ++ data)
  /-- The caller died with the mutex locked, with a part of its data written. -/
  | partly {call : LogCall} {taken left old : Bytes}
      (writes : call.work = .opening (taken ++ left)) :
      Effect log (.died call) old (old ++ taken)
  | snapshot {call : LogCall} {old : Bytes} (reads : call = .snapshot ∨ call = .snapshotAsync) :
      Effect log (.returned call (.snapshotTaken (.ok old))) old old
  | streamed {sink next : Sink} {run : Run Nat} {old : Bytes}
      (streams : log.Streams old sink (run, next)) :
      Effect log (.returned (.readAll sink) (.streamed run next)) old old
  | unread {call : LogCall} {old : Bytes} (reads : call.work.onlyReads) :
      Effect log (.died call) old old
  | removed {existed : Bool} {old : Bytes} :
      Effect log (.returned .remove (.removed (.ok existed))) old []
  /-- The caller died with the mutex locked, before or after the file was removed. -/
  | halfRemoved {old new : Bytes} (either : new = old ∨ new = []) :
      Effect log (.died .remove) old new

/-- What turns one after another make of the bytes of a log. -/
inductive Effects (log : SharedLog) (callers : List LogCaller) (old : Bytes) :
    List Nat → Bytes → Prop
  | nil : Effects log callers old [] old
  | turn {earlier : List Nat} {middle new : Bytes} {i : Nat} {caller : LogCaller}
      (before : Effects log callers old earlier middle) (found : callers[i]? = some caller)
      (effect : Effect log caller middle new) :
      Effects log callers old (earlier ++ [i]) new

namespace SharedLog

variable {log : SharedLog} {s : Storage} {contents : Bytes}

/-! ## A turn that was left in the middle -/

/-- Where an append can stand: what is not left to write is in the log. -/
inductive Adding (log : SharedLog) (contents data : Bytes) : Work × Storage → Prop
  | opening {s : Storage} (holds : log.Holds s contents) (calm : s.Undisturbed) :
      Adding log contents data (.opening data, s)
  | writing {location : Location} {taken left : Bytes} {s : Storage}
      (noZero : log.path.contains 0 = false) (split : data = taken ++ left)
      (kept : s.Keeps log.path location (contents ++ taken)) (calm : s.Undisturbed) :
      Adding log contents data (.writing location left, s)
  | ended {outcome : LogOutcome} {taken left : Bytes} {s : Storage} (split : data = taken ++ left)
      (holds : log.Holds s (contents ++ taken)) (calm : s.Undisturbed) :
      Adding log contents data (.ended outcome, s)

private theorem holds_of_keeps {location : Location} (noZero : log.path.contains 0 = false)
    (kept : s.Keeps log.path location contents) : log.Holds s contents := by
  rw [Holds, Storage.onPath_eq_ok_iff.mpr ⟨noZero, kept⟩]

namespace Adding

variable {data : Bytes}

private theorem accepted {state : Work × Storage} (adding : Adding log contents data state) :
    ∃ taken left, data = taken ++ left ∧ log.Holds state.2 (contents ++ taken) ∧
      state.2.Undisturbed := by
  cases adding with
  | opening holds calm => exact ⟨[], data, rfl, holds.append_nil, calm⟩
  | writing noZero split kept calm => exact ⟨_, _, split, holds_of_keeps noZero kept, calm⟩
  | ended split holds calm => exact ⟨_, _, split, holds, calm⟩

private theorem advance {state : Work × Storage} (adding : Adding log contents data state) :
    Adding log contents data (log.advance state) := by
  cases adding with
  | ended split holds calm => exact .ended split holds calm
  | @opening s holds calm =>
      rw [SharedLog.advance]
      cases made : Storage.onPath log.path (s.tree.lookupOrCreate s.cwd log.path) with
      | error e => exact .ended (List.nil_append data).symm holds.append_nil calm
      | ok opened =>
          obtain ⟨tree, location, entry⟩ := opened
          obtain ⟨noZero, made⟩ := Storage.onPath_eq_ok_iff.mp made
          have kept := (holds.fills_created noZero made).kept
          rw [← List.append_nil contents] at kept
          exact .writing noZero (List.nil_append data).symm kept calm
  | @writing location taken left s noZero split kept calm =>
      rw [SharedLog.advance]
      by_cases nothing : left = []
      · rw [if_pos nothing]
        exact .ended split (holds_of_keeps noZero kept) calm
      · rw [if_neg nothing]
        obtain ⟨wrote, -⟩ := kept.write calm left
        generalize s.write location left = written at wrote
        cases wrote with
        | @accepted count next some fills =>
            have calmNext := calm.of_plan_suffix fills.plan
            have kept := fills.kept
            rw [List.append_assoc] at kept
            have split : data = taken ++ left.take count ++ left.drop count := by
              rw [split, List.append_assoc, List.take_append_drop]
            cases count with
            | zero => exact .ended split (holds_of_keeps noZero kept) calmNext
            | succ count => exact .writing noZero split kept calmNext
        | @failed error next fills =>
            have calmNext := calm.of_plan_suffix fills.plan
            dsimp only
            by_cases again : error.isInterrupted
            · rw [if_pos again]
              exact .writing noZero split fills.kept calmNext
            · rw [if_neg again]
              exact .ended split (holds_of_keeps noZero fills.kept) calmNext
        | crashed fills =>
            have kept := fills.kept
            rw [List.append_assoc] at kept
            have all : data = taken ++ left ++ [] := split.trans (List.append_nil _).symm
            exact .ended all (holds_of_keeps noZero kept) (calm.of_plan_suffix fills.plan)

private theorem after {state : Work × Storage} (adding : Adding log contents data state)
    (steps : Nat) :
    Adding log contents data (log.after state steps) := by
  induction steps with
  | zero => exact adding
  | succ steps ih => exact ih.advance

end Adding

namespace Holds

variable (holds : log.Holds s contents) (calm : s.Undisturbed)
include holds calm

private theorem effect_partly {call : LogCall} {data : Bytes} (writes : call.work = .opening data)
    (steps : Nat) :
    ∃ new, Effect log (.died call) contents new ∧ log.Holds (log.after (call.work, s) steps).2 new ∧
      (log.after (call.work, s) steps).2.Undisturbed := by
  rw [writes]
  obtain ⟨taken, left, split, held, still⟩ := ((Adding.opening holds calm).after steps).accepted
  exact ⟨contents ++ taken, .partly (writes.trans (congrArg Work.opening split)), held, still⟩

private theorem effect_unread {call : LogCall} (reads : call.work.onlyReads) (steps : Nat) :
    ∃ new, Effect log (.died call) contents new ∧ log.Holds (log.after (call.work, s) steps).2 new ∧
      (log.after (call.work, s) steps).2.Undisturbed := by
  rw [(after_onlyReads log reads s steps).2]
  exact ⟨contents, .unread reads, holds, calm⟩

/-- Removing the log leaves no byte of it, or fails and leaves it as it is. -/
theorem remove_keeps :
    (log.remove s).2.Undisturbed ∧
      ((∃ existed, (log.remove s).1 = .ok existed) ∧ log.Holds (log.remove s).2 [] ∨
        (∃ e, (log.remove s).1 = .error (.remove log.path e)) ∧
          log.Holds (log.remove s).2 contents) := by
  have outcome : log.Removes s (log.remove s) := removes
  generalize log.remove s = removed at outcome
  cases outcome with
  | @unlinked next _ _ _ _ _ plan absent =>
      have fewer : next.plan <:+ s.plan := plan ▸ List.suffix_refl _
      exact ⟨calm.of_plan_suffix fewer, .inl ⟨⟨true, rfl⟩, view?_eq_some_iff.mp absent.view?_eq⟩⟩
  | absent absent => exact ⟨calm, .inl ⟨⟨false, rfl⟩, view?_eq_some_iff.mp absent.view?_eq⟩⟩
  | failed => exact ⟨calm, .inr ⟨⟨_, rfl⟩, holds⟩⟩

/-- What a caller leaves behind that died with the mutex locked, after any of its steps. -/
theorem effect_died (call : LogCall) (steps : Nat) :
    ∃ new, Effect log (.died call) contents new ∧ log.Holds (log.after (call.work, s) steps).2 new ∧
      (log.after (call.work, s) steps).2.Undisturbed := by
  cases call with
  | append data => exact holds.effect_partly calm rfl steps
  | appendAsync data => exact holds.effect_partly calm rfl steps
  | snapshot => exact holds.effect_unread calm rfl steps
  | snapshotAsync => exact holds.effect_unread calm rfl steps
  | readAll sink => exact holds.effect_unread calm rfl steps
  | remove =>
      cases steps with
      | zero => exact ⟨contents, .halfRemoved (.inl rfl), holds, calm⟩
      | succ steps =>
          have ended : log.after (LogCall.remove.work, s) (steps + 1) =
              (.ended (.removed (log.remove s).1), (log.remove s).2) :=
            (after_succ _ steps).trans (after_ended _ _ steps)
          rw [ended]
          obtain ⟨still, ⟨_, gone⟩ | ⟨_, kept⟩⟩ := holds.remove_keeps calm
          · exact ⟨[], .halfRemoved (.inr rfl), gone, still⟩
          · exact ⟨contents, .halfRemoved (.inl rfl), kept, still⟩

/-- What a call does that had its turn and returned. -/
theorem effect_returned (call : LogCall) (fine : (log.perform s call).1.fileError? = none) :
    ∃ new, Effect log (.returned call (log.perform s call).1) contents new ∧
      log.Holds (log.perform s call).2 new ∧ (log.perform s call).2.Undisturbed := by
  cases call with
  | append data =>
      have outcome := holds.appends calm data
      rw [perform] at fine ⊢
      generalize log.append data s = appended at outcome fine
      cases outcome with
      | whole stores => exact ⟨_, .appended, stores.holds, calm.of_plan_suffix stores.plan⟩
      | crashed _ stores => exact ⟨_, .crashed, stores.holds, calm.of_plan_suffix stores.plan⟩
      | notOpened => cases fine
      | brokenOff => cases fine
  | appendAsync data =>
      have outcome := holds.appends calm data
      rw [perform, appendAsync] at fine ⊢
      generalize log.append data s = appended at outcome fine
      cases outcome with
      | whole stores => exact ⟨_, .appendedAsync, stores.holds, calm.of_plan_suffix stores.plan⟩
      | crashed _ stores =>
          exact ⟨_, .crashedAsync, stores.holds, calm.of_plan_suffix stores.plan⟩
      | notOpened => cases fine
      | brokenOff => cases fine
  | snapshot =>
      rw [perform, holds.snapshot_eq]
      exact ⟨contents, .snapshot (.inl rfl), holds, calm⟩
  | snapshotAsync =>
      rw [perform, snapshotAsync_eq, holds.snapshot_eq]
      exact ⟨contents, .snapshot (.inr rfl), holds, calm⟩
  | readAll sink => exact ⟨contents, .streamed (holds.streams sink), holds, calm⟩
  | remove =>
      have same : log.perform s .remove = (.removed (log.remove s).1, (log.remove s).2) := rfl
      obtain ⟨still, ⟨⟨existed, told⟩, gone⟩ | ⟨⟨e, told⟩, _⟩⟩ := holds.remove_keeps calm
      · rw [same, told]
        exact ⟨[], .removed, gone, still⟩
      · rw [same, told] at fine
        cases fine

end Holds

end SharedLog

/-- What calls that were made one after another made of the bytes of the log. -/
theorem Serial.effects {log : SharedLog} {callers : List LogCaller} {s last : Storage}
    {order : List Nat} {contents : Bytes} (serial : Serial log callers s order last)
    (holds : log.Holds s contents) (calm : s.Undisturbed) (fine : NoFileError callers) :
    ∃ new, Effects log callers contents order new ∧ log.Holds last new ∧ last.Undisturbed := by
  induction serial with
  | nil => exact ⟨contents, .nil, holds, calm⟩
  | returned before told ih =>
      obtain ⟨middle, effects, held, still⟩ := ih
      obtain ⟨new, effect, shown, after⟩ :=
        held.effect_returned still _ (fine _ _ _ told)
      exact ⟨new, .turn effects told effect, shown, after⟩
  | @died _ _ _ steps call before dead ih =>
      obtain ⟨middle, effects, held, still⟩ := ih
      obtain ⟨new, effect, shown, after⟩ := held.effect_died still call steps
      exact ⟨new, .turn effects dead effect, shown, after⟩

namespace Contention

variable {log : SharedLog} {s : Storage} {c next : Contention}

/-! ## What is decided stays so -/

/-- Only a caller that has not returned becomes something else. -/
theorem getElem?_set_of_returned {callers : List LogCaller} {i j : Nat} {caller other : LogCaller}
    {call : LogCall} {reply : LogReply} (found : callers[j]? = some caller)
    (different : caller ≠ .returned call reply)
    (told : callers[i]? = some (.returned call reply)) :
    (callers.set j other)[i]? = some (.returned call reply) := by
  rw [List.getElem?_set_ne, told]
  rintro rfl
  exact different (Option.some.inj (found.symm.trans told))

/-- The turns of one state are the first ones of the other, and what callers were told stands. -/
structure Onward (c next : Contention) : Prop where
  order : c.order <+: next.order
  told : ∀ (i : Nat) (call : LogCall) (reply : LogReply),
    c.callers[i]? = some (.returned call reply) → next.callers[i]? = some (.returned call reply)

private theorem Step.onward (step : Step log c next) : Onward c next := by
  cases step with
  | calls call =>
      exact ⟨List.prefix_rfl, fun i _ _ => (getElem?_concat_waiting c.callers call i rfl).mpr⟩
  | locks waiting locked =>
      exact ⟨List.prefix_append _ _,
        fun _ _ _ => getElem?_set_of_returned waiting fun same => nomatch same⟩
  | advances inside =>
      exact ⟨List.prefix_rfl, fun _ _ _ => getElem?_set_of_returned inside fun same => nomatch same⟩
  | returns inside =>
      exact ⟨List.prefix_rfl, fun _ _ _ => getElem?_set_of_returned inside fun same => nomatch same⟩
  | dies inside =>
      exact ⟨List.prefix_rfl, fun _ _ _ => getElem?_set_of_returned inside fun same => nomatch same⟩

private theorem Steps.onward (steps : Steps log c next) : Onward c next := by
  induction steps with
  | refl => exact ⟨List.prefix_rfl, fun _ _ _ told => told⟩
  | tail _ step ih =>
      exact ⟨ih.order.trans step.onward.order,
        fun i call reply found => step.onward.told i call reply (ih.told i call reply found)⟩

/-! ## The mutex comes free -/

/-- A caller inside can take any number of its steps, one after another. -/
theorem Steps.advances {i : Nat} {call : LogCall} {work : Work}
    (inside : c.callers[i]? = some (.inside call work)) (steps : Nat) :
    Steps log c ⟨(log.after (work, c.storage) steps).2, c.mutex,
      c.callers.set i (.inside call (log.after (work, c.storage) steps).1), c.order⟩ := by
  induction steps with
  | zero =>
      have same : c.callers.set i (.inside call work) = c.callers := by
        obtain ⟨before, found⟩ := List.getElem?_eq_some_iff.mp inside
        rw [← found, List.set_getElem_self]
      rw [SharedLog.after, same]
  | succ steps ih =>
      have step := ih.tail (.advances (getElem?_set_of_found inside))
      rwa [List.set_set] at step

/-- Whoever is inside can go on and return, so that the mutex comes free. -/
theorem Lawful.frees (lawful : Lawful log s c) :
    ∃ next, Steps log c next ∧ next.mutex.holder = none ∧ next.order = c.order ∧
      ∀ i, Inside c.callers i → ∃ call reply, next.callers[i]? = some (.returned call reply) := by
  cases lawful.turns with
  | free unlocked nobody =>
      exact ⟨c, .refl, unlocked, rfl, fun i inside => absurd inside (nobody i)⟩
  | @held i steps call work earlier middle locked last inside alone serial own =>
      obtain ⟨outcome, gets, -⟩ := log.gets_perform middle call
      obtain ⟨more, there⟩ := gets.rest steps
      rw [own] at there
      have done : Steps log c _ := .advances inside more
      rw [there] at done
      have found : (c.callers.set i (.inside call (.ended outcome)))[i]? =
          some (.inside call (.ended outcome)) := getElem?_set_of_found inside
      refine ⟨_, done.tail (.returns found), rfl, rfl, fun j here => ?_⟩
      rw [alone j here]
      exact ⟨_, _, getElem?_set_of_found found⟩

/-- A caller that waits for a free mutex can have its turn, and does then what the operation does.
-/
theorem Steps.turn (steps : Steps log c next) {i : Nat} {call : LogCall}
    (waiting : next.callers[i]? = some (.waiting call)) (unlocked : next.mutex.holder = none) :
    ∃ poisoned, Steps log c ⟨(log.perform next.storage call).2, ⟨none, poisoned⟩,
      next.callers.set i (.returned call (log.perform next.storage call).1),
      next.order ++ [i]⟩ := by
  obtain ⟨outcome, ⟨count, there⟩, told⟩ := log.gets_perform next.storage call
  have locked : SharedLog.lock? next.mutex i = some { next.mutex with holder := some i } := by
    rw [SharedLog.lock?_eq, unlocked]
    rfl
  have inside : (next.callers.set i (.inside call call.work))[i]? = some (.inside call call.work) :=
    getElem?_set_of_found waiting
  have ended := (steps.tail (.locks waiting locked)).trans (Steps.advances inside count)
  rw [there, List.set_set] at ended
  have returned := ended.tail (.returns (getElem?_set_of_found waiting))
  rw [List.set_set, told] at returned
  exact ⟨_, returned⟩

/-- The mutex can be locked when nobody is inside, poisoned or not, and only then. -/
theorem Lawful.lock?_isSome_iff (lawful : Lawful log s c) (caller : Nat) :
    (SharedLog.lock? c.mutex caller).isSome ↔ ∀ i, ¬ Inside c.callers i := by
  rw [SharedLog.lock?_eq]
  cases lawful.turns with
  | free unlocked nobody => simp [unlocked, nobody]
  | @held i _ call work _ _ locked _ inside =>
      exact iff_of_false (by simp [locked]) fun nobody => nobody i ⟨call, work, inside⟩

/-- **Calls take effect in the order in which the mutex is locked.** Whatever callers do, in any
interleaving of their single steps and wherever some of them die: at most one is inside. The turns
are one after another, each caller has at most one, and who is told something stays told and in its
place. All turns but the one under way answered and left the storage as if the calls had been made
one at a time; the one under way has come as far as it would have alone. Where the log held some
bytes, nothing disturbs the file and no file operation failed, every turn is one whole effect on the
bytes that the turns before it left. Nobody blocks the log for good: a caller inside can go on to
return, and the mutex can be locked whenever nobody is inside, poisoned or not. -/
theorem in_lock_order (steps : Steps log (start s) c) :
    (∀ i j, Inside c.callers i → Inside c.callers j → i = j) ∧
    c.order.Nodup ∧ (∀ i, i ∈ c.order ↔ HadTurn c.callers i) ∧
    (∀ next, Steps log c next → Onward c next) ∧
    (∃ earlier middle, c.order = earlier ++ c.mutex.holder.toList ∧
      Serial log c.callers s earlier middle ∧
      (c.mutex.holder = none → c.storage = middle) ∧
      (∀ i, c.mutex.holder = some i → ∃ call work, c.callers[i]? = some (.inside call work) ∧
        log.Gets (call.work, middle) (work, c.storage)) ∧
      ∀ contents, log.Holds s contents → s.Undisturbed → NoFileError c.callers →
        ∃ now, Effects log c.callers contents earlier now ∧ log.Holds middle now) ∧
    (∃ next, Steps log c next ∧ next.mutex.holder = none ∧ next.order = c.order ∧
      ∀ i, Inside c.callers i → ∃ call reply, next.callers[i]? = some (.returned call reply)) ∧
    ∀ caller, (SharedLog.lock? c.mutex caller).isSome ↔ ∀ i, ¬ Inside c.callers i := by
  have lawful : Lawful log s c := (lawful_start s).steps steps
  have bytes {order : List Nat} {last : Storage} (serial : Serial log c.callers s order last)
      (contents : Bytes) (holds : log.Holds s contents) (calm : s.Undisturbed)
      (fine : NoFileError c.callers) :
      ∃ now, Effects log c.callers contents order now ∧ log.Holds last now := by
    obtain ⟨now, effects, held, _⟩ := serial.effects holds calm fine
    exact ⟨now, effects, held⟩
  refine ⟨?_, lawful.once, lawful.recorded, fun next => Steps.onward, ?_, lawful.frees,
    lawful.lock?_isSome_iff⟩
  · intro i j first second
    cases lawful.turns with
    | free _ nobody => exact absurd first (nobody i)
    | held _ _ _ alone => exact (alone i first).trans (alone j second).symm
  · cases lawful.turns with
    | free unlocked _ serial =>
        refine ⟨c.order, c.storage, ?_, serial, fun _ => rfl, fun i locked => ?_, bytes serial⟩
        · rw [unlocked, Option.toList_none, List.append_nil]
        · rw [unlocked] at locked
          cases locked
    | @held i steps call work earlier middle locked last inside _ serial own =>
        refine ⟨earlier, middle, ?_, serial, fun unlocked => ?_, fun j same => ?_, bytes serial⟩
        · rw [locked, last, Option.toList_some]
        · rw [locked] at unlocked
          cases unlocked
        · rw [locked] at same
          cases same
          exact ⟨call, work, inside, steps, own⟩

/-- A writer dies over its second byte while another one is called. The reader gets the poisoned
mutex and sees the one byte, and the other writer adds its own behind it. -/
theorem reader_behind_a_dead_writer :
    let s : Storage := ⟨⟨[([[108]], .file [9])]⟩, [], [.upTo 1], []⟩
    let log : SharedLog := ⟨[108]⟩
    ∃ c, Steps log (start s) c ∧ c.order = [0, 1, 2] ∧
      c.callers = [.died (.append [1, 2]), .returned .snapshot (.snapshotTaken (.ok [9, 1])),
        .returned (.append [3]) (.appended (.answered (.ok ())))] ∧
      Effects log c.callers [9] [0, 1, 2] [9, 1, 3] := by
  intro s log
  let dead : Contention := ⟨(log.after (.opening [1, 2], s) 2).2, ⟨none, true⟩,
    [.died (.append [1, 2]), .waiting .snapshot, .waiting (.append [3])], [0]⟩
  have died : Steps log (start s) dead := by
    have called : Steps log (start s) _ :=
      .tail (.single (.calls (.append [1, 2]))) (.calls .snapshot)
    have wrote := (called.tail (.locks (i := 0) rfl rfl)).trans (Steps.advances (i := 0) rfl 2)
    exact (wrote.tail (.calls (.append [3]))).tail (.dies (i := 0) rfl)
  have seen : (log.perform dead.storage .snapshot).1 = .snapshotTaken (.ok [9, 1]) := by cbv
  have told : (log.perform dead.storage (.append [3])).1 = .appended (.answered (.ok ())) := by cbv
  obtain ⟨_, read⟩ := died.turn (i := 1) rfl rfl
  obtain ⟨poisoned, added⟩ := read.turn (i := 2) rfl rfl
  have run : Steps log (start s) ⟨(log.perform dead.storage (.append [3])).2, ⟨none, poisoned⟩,
      [.died (.append [1, 2]), .returned .snapshot (.snapshotTaken (.ok [9, 1])),
        .returned (.append [3]) (.appended (.answered (.ok ())))], [0, 1, 2]⟩ := by
    rw [← seen, ← told]
    exact added
  have holds : log.Holds s [9] := SharedLog.view?_eq_some_iff.mp (by cbv)
  have calm : s.Undisturbed := by simp [Storage.Undisturbed, s]
  obtain ⟨_, _, _, _, ⟨earlier, middle, order, _, free, _, bytes⟩, _⟩ := in_lock_order run
  obtain rfl : [0, 1, 2] = earlier := by simpa using order
  obtain rfl := free rfl
  obtain ⟨now, effects, held⟩ := bytes [9] holds calm fun i call reply found => by
    have member := List.mem_of_getElem? found
    simp only [List.mem_cons, reduceCtorEq, LogCaller.returned.injEq, List.not_mem_nil, or_false,
      false_or] at member
    obtain ⟨rfl, rfl⟩ | ⟨rfl, rfl⟩ := member <;> rfl
  have shown : log.Holds (log.perform dead.storage (.append [3])).2 [9, 1, 3] :=
    SharedLog.view?_eq_some_iff.mp (by cbv)
  obtain rfl := shown.unique held
  exact ⟨_, run, rfl, rfl, effects⟩

end Contention

end PacketLog
