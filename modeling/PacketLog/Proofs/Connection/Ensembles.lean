import PacketLog.Connection.Ensemble
import PacketLog.Proofs.Connection.Joining

/-! # The handlers of an ensemble

An ensemble does to its registry what can be done to any: each of its operations is a run in which
handlers are registered, end and drop their guards, and are joined (`Ensemble.Step.tracks`). So the
registry of an ensemble follows its handlers (`Ensemble.registry_follows_handlers`), and whoever
joins them finds those that have their guards, once (`Ensemble.joins_follow_handlers`).
-/

namespace PacketLog

namespace Ensemble

/-- What can be done with an ensemble as long as it keeps its registry. -/
inductive Step (e : Ensemble) : Ensemble → Prop
  | spawn (name : Nat) (peer : SocketAddress) (mode : HandlerMode) :
      Step e (e.spawn name peer mode).2.2
  | finish (names : List Nat) : Step e (e.finish names).2
  | release : Step e e.release.2
  | count : Step e e.lock
  | joinAll : Step e e.joinAll.2.2
  | joinInBackground : Step e e.joinInBackground.2

/-- The handlers of an ensemble are those of a roster, which hold their guards as long as they are
guarded, and those that are done have ended. -/
structure Tracks (e : Ensemble) (j : Joining) : Prop where
  registry : e.registry = some j.roster.registry
  free : j.roster.making = none
  guards : j.roster.guards.map (fun guard => (guard.key, guard.held)) =
    e.handlers.map fun handler => (handler.key, handler.guarded)
  ended : ∀ task, task ∈ j.ended ↔ (e.handlers.map Handler.isDone)[task]? = some true

/-- An ensemble has become another one, and there was a run that has led there, after which these
are the calls that join. -/
def Follows (j : Joining) (calls : List JoinCall) (after : Ensemble) : Prop :=
  ∃ events next, j.Run events next ∧ next.calls = calls ∧ after.Tracks next

variable {e after : Ensemble} {j : Joining} {calls : List JoinCall}

private theorem tracks_empty : empty.Tracks .empty :=
  ⟨rfl, rfl, rfl, fun _ => by simp [Joining.empty, empty]⟩

private theorem Follows.trans {last : Ensemble} {further : List JoinCall}
    (first : Follows j calls e)
    (second : ∀ {j : Joining}, j.calls = calls → e.Tracks j → Follows j further last) :
    Follows j further last := by
  rcases first with ⟨_, middle, run, same, tracks⟩
  rcases second same tracks with ⟨_, next, more, sameNext, tracksNext⟩
  exact ⟨_, next, run.trans more, sameNext, tracksNext⟩

/-- What goes on leaves the calls alone. -/
theorem Follows.andThen {last : Ensemble} (first : Follows j calls e)
    (second : ∀ {j : Joining}, e.Tracks j → Follows j j.calls last) : Follows j calls last :=
  first.trans fun same tracks => same ▸ second tracks

namespace Tracks

variable (tracks : e.Tracks j)
include tracks

private theorem follows : Follows j j.calls e := ⟨_, j, .refl, rfl, tracks⟩

private theorem length_guards : j.roster.guards.length = e.handlers.length := by
  simpa only [List.length_map] using congrArg List.length tracks.guards

private theorem guard_of_handler {task : Nat} {handler : Handler}
    (found : e.handlers[task]? = some handler) :
    ∃ guard, j.roster.guards[task]? = some guard ∧ guard.key = handler.key ∧
      guard.held = handler.guarded := by
  have same := congrArg (·[task]?) tracks.guards
  simp only [List.getElem?_map, found, Option.map_some, Option.map_eq_some_iff] at same
  obtain ⟨guard, place, view⟩ := same
  exact ⟨guard, place, congrArg Prod.fst view, congrArg Prod.snd view⟩

private theorem handler_of_guard {task : Nat} {guard : Guard}
    (found : j.roster.guards[task]? = some guard) :
    ∃ handler, e.handlers[task]? = some handler ∧ handler.key = guard.key ∧
      handler.guarded = guard.held := by
  have same := congrArg (·[task]?) tracks.guards
  simp only [List.getElem?_map, found, Option.map_some] at same
  rcases Option.map_eq_some_iff.mp same.symm with ⟨handler, place, view⟩
  exact ⟨handler, place, congrArg Prod.fst view, congrArg Prod.snd view⟩

private theorem mem_ended_iff {task : Nat} {handler : Handler}
    (found : e.handlers[task]? = some handler) :
    task ∈ j.ended ↔ handler.isDone := by
  rw [tracks.ended, List.getElem?_map, found, Option.map_some, Option.some.injEq]

private theorem set {task : Nat} {handler changed : Handler}
    (found : e.handlers[task]? = some handler)
    (key : changed.key = handler.key) (guarded : changed.guarded = handler.guarded)
    (done : changed.isDone = handler.isDone) :
    { e with handlers := e.handlers.set task changed }.Tracks j := by
  have same : (changed.key, changed.guarded) = (handler.key, handler.guarded) := by
    rw [key, guarded]
  refine ⟨tracks.registry, tracks.free,
    tracks.guards.trans (Roster.map_set_of_same found same).symm, fun other => ?_⟩
  rw [tracks.ended, Roster.map_set_of_same found done]

/-- A handler that comes to an end. -/
theorem finish {task : Nat} {handler changed : Handler} (found : e.handlers[task]? = some handler)
    (key : changed.key = handler.key) (guarded : changed.guarded = handler.guarded)
    (running : handler.isDone = false) (done : changed.isDone) :
    Follows j j.calls { e with handlers := e.handlers.set task changed } := by
  have inside := (List.getElem?_eq_some_iff.mp found).1
  have notEnded : task ∉ j.ended := fun ended =>
    nomatch running.symm.trans ((tracks.mem_ended_iff found).mp ended)
  have step := Joining.Step.finish (tracks.length_guards ▸ inside) notEnded false
  have same : (changed.key, changed.guarded) = (handler.key, handler.guarded) := by
    rw [key, guarded]
  refine ⟨_, _, .single step, rfl, tracks.registry, tracks.free,
    tracks.guards.trans (Roster.map_set_of_same found same).symm, fun other => ?_⟩
  rw [List.mem_cons, tracks.ended, List.map_set, done, List.getElem?_set, List.length_map]
  by_cases here : task = other
  · simp [← here, inside]
  · simp [here, Ne.symm here]

/-- A handler goes on, perhaps to its end. -/
theorem change {task : Nat} {handler changed : Handler} (found : e.handlers[task]? = some handler)
    (key : changed.key = handler.key) (guarded : changed.guarded = handler.guarded)
    (stays : handler.isDone → changed.isDone) :
    Follows j j.calls { e with handlers := e.handlers.set task changed } := by
  cases running : handler.isDone with
  | true =>
      have done : changed.isDone = handler.isDone := (stays running).trans running.symm
      exact (tracks.set found key guarded done).follows
  | false =>
      cases done : changed.isDone with
      | true => exact tracks.finish found key guarded running done
      | false => exact (tracks.set found key guarded (done.trans running.symm)).follows

private theorem drop {task : Nat} {handler : Handler} (changed : Handler)
    (found : e.handlers[task]? = some handler) (guarded : handler.guarded)
    (key : changed.key = handler.key) (given : changed.guarded = false)
    (done : changed.isDone = handler.isDone) :
    Follows j j.calls
      ({ e with handlers := e.handlers.set task changed }.post handler.key) := by
  obtain ⟨guard, place, same, held⟩ := tracks.guard_of_handler found
  have step := Joining.Step.handlers (Roster.Step.drop place (held.trans guarded)) rfl
  refine ⟨_, _, .single step, rfl, ?_, tracks.free, ?_, fun other => ?_⟩
  · rw [post, tracks.registry, same]
    rfl
  · rw [List.map_set, tracks.guards, post, List.map_set, key, given]
    rw [Guard.dropped, same]
  · rw [tracks.ended, post, Roster.map_set_of_same found done]

private theorem signal (change : Handler → Handler)
    (key : ∀ handler, (change handler).key = handler.key)
    (guarded : ∀ handler, (change handler).guarded = handler.guarded)
    (done : ∀ handler, (change handler).isDone = handler.isDone) (tasks : List Nat) :
    (e.signal change tasks).Tracks j := by
  induction tasks generalizing e with
  | nil => exact tracks
  | cons task tasks ih =>
      have first : { e with handlers := e.handlers.modify task change }.Tracks j := by
        cases found : e.handlers[task]? with
        | none => rwa [List.modify_eq_set_getElem?, found]
        | some handler =>
            rw [List.modify_eq_set_getElem?, found]
            exact tracks.set found (key handler) (guarded handler) (done handler)
      exact ih first

end Tracks

private theorem isDone_advance {handler : Handler} (done : handler.isDone) :
    handler.advance.2.isDone := by
  have ended : handler.acts = [] := List.isEmpty_iff.mp done
  rw [Handler.advance, ended]
  rfl

namespace Tracks

variable (tracks : e.Tracks j)
include tracks

/-- **A handler runs.** If it ends it gives up its guard, once. -/
theorem run (task : Nat) : Follows j j.calls (e.run task).2 := by
  rw [Ensemble.run]
  cases found : e.handlers[task]? with
  | none => exact tracks.follows
  | some handler =>
      have inside := (List.getElem?_eq_some_iff.mp found).1
      have went : Follows j j.calls
          { e with handlers := e.handlers.set task handler.advance.2 } :=
        tracks.change found rfl rfl isDone_advance
      dsimp only
      split
      · rename_i ended
        rw [Bool.and_eq_true] at ended
        refine went.andThen fun tracks => ?_
        have dropped := tracks.drop { handler.advance.2 with guarded := false }
          (List.getElem?_set_self inside) ended.2 rfl rfl rfl
        rwa [List.set_set] at dropped
      · exact went

private theorem runAll (tasks : List Nat) : Follows j j.calls (e.runAll tasks).2 := by
  induction tasks generalizing e j with
  | nil => exact tracks.follows
  | cons task tasks ih => exact (tracks.run task).andThen fun tracks => ih tracks

private theorem sendClose (tasks : List Nat) : Follows j j.calls (e.sendClose tasks).2 := by
  have sent : (e.signal ({ · with closeSent := true }) tasks).Tracks j :=
    tracks.signal ({ · with closeSent := true }) (fun _ => rfl) (fun _ => rfl) (fun _ => rfl) tasks
  exact sent.runAll tasks

private theorem sendFinish (task : Nat) : Follows j j.calls (e.sendFinish task).2 := by
  have sent : (e.signal ({ · with finishSent := true }) [task]).Tracks j :=
    tracks.signal ({ · with finishSent := true }) (fun _ => rfl) (fun _ => rfl) (fun _ => rfl)
      [task]
  exact sent.run task

private theorem finishAll (names : List Nat) : Follows j j.calls (e.finish names).2 := by
  induction names generalizing e j with
  | nil => exact tracks.follows
  | cons name names ih =>
      rw [Ensemble.finish]
      cases named : e.names.lookup name with
      | none => exact ih tracks
      | some task =>
          have unnamed : { e with names := e.names.filter (·.1 != name) }.Tracks j :=
            ⟨tracks.registry, tracks.free, tracks.guards, tracks.ended⟩
          exact (unnamed.sendFinish task).andThen fun tracks => ih tracks

private theorem registry_lock : e.lock.registry = some j.roster.registry.lock := by
  rw [Ensemble.lock, tracks.registry]
  rfl

private theorem lock : Follows j j.calls e.lock :=
  ⟨_, _, .single (.handlers (.count tracks.free) Registry.closed_lock), rfl, tracks.registry_lock,
    tracks.free, tracks.guards, tracks.ended⟩

/-- A handler gets a name and runs, and the one that had the name finishes. -/
theorem begin (name task : Nat) :
    Follows j j.calls (match (e.name name task).1 with
      | some replaced => ((e.name name task).2.run task).2.sendFinish replaced
      | none => ([], ((e.name name task).2.run task).2)).2 := by
  have named : (e.name name task).2.Tracks j :=
    ⟨tracks.registry, tracks.free, tracks.guards, tracks.ended⟩
  cases (e.name name task).1 with
  | none => exact named.run task
  | some replaced => exact (named.run task).andThen fun tracks => tracks.sendFinish replaced

/-- A handler that was made is registered. -/
theorem register {handler : Handler} (offered : j.roster.registry.lock.offer? = some handler.key)
    (guarded : handler.guarded) (running : handler.isDone = false) (peer : SocketAddress) :
    Follows j j.calls
      { e with
        registry := some (j.roster.registry.lock.register ⟨peer, e.handlers.length⟩)
        handlers := e.handlers ++ [handler] } := by
  have offer := Joining.Step.handlers (@Roster.Step.offer _ _ peer tracks.free offered)
    Registry.closed_lock
  have registered := Joining.Run.single offer |>.step
    (.handlers (@Roster.Step.register _ ⟨handler.key, peer, true⟩ rfl) (Registry.closed_register _))
  refine ⟨_, _, registered, rfl, ?_, rfl, ?_, fun task => ?_⟩
  · exact congrArg (fun task => some (j.roster.registry.lock.register ⟨peer, task⟩))
      tracks.length_guards.symm
  · rw [List.map_append, List.map_append, tracks.guards, ← guarded]
    rfl
  · rw [tracks.ended, List.map_append, List.getElem?_append, List.map_singleton, running]
    split
    · rfl
    · rename_i outside
      rw [List.getElem?_eq_none (Nat.not_lt.mp outside)]
      exact iff_of_false nofun fun found =>
        nomatch List.mem_singleton.mp (List.mem_of_getElem? found)

/-- A handler that was made is registered, and may have given up its guard meanwhile, or ended. -/
theorem enroll (handler : Handler) (offered : j.roster.registry.lock.offer? = some handler.key)
    (peer : SocketAddress) :
    let registered : Ensemble :=
      { e with
        registry := some (j.roster.registry.lock.register ⟨peer, e.handlers.length⟩)
        handlers := e.handlers ++ [handler] }
    Follows j j.calls (if handler.guarded then registered else registered.post handler.key) := by
  intro registered
  have replace : ∀ old new : Handler, (e.handlers ++ [old]).set e.handlers.length new =
      e.handlers ++ [new] := by
    intro old new
    rw [List.set_append_right _ _ (Nat.le_refl _), Nat.sub_self, List.set_cons_zero]
  -- It is registered with its guard and with something left to do, comes to its end if it has
  -- nothing to do, and then gives up its guard.
  let early : Handler := { handler with guarded := true, acts := [.awaitClose] }
  have made : Follows j j.calls
      { registered with handlers := e.handlers ++ [{ handler with guarded := true }] } := by
    have begun := @register _ _ tracks early offered rfl rfl peer
    refine begun.andThen fun tracks => ?_
    have went := @change _ _ tracks e.handlers.length early { handler with guarded := true }
      List.getElem?_concat_length rfl rfl nofun
    rw [replace] at went
    exact went
  cases guarded : handler.guarded with
  | true => rwa [← guarded] at made
  | false =>
      refine made.andThen fun tracks => ?_
      have dropped := tracks.drop handler List.getElem?_concat_length rfl rfl guarded rfl
      rw [replace] at dropped
      exact dropped

private theorem spawn (name : Nat) (peer : SocketAddress) (mode : HandlerMode) :
    Follows j j.calls (e.spawn name peer mode).2.2 := by
  rw [Ensemble.spawn]
  have locked := tracks.registry_lock
  simp only [locked, Option.bind_some]
  cases offered : j.roster.registry.lock.offer? with
  | none => exact tracks.lock
  | some key =>
      dsimp only
      by_cases breaks : mode = .breakWhenMade
      · rw [if_pos breaks]
        refine ⟨_, _, .step (.step (.single (.handlers
          (@Roster.Step.offer _ key peer tracks.free offered) Registry.closed_lock))
          (.handlers (.giveUp rfl rfl) rfl)) (.handlers (.breakDown rfl rfl) rfl), rfl, ?_, rfl,
          tracks.guards, tracks.ended⟩
        rw [post, locked]
        rfl
      · rw [if_neg breaks]
        have enrolled := tracks.enroll
          ⟨key, peer.port, mode.acts, false, false, mode != .giveUpGuard⟩ offered peer
        exact enrolled.andThen fun tracks => tracks.begin name e.handlers.length

/-! ### Joins -/

private theorem startJoin_fst :
    e.startJoin.1 = j.roster.registry.lock.entries.map Registration.task := by
  rw [Ensemble.startJoin, tracks.registry_lock]
  rfl

/-- A call drains the registry, tells the handlers to close, and turns to wait for them. -/
theorem startJoin :
    Follows j (j.calls ++ [.awaiting e.startJoin.1 e.startJoin.1]) e.startJoin.2.2 := by
  let tasks := j.roster.registry.lock.entries.map Registration.task
  rw [tracks.startJoin_fst, Ensemble.startJoin, tracks.registry_lock]
  have arriving : (j.calls ++ [JoinCall.arriving])[j.calls.length]? = some .arriving :=
    List.getElem?_concat_length
  rcases @Joining.run_of_arriving { j with calls := j.calls ++ [.arriving] } _ arriving tracks.free
    with ⟨events, run⟩
  have drained : Follows j (j.calls ++ [.awaiting tasks tasks])
      { e with registry := some j.roster.registry.lock.drain.2 } := by
    refine ⟨_, _, (Joining.Run.single .call).trans run, ?_, rfl, tracks.free, tracks.guards,
      tracks.ended⟩
    exact (List.set_append_right _ _ (Nat.le_refl _)).trans (by rw [Nat.sub_self]; rfl)
  exact drained.andThen fun tracks => tracks.sendClose _

private theorem joinInBackground :
    Follows j (j.calls ++ [.awaiting e.startJoin.1 e.startJoin.1]) e.joinInBackground.2 := by
  rcases tracks.startJoin with ⟨_, next, run, same, tracks⟩
  exact ⟨_, next, run, same, tracks.registry, tracks.free, tracks.guards, tracks.ended⟩

/-- A call that joins all handlers returns their number, unless one of them does not end. -/
theorem joinAll (sound : j.roster.Sound) :
    Follows j (j.calls ++ [match e.joinAll.1 with
      | some count => .returned count
      | none => .awaiting e.startJoin.1 e.startJoin.1]) e.joinAll.2.2 := by
  rcases tracks.startJoin with ⟨_, next, run, same, tracksNext⟩
  have answer : e.joinAll.1 =
      if e.startJoin.2.2.allDone e.startJoin.1 then some e.startJoin.1.length else none := rfl
  by_cases done : e.startJoin.2.2.allDone e.startJoin.1
  · rw [answer, if_pos done]
    have ended : ∀ task ∈ e.startJoin.1, task ∈ next.ended := by
      intro task member
      have known : task < e.startJoin.2.2.handlers.length := by
        rw [tracks.startJoin_fst, List.mem_map] at member
        rcases member with ⟨entry, member, rfl⟩
        rcases Registry.mem_entries_iff.mp member with ⟨key, found⟩
        rw [Registry.entry?_lock] at found
        split at found
        · exact nomatch found
        · rcases sound.owned found with ⟨_, place, _⟩
          rw [← tracksNext.length_guards]
          exact Nat.lt_of_lt_of_le (List.getElem?_eq_some_iff.mp place).1 run.length_guards_le
      have found := List.getElem?_eq_getElem known
      have each := List.all_eq_true.mp done task member
      rw [found, Option.all_some] at each
      exact (tracksNext.mem_ended_iff found).mpr each
    have awaiting : next.calls[j.calls.length]? =
        some (.awaiting e.startJoin.1 e.startJoin.1) := by
      rw [same]
      exact List.getElem?_concat_length
    rcases Joining.run_of_awaiting awaiting ended with ⟨_, further⟩
    refine ⟨_, _, run.trans further, ?_, tracksNext.registry, tracksNext.free, tracksNext.guards,
      tracksNext.ended⟩
    rw [Joining.setCall, same, List.set_append_right _ _ (Nat.le_refl _), Nat.sub_self,
      List.set_cons_zero]
  · rw [answer, if_neg done]
    exact ⟨_, next, run, same, tracksNext⟩

end Tracks

/-- **One operation.** Whatever is done with an ensemble is a run in which its handlers are
registered, end and are joined. -/
theorem Step.tracks (step : Step e after) (tracks : e.Tracks j) (sound : j.roster.Sound) :
    ∃ calls, Follows j calls after := by
  cases step with
  | spawn name peer mode => exact ⟨_, tracks.spawn name peer mode⟩
  | finish names => exact ⟨_, tracks.finishAll names⟩
  | release => exact ⟨_, tracks.finishAll _⟩
  | count => exact ⟨_, tracks.lock⟩
  | joinAll => exact ⟨_, tracks.joinAll sound⟩
  | joinInBackground => exact ⟨_, tracks.joinInBackground⟩

/-- **Every run.** Whatever comes of a new ensemble has come of a run. -/
theorem tracks_of_steps (steps : Relation.ReflTransGen Step empty e) :
    ∃ past j, Joining.empty.Run past j ∧ e.Tracks j := by
  induction steps with
  | refl => exact ⟨_, .empty, .refl, tracks_empty⟩
  | tail _ step ih =>
      rcases ih with ⟨_, j, run, tracks⟩
      rcases step.tracks tracks (run.sound Roster.sound_empty) with
        ⟨_, _, next, more, _, tracksNext⟩
      exact ⟨_, next, run.trans more, tracksNext⟩

/-- **The registry follows the handlers.** Whatever is done with an ensemble before its handlers are
joined, the next lock leaves as many entries as there are handlers with their guards, each of them
has its entry under its own key, and no two have the same key. -/
theorem registry_follows_handlers {r : Registry} (steps : Relation.ReflTransGen Step empty e)
    (kept : e.registry = some r) (opened : r.closed = false) :
    r.lock.size = e.handlers.countP (·.guarded) ∧
    (∀ task handler, e.handlers[task]? = some handler → handler.guarded →
      ∃ peer, r.lock.entry? handler.key = some ⟨peer, task⟩) ∧
    ∀ (first second : Nat) (handler other : Handler), e.handlers[first]? = some handler →
      e.handlers[second]? = some other → handler.guarded → other.guarded →
      handler.key = other.key → first = second := by
  obtain ⟨_, j, run, tracks⟩ := tracks_of_steps steps
  obtain rfl : r = j.roster.registry := Option.some.inj (kept.symm.trans tracks.registry)
  have sound := run.sound Roster.sound_empty
  have holds : ∀ {task handler}, e.handlers[task]? = some handler → handler.guarded →
      ∃ guard, j.roster.Holds task guard ∧ guard.key = handler.key := by
    intro task handler found guarded
    obtain ⟨guard, place, same, held⟩ := tracks.guard_of_handler found
    exact ⟨guard, ⟨place, held.trans guarded⟩, same⟩
  refine ⟨(sound.size_lock opened).trans ?_, ?_, ?_⟩
  · have counts := congrArg (List.countP Prod.snd) tracks.guards
    rw [List.countP_map, List.countP_map] at counts
    exact counts
  · intro task handler found guarded
    obtain ⟨guard, held, same⟩ := holds found guarded
    exact ⟨guard.peer, (sound.entry?_lock_iff opened).mpr ⟨guard, held, same, rfl⟩⟩
  · intro first second handler other found foundToo guarded guardedToo same
    obtain ⟨guard, held, key⟩ := holds found guarded
    obtain ⟨another, heldToo, keyToo⟩ := holds foundToo guardedToo
    exact sound.key_injective opened held heldToo (key.trans (same.trans keyToo.symm))

/-- **Joins follow the handlers.** Whatever was done with an ensemble, the first call that joins its
handlers finds those that have their guards, each once, and every later call finds none and answers
zero. Whoever would start a handler then is refused. -/
theorem joins_follow_handlers {r : Registry} (steps : Relation.ReflTransGen Step empty e)
    (kept : e.registry = some r) :
    (r.closed = false → e.startJoin.1.Nodup ∧ ∀ task, task ∈ e.startJoin.1 ↔
      ∃ handler, e.handlers[task]? = some handler ∧ handler.guarded) ∧
    (r.closed → e.startJoin.1 = [] ∧ e.joinAll.1 = some 0 ∧
      ∀ name peer mode, (e.spawn name peer mode).1 = .refused ∧
        (e.spawn name peer mode).2.2.handlers = e.handlers) := by
  rcases tracks_of_steps steps with ⟨_, j, run, tracks⟩
  obtain rfl : r = j.roster.registry := Option.some.inj (kept.symm.trans tracks.registry)
  have sound := run.sound Roster.sound_empty
  constructor
  · intro opened
    rw [tracks.startJoin_fst]
    refine ⟨sound.nodup_tasks_lock opened, fun task => ?_⟩
    rw [sound.mem_tasks_lock_iff opened]
    constructor
    · rintro ⟨guard, place, held⟩
      rcases tracks.handler_of_guard place with ⟨handler, found, _, guarded⟩
      exact ⟨handler, found, guarded.trans held⟩
    · rintro ⟨handler, found, guarded⟩
      rcases tracks.guard_of_handler found with ⟨guard, place, _, held⟩
      exact ⟨guard, place, held.trans guarded⟩
  · intro closed
    have nothing : e.startJoin.1 = [] := by
      rw [tracks.startJoin_fst, List.map_eq_nil_iff, List.eq_nil_iff_forall_not_mem]
      intro entry member
      rcases Registry.mem_entries_iff.mp member with ⟨key, found⟩
      rw [Registry.entry?_lock, sound.drained closed, ite_self] at found
      exact nomatch found
    refine ⟨nothing, ?_, fun name peer mode => ?_⟩
    · have answer : e.joinAll.1 =
          if e.startJoin.2.2.allDone e.startJoin.1 then some e.startJoin.1.length else none := rfl
      rw [answer, nothing]
      rfl
    · have refused : j.roster.registry.lock.offer? = none :=
        Registry.offer?_eq_none_iff.mpr (Registry.closed_lock.trans closed)
      rw [Ensemble.spawn]
      simp only [tracks.registry_lock, Option.bind_some, refused]
      exact ⟨trivial, rfl⟩

end Ensemble

end PacketLog
