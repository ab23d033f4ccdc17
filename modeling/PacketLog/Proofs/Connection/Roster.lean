import Mathlib.Data.List.Perm.Basic
import Mathlib.Logic.Relation
import PacketLog.Proofs.Connection.Keys

/-! # Who is in a registry

A `Roster` is a registry together with the guards it has given out, and `Roster.Step` says what can
be done to it next by anybody: handlers are made and registered under the lock, guards are dropped
at any time and for any reason, the lock is taken to count or to join. Posted keys are struck off
late and keys are given out again, so that the entries are not always those of the guards still
held. Yet each guard that is held has its entry (`Roster.Sound`), and after every lock there is no
other (`Roster.registry_follows_guards`). -/

namespace PacketLog

/-- The guard of a handler: the key it carries, the peer it was made for, and whether it is still
held. -/
structure Guard where
  key : Nat
  peer : SocketAddress
  held : Bool
  deriving DecidableEq, Repr

/-- A guard that was given up. -/
def Guard.dropped (guard : Guard) : Guard := { guard with held := false }

/-- A registry with the guards of the handlers registered so far, in that order, and the guard of
the handler that is being made, during which the registry is locked. -/
structure Roster where
  registry : Registry
  guards : List Guard
  making : Option Guard
  deriving DecidableEq, Repr

namespace Roster

/-- A registry that no handler was made for. -/
def empty : Roster := ⟨.empty, [], none⟩

/-- What can be done next. -/
inductive Step (t : Roster) : Roster → Prop
  /-- The lock is taken, and a handler is being made that gets a guard. -/
  | offer {key : Nat} {peer : SocketAddress} (free : t.making = none)
      (offered : t.registry.lock.offer? = some key) :
      Step t { t with registry := t.registry.lock, making := some ⟨key, peer, true⟩ }
  /-- The lock is taken, and the handler is refused. -/
  | refuse (free : t.making = none) (refused : t.registry.lock.offer? = none) :
      Step t { t with registry := t.registry.lock }
  /-- The guard is dropped while the handler is being made. -/
  | giveUp {guard : Guard} (making : t.making = some guard) (held : guard.held) :
      Step t { t with registry := t.registry.post guard.key, making := some guard.dropped }
  /-- The handler was made, and is registered. -/
  | register {guard : Guard} (making : t.making = some guard) :
      Step t ⟨t.registry.register ⟨guard.peer, t.guards.length⟩, t.guards ++ [guard], none⟩
  /-- Making the handler broke down, and its guard was dropped on the way out. -/
  | breakDown {guard : Guard} (making : t.making = some guard) (dropped : guard.held = false) :
      Step t { t with making := none }
  /-- The guard of a handler is dropped: it exits, breaks down, or gives it up early. -/
  | drop {task : Nat} {guard : Guard} (found : t.guards[task]? = some guard) (held : guard.held) :
      Step t { t with
        registry := t.registry.post guard.key, guards := t.guards.set task guard.dropped }
  /-- The lock is taken to count the handlers. -/
  | count (free : t.making = none) : Step t { t with registry := t.registry.lock }
  /-- The lock is taken to join the handlers, for which the registry is drained. -/
  | join (free : t.making = none) : Step t { t with registry := t.registry.lock.drain.2 }

/-- What can come of a registry that no handler was made for. -/
def Reached (t : Roster) : Prop := Relation.ReflTransGen Step empty t

/-- The guard of a task that is still held. -/
def Holds (t : Roster) (task : Nat) (guard : Guard) : Prop :=
  t.guards[task]? = some guard ∧ guard.held

/-- How many guards of registered handlers are still held. -/
def live (t : Roster) : Nat := t.guards.countP (·.held)

/-- Whether a handler finds its connection closed. The other end of its close signal is in its
entry, so that it fires, or is lost, with the entry. -/
def FindsClosed (t : Roster) (task : Nat) : Prop :=
  ∀ key entry, t.registry.entry? key = some entry → entry.task ≠ task

/-- A view of a list does not change with an element that looks the same. -/
theorem map_set_of_same {α β : Type} {list : List α} {place : Nat} {old new : α}
    (found : list[place]? = some old) {view : α → β} (same : view new = view old) :
    (list.set place new).map view = list.map view := by
  obtain ⟨inside, rfl⟩ := List.getElem?_eq_some_iff.mp found
  rw [List.map_set, same, ← List.map_set, List.set_getElem_self]

/-- What every step keeps true. Every guard that is held has its entry under the key it carries,
until the registry is drained; every entry belongs to a guard that is held, or whose key is posted;
and a handler that is being made has a key that is still free. -/
structure Sound (t : Roster) : Prop where
  tidy : t.registry.Tidy
  owned : ∀ {key entry}, t.registry.entry? key = some entry →
    ∃ guard, t.guards[entry.task]? = some guard ∧ guard.key = key ∧ guard.peer = entry.peer ∧
      (guard.held ∨ key ∈ t.registry.posted)
  entered : t.registry.closed = false → ∀ {task guard}, t.Holds task guard →
    t.registry.entry? guard.key = some ⟨guard.peer, task⟩ ∧ guard.key ∉ t.registry.posted
  making : ∀ guard, t.making = some guard → t.registry.closed = false ∧
    guard.key = t.registry.nextKey ∧ (guard.held ∨ guard.key ∈ t.registry.posted) ∧
    (guard.held → guard.key ∉ t.registry.posted)
  drained : t.registry.closed → ∀ key, t.registry.entry? key = none

/-- A roster without handlers is sound. -/
theorem sound_empty : empty.Sound where
  tidy := Registry.tidy_empty
  owned found := nomatch found
  entered _ _ _ holds := nomatch holds.1
  making _ making := nomatch making
  drained closed := nomatch closed

namespace Sound

variable {t : Roster} (sound : t.Sound)
include sound

/-- Taking the lock strikes off no entry of a guard that is held. -/
theorem lock (free : t.making = none) : { t with registry := t.registry.lock }.Sound where
  tidy := sound.tidy.lock
  owned := by
    intro key entry found
    rw [Registry.entry?_lock] at found
    split at found
    · exact nomatch found
    · rename_i notPosted
      obtain ⟨guard, task, same, peer, held⟩ := sound.owned found
      exact ⟨guard, task, same, peer, .inl (held.resolve_right notPosted)⟩
  entered := by
    intro opened task guard holds
    rw [Registry.closed_lock] at opened
    obtain ⟨found, notPosted⟩ := sound.entered opened holds
    exact ⟨by rw [Registry.entry?_lock, if_neg notPosted, found], List.not_mem_nil⟩
  making := by
    intro guard making
    exact nomatch free.symm.trans making
  drained := by
    intro closed key
    rw [Registry.closed_lock] at closed
    rw [Registry.entry?_lock, sound.drained closed, ite_self]

/-- After the lock the entries are those of the guards that are held. -/
theorem entry?_lock_iff (opened : t.registry.closed = false) {key : Nat} {entry : Registration} :
    t.registry.lock.entry? key = some entry ↔
      ∃ guard, t.Holds entry.task guard ∧ guard.key = key ∧ guard.peer = entry.peer := by
  rw [Registry.entry?_lock]
  constructor
  · intro found
    split at found
    · exact nomatch found
    · rename_i notPosted
      obtain ⟨guard, task, same, peer, held⟩ := sound.owned found
      exact ⟨guard, ⟨task, held.resolve_right notPosted⟩, same, peer⟩
  · rintro ⟨guard, holds, rfl, peer⟩
    obtain ⟨found, notPosted⟩ := sound.entered opened holds
    rw [if_neg notPosted, found, peer]

/-- Guards that are held carry different keys. -/
theorem key_injective (opened : t.registry.closed = false) {first second : Nat}
    {guard other : Guard} (holds : t.Holds first guard) (holdsToo : t.Holds second other)
    (same : guard.key = other.key) : first = second := by
  have found := (sound.entered opened holds).1
  rw [same, (sound.entered opened holdsToo).1] at found
  exact (congrArg Registration.task (Option.some.inj found)).symm

private theorem key_ne_making {task : Nat} {guard made : Guard} (making : t.making = some made)
    (holds : t.Holds task guard) : guard.key ≠ made.key := by
  obtain ⟨opened, next, _⟩ := sound.making made making
  intro same
  have found := (sound.entered opened holds).1
  rw [same, next, sound.tidy.entry?_nextKey] at found
  exact nomatch found

end Sound

/-- **One step.** Whatever is done, the roster stays sound. -/
theorem Step.sound {t next : Roster} (step : Step t next) (sound : t.Sound) : next.Sound := by
  cases step with
  | @offer key peer free offered =>
      obtain ⟨opened, rfl⟩ := Registry.offer?_eq_some_iff.mp offered
      have locked := sound.lock free
      refine ⟨locked.tidy, locked.owned, locked.entered, ?_, locked.drained⟩
      rintro _ ⟨⟩
      exact ⟨opened, rfl, .inl rfl, fun _ => List.not_mem_nil⟩
  | refuse free refused => exact sound.lock free
  | count free => exact sound.lock free
  | join free =>
      exact {
        tidy := Registry.tidy_drain
        owned := fun found => nomatch found
        entered := fun opened => nomatch opened
        making := fun guard making => nomatch free.symm.trans making
        drained := fun _ _ => rfl }
  | @giveUp guard making held =>
      obtain ⟨opened, next, _, _⟩ := sound.making guard making
      refine ⟨sound.tidy.post _, ?_, ?_, ?_, sound.drained⟩
      · intro key entry found
        obtain ⟨owner, task, same, peer, known⟩ := sound.owned found
        exact ⟨owner, task, same, peer, known.imp_right (List.mem_append_left _)⟩
      · intro _ task other holds
        obtain ⟨found, notPosted⟩ := sound.entered opened holds
        refine ⟨found, fun member => ?_⟩
        obtain member | member := List.mem_append.mp member
        · exact notPosted member
        · exact sound.key_ne_making making holds (List.mem_singleton.mp member)
      · rintro _ ⟨⟩
        exact ⟨opened, next, .inr (List.mem_append_right _ List.mem_cons_self),
          fun held => nomatch held⟩
  | @register guard making =>
      obtain ⟨opened, next, known, notPosted⟩ := sound.making guard making
      refine ⟨sound.tidy.register _, ?_, ?_, nofun, ?_⟩
      · intro key entry found
        rw [sound.tidy.entry?_register] at found
        rw [Registry.posted_register]
        split at found
        · rename_i here
          obtain rfl := Option.some.inj found
          rw [← next] at here
          exact ⟨guard, List.getElem?_concat_length, here.symm, rfl, here ▸ known⟩
        · obtain ⟨owner, task, same, peer, known⟩ := sound.owned found
          obtain ⟨inside, _⟩ := List.getElem?_eq_some_iff.mp task
          exact ⟨owner, (List.getElem?_append_left inside).trans task, same, peer, known⟩
      · rintro _ task other ⟨found, held⟩
        rw [Registry.posted_register, sound.tidy.entry?_register, ← next]
        by_cases last : task = t.guards.length
        · subst last
          obtain rfl := Option.some.inj (List.getElem?_concat_length.symm.trans found)
          exact ⟨if_pos rfl, notPosted held⟩
        · have before : t.Holds task other := by
            refine ⟨?_, held⟩
            rwa [List.getElem?_append_left] at found
            have := (List.getElem?_eq_some_iff.mp found).1
            rw [List.length_append, List.length_singleton] at this
            omega
          rw [if_neg (sound.key_ne_making making before)]
          exact sound.entered opened before
      · intro closed
        rw [Registry.closed_register, opened] at closed
        exact nomatch closed
  | @breakDown guard making dropped =>
      exact ⟨sound.tidy, sound.owned, sound.entered, nofun, sound.drained⟩
  | @drop task guard found held =>
      have inside := (List.getElem?_eq_some_iff.mp found).1
      refine ⟨sound.tidy.post _, ?_, ?_, ?_, sound.drained⟩
      · intro key entry present
        obtain ⟨owner, place, same, peer, known⟩ := sound.owned present
        by_cases here : entry.task = task
        · rw [here, found] at place
          obtain rfl := Option.some.inj place
          refine ⟨guard.dropped, ?_, same, peer, .inr ?_⟩
          · rw [here, List.getElem?_set_self inside]
          · exact List.mem_append_right _ (same ▸ List.mem_cons_self)
        · refine ⟨owner, ?_, same, peer, known.imp_right (List.mem_append_left _)⟩
          rw [List.getElem?_set_ne (Ne.symm here), place]
      · rintro opened place other ⟨present, heldToo⟩
        by_cases here : task = place
        · rw [← here, List.getElem?_set_self inside] at present
          obtain rfl := Option.some.inj present
          exact nomatch heldToo
        · rw [List.getElem?_set_ne here] at present
          obtain ⟨entered, notPosted⟩ := sound.entered opened ⟨present, heldToo⟩
          refine ⟨entered, fun member => ?_⟩
          obtain member | member := List.mem_append.mp member
          · exact notPosted member
          · exact here (sound.key_injective opened ⟨found, held⟩ ⟨present, heldToo⟩
              (List.mem_singleton.mp member).symm)
      · intro made making
        obtain ⟨opened, next, known, notPosted⟩ := sound.making made making
        refine ⟨opened, next, known.imp_right (List.mem_append_left _), fun heldToo member => ?_⟩
        obtain member | member := List.mem_append.mp member
        · exact notPosted heldToo member
        · exact sound.key_ne_making making ⟨found, held⟩ (List.mem_singleton.mp member).symm

/-- **Every run.** Whatever comes of a sound roster is sound. -/
theorem Sound.of_steps {t next : Roster} (sound : t.Sound)
    (steps : Relation.ReflTransGen Step t next) : next.Sound := by
  induction steps with
  | refl => exact sound
  | tail _ step ih => exact step.sound ih

/-! ## What the lock finds -/

/-- The tasks whose guards are held. -/
def heldTasks (t : Roster) : List Nat := (t.guards.zipIdx.filter (·.1.held)).map (·.2)

variable {t : Roster}

private theorem length_heldTasks : t.heldTasks.length = t.live := by
  rw [heldTasks, List.length_map, ← List.countP_eq_length_filter, live]
  conv_rhs => rw [← List.zipIdx_map_fst 0 t.guards, List.countP_map]
  rfl

private theorem nodup_heldTasks : t.heldTasks.Nodup := by
  have all : (t.guards.zipIdx.map (·.2)).Nodup := by
    rw [List.zipIdx_map_snd]
    exact List.nodup_range'
  exact all.sublist (List.filter_sublist.map _)

private theorem mem_heldTasks_iff {task : Nat} :
    task ∈ t.heldTasks ↔ ∃ guard, t.Holds task guard := by
  rw [heldTasks, List.mem_map]
  constructor
  · rintro ⟨⟨guard, place⟩, member, rfl⟩
    obtain ⟨present, held⟩ := List.mem_filter.mp member
    exact ⟨guard, List.mem_zipIdx_iff_getElem?.mp present, held⟩
  · rintro ⟨guard, found, held⟩
    have present : (guard, task) ∈ t.guards.zipIdx := List.mem_zipIdx_iff_getElem?.mpr found
    exact ⟨(guard, task), List.mem_filter.mpr ⟨present, held⟩, rfl⟩

/-- The entries that a lock leaves belong to different tasks. -/
theorem Sound.nodup_tasks_lock (sound : t.Sound) (opened : t.registry.closed = false) :
    (t.registry.lock.entries.map Registration.task).Nodup := by
  refine Registry.nodup_tasks fun here there same => ?_
  obtain ⟨guard, holds, rfl, _⟩ := (sound.entry?_lock_iff opened).mp here
  obtain ⟨other, holdsToo, rfl, _⟩ := (sound.entry?_lock_iff opened).mp there
  rw [same] at holds
  rw [Option.some.inj (holds.1.symm.trans holdsToo.1)]

/-- The tasks that a lock finds in the registry are those whose guards are held. -/
theorem Sound.mem_tasks_lock_iff (sound : t.Sound) (opened : t.registry.closed = false)
    {task : Nat} : task ∈ t.registry.lock.entries.map Registration.task ↔
      ∃ guard, t.Holds task guard := by
  rw [List.mem_map]
  constructor
  · rintro ⟨entry, member, rfl⟩
    obtain ⟨key, found⟩ := Registry.mem_entries_iff.mp member
    obtain ⟨guard, holds, _⟩ := (sound.entry?_lock_iff opened).mp found
    exact ⟨guard, holds⟩
  · rintro ⟨guard, holds⟩
    have found : t.registry.lock.entry? guard.key = some ⟨guard.peer, task⟩ :=
      (sound.entry?_lock_iff opened).mpr ⟨guard, holds, rfl, rfl⟩
    exact ⟨_, Registry.mem_entries_iff.mpr ⟨_, found⟩, rfl⟩

/-- As many handlers are registered after a lock as there are guards of theirs that are held. -/
theorem Sound.size_lock (sound : t.Sound) (opened : t.registry.closed = false) :
    t.registry.lock.size = t.live := by
  have members : ∀ task, task ∈ t.registry.lock.entries.map Registration.task ↔
      task ∈ t.heldTasks := fun task =>
    (sound.mem_tasks_lock_iff opened).trans mem_heldTasks_iff.symm
  have same := (List.perm_ext_iff_of_nodup (sound.nodup_tasks_lock opened) nodup_heldTasks).mpr
    members
  rw [Registry.size, ← length_heldTasks, ← same.length_eq, List.length_map]

/-- No more handlers are registered after a lock than there are guards; after the registry was
drained, none is. -/
theorem Sound.size_lock_le (sound : t.Sound) (free : t.making = none) :
    t.registry.lock.size ≤ t.guards.length := by
  cases closed : t.registry.closed with
  | false =>
      rw [sound.size_lock closed]
      exact List.countP_le_length
  | true =>
      have drained := (sound.lock free).drained (Registry.closed_lock.trans closed)
      have gone : t.registry.lock.entries = [] := by
        refine List.eq_nil_iff_forall_not_mem.mpr fun entry member => ?_
        obtain ⟨key, found⟩ := Registry.mem_entries_iff.mp member
        exact nomatch (drained key).symm.trans found
      rw [Registry.size, gone]
      exact Nat.zero_le _

/-- **The registry follows the guards.** Take anything that can come of a registry before it is
joined, with handlers registered, ending, breaking down and giving up their guards in any order,
and keys given out again. The entries that the next lock leaves are those of the guards of
registered handlers that are still held, each under the key that its guard carries, and there are
as many. These keys differ from each other, and from the key of a handler that is being made. A
posted key strikes off no entry of a guard that is held, and no handler whose guard is held finds
its connection closed. -/
theorem registry_follows_guards (reached : t.Reached) (opened : t.registry.closed = false) :
    (∀ key entry, t.registry.lock.entry? key = some entry ↔
      ∃ guard, t.Holds entry.task guard ∧ guard.key = key ∧ guard.peer = entry.peer) ∧
    t.registry.lock.size = t.live ∧
    (∀ first second guard other, t.Holds first guard → t.Holds second other →
      guard.key = other.key → first = second) ∧
    (∀ made, t.making = some made → ∀ task guard, t.Holds task guard → guard.key ≠ made.key) ∧
    (∀ key ∈ t.registry.posted, ∀ entry, t.registry.entry? key = some entry →
      ∀ guard, ¬ t.Holds entry.task guard) ∧
    ∀ task guard, t.Holds task guard → ¬ t.FindsClosed task := by
  have sound := sound_empty.of_steps reached
  refine ⟨fun _ _ => sound.entry?_lock_iff opened, sound.size_lock opened, ?_, ?_, ?_, ?_⟩
  · intro first second guard other holds holdsToo same
    exact sound.key_injective opened holds holdsToo same
  · intro made making task guard holds
    exact sound.key_ne_making making holds
  · intro key posted entry found guard holds
    obtain ⟨owner, task, same, _⟩ := sound.owned found
    obtain rfl := Option.some.inj (task.symm.trans holds.1)
    exact (sound.entered opened holds).2 (same ▸ posted)
  · intro task guard holds findsClosed
    exact findsClosed _ _ (sound.entered opened holds).1 rfl

/-- One key is given out three times: to a handler that exits, to one whose making breaks down, and
to one that stays, while another exits. -/
theorem key_given_out_again :
    let t : Roster :=
      ⟨⟨[some ⟨.loopback 3, 1⟩, some ⟨.loopback 4, 2⟩], [], [1], false⟩,
        [⟨0, .loopback 1, false⟩, ⟨0, .loopback 3, true⟩, ⟨1, .loopback 4, false⟩], none⟩
    t.Reached ∧ t.registry.lock.entry? 0 = some ⟨.loopback 3, 1⟩ ∧ t.registry.lock.size = 1 := by
  intro t
  have reached : t.Reached := by
    have first : Reached ⟨⟨[some ⟨.loopback 1, 0⟩], [], [0], false⟩, [⟨0, .loopback 1, false⟩],
        none⟩ :=
      .tail (.tail (.tail .refl (@Step.offer _ 0 (.loopback 1) rfl rfl)) (.register rfl))
        (@Step.drop _ 0 ⟨0, .loopback 1, true⟩ rfl rfl)
    have second : Reached ⟨⟨[none], [0], [0], false⟩, [⟨0, .loopback 1, false⟩], none⟩ :=
      .tail (.tail (.tail first (@Step.offer _ 0 (.loopback 2) rfl rfl)) (.giveUp rfl rfl))
        (.breakDown rfl rfl)
    have third : Reached ⟨⟨[some ⟨.loopback 3, 1⟩], [], [], false⟩,
        [⟨0, .loopback 1, false⟩, ⟨0, .loopback 3, true⟩], none⟩ :=
      .tail (.tail second (@Step.offer _ 0 (.loopback 3) rfl rfl))
        (@Step.register _ ⟨0, .loopback 3, true⟩ rfl)
    exact .tail (.tail (.tail third (@Step.offer _ 1 (.loopback 4) rfl rfl))
      (@Step.register _ ⟨1, .loopback 4, true⟩ rfl)) (@Step.drop _ 2 ⟨1, .loopback 4, true⟩ rfl rfl)
  obtain ⟨entries, size, _⟩ := registry_follows_guards reached rfl
  exact ⟨reached, (entries _ _).mpr ⟨⟨0, .loopback 3, true⟩, ⟨rfl, rfl⟩, rfl, rfl⟩, size⟩

end Roster

end PacketLog
