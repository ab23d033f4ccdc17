import PacketLog.Connection.Registry

/-! # The keys of a registry

What each operation on a registry does to the entry under a key. A registry is tidy when the keys
that it will give out again are distinct and without an entry (`Registry.Tidy`), so that the next
key is always a free one; every operation keeps it so.
-/

namespace PacketLog

namespace Registry

/-- The keys to be given out again are distinct, and there is no entry under them. -/
structure Tidy (r : Registry) : Prop where
  distinct : r.vacant.Nodup
  free : ∀ key ∈ r.vacant, key < r.slots.length ∧ r.entry? key = none

variable {r : Registry}

/-- A registry without handlers is tidy. -/
theorem tidy_empty : empty.Tidy := ⟨List.nodup_nil, fun _ member => absurd member List.not_mem_nil⟩

private theorem entry?_eq_some_iff {key : Nat} {entry : Registration} :
    r.entry? key = some entry ↔ r.slots[key]? = some (some entry) := by
  rw [Registry.entry?, Option.join_eq_some_iff]

private theorem entry?_eq_none_of_le {key : Nat} (outside : r.slots.length ≤ key) :
    r.entry? key = none := by
  rw [Registry.entry?, List.getElem?_eq_none outside]
  rfl

/-- The entries are those under some key. -/
theorem mem_entries_iff {entry : Registration} :
    entry ∈ r.entries ↔ ∃ key, r.entry? key = some entry := by
  rw [entries, List.mem_filterMap]
  constructor
  · rintro ⟨slot, member, same⟩
    obtain ⟨key, found⟩ := List.mem_iff_getElem?.mp member
    exact ⟨key, entry?_eq_some_iff.mpr (found.trans (congrArg some same))⟩
  · rintro ⟨key, found⟩
    exact ⟨some entry, List.mem_iff_getElem?.mpr ⟨key, entry?_eq_some_iff.mp found⟩, rfl⟩

/-! ## Striking off and locking -/

private theorem entry?_set {key : Nat} (inside : key < r.slots.length) (slot : Option Registration)
    (vacant : List Nat) (other : Nat) :
    Registry.entry? { r with slots := r.slots.set key slot, vacant } other =
      if other = key then slot else r.entry? other := by
  rw [Registry.entry?, entry?, List.getElem?_set]
  by_cases same : other = key
  · subst same
    simp [inside]
  · simp [same, Ne.symm same]

private theorem entry?_strikeOff (key other : Nat) :
    Registry.entry? (r.strikeOff key) other = if other = key then none else r.entry? other := by
  rw [strikeOff]
  cases found : r.entry? key with
  | some entry =>
      obtain ⟨inside, _⟩ := List.getElem?_eq_some_iff.mp (entry?_eq_some_iff.mp found)
      exact entry?_set inside none _ other
  | none =>
      by_cases same : other = key
      · rw [if_pos same, same]
        exact found
      · rw [if_neg same]
        rfl

private theorem Tidy.strikeOff (tidy : r.Tidy) (key : Nat) : (r.strikeOff key).Tidy := by
  cases found : r.entry? key with
  | none =>
      rw [Registry.strikeOff, found]
      exact tidy
  | some entry =>
      have struck : r.strikeOff key =
          { r with slots := r.slots.set key none, vacant := key :: r.vacant } := by
        rw [Registry.strikeOff, found]
        rfl
      obtain ⟨inside, _⟩ := List.getElem?_eq_some_iff.mp (entry?_eq_some_iff.mp found)
      constructor
      · rw [struck]
        refine List.nodup_cons.mpr ⟨fun member => ?_, tidy.distinct⟩
        exact nomatch found.symm.trans (tidy.free key member).2
      · intro other member
        rw [entry?_strikeOff]
        rw [struck] at member ⊢
        rw [List.length_set]
        obtain rfl | member := List.mem_cons.mp member
        · exact ⟨inside, if_pos rfl⟩
        · obtain ⟨within, empty⟩ := tidy.free other member
          exact ⟨within, by rw [empty, ite_self]⟩

private theorem closed_strikeOff (key : Nat) : (r.strikeOff key).closed = r.closed := by
  rw [strikeOff]
  split <;> rfl

/-- **What the lock does.** It strikes off what is under the posted keys and nothing else. -/
theorem entry?_lock (key : Nat) :
    r.lock.entry? key = if key ∈ r.posted then none else r.entry? key := by
  have struck : ∀ (keys : List Nat) (r : Registry), Registry.entry? (keys.foldl strikeOff r) key =
      if key ∈ keys then none else r.entry? key := by
    intro keys
    induction keys with
    | nil => simp
    | cons first later ih =>
        intro r
        rw [List.foldl_cons, ih, entry?_strikeOff]
        by_cases here : key = first <;> simp [here]
  exact struck r.posted r

/-- Taking the lock leaves a registry tidy. -/
theorem Tidy.lock (tidy : r.Tidy) : r.lock.Tidy := by
  have struck : (r.posted.foldl Registry.strikeOff r).Tidy :=
    List.foldlRecOn r.posted Registry.strikeOff tidy fun _ tidy key _ => tidy.strikeOff key
  exact ⟨struck.distinct, struck.free⟩

/-- Taking the lock neither opens nor closes a registry. -/
@[simp]
theorem closed_lock : r.lock.closed = r.closed :=
  List.foldlRecOn (motive := fun after : Registry => after.closed = r.closed) r.posted strikeOff rfl
    fun _ same key _ => (closed_strikeOff key).trans same

/-! ## Posting -/

/-- Posting a key leaves a registry tidy. -/
theorem Tidy.post (tidy : r.Tidy) (key : Nat) : (r.post key).Tidy := ⟨tidy.distinct, tidy.free⟩

/-! ## Registering -/

/-- A registry that takes handlers offers the next key, and no other. -/
theorem offer?_eq_some_iff {key : Nat} :
    r.offer? = some key ↔ r.closed = false ∧ key = r.nextKey := by
  rw [offer?]
  cases r.closed <;> simp [eq_comm]

/-- A registry refuses handlers exactly when it is closed. -/
theorem offer?_eq_none_iff : r.offer? = none ↔ r.closed = true := by
  rw [offer?]
  cases r.closed <;> simp

/-- The next key is a free one. -/
theorem Tidy.entry?_nextKey (tidy : r.Tidy) : r.entry? r.nextKey = none := by
  rw [nextKey]
  cases keys : r.vacant with
  | nil => exact entry?_eq_none_of_le (Nat.le_refl _)
  | cons key vacant => exact (tidy.free key (keys ▸ List.mem_cons_self)).2

/-- **What registering does.** There is a new entry under the next key, and nothing else changes. -/
theorem Tidy.entry?_register (tidy : r.Tidy) (entry : Registration) (key : Nat) :
    Registry.entry? (r.register entry) key =
      if key = r.nextKey then some entry else r.entry? key := by
  rw [register, nextKey]
  cases keys : r.vacant with
  | cons first vacant =>
      exact entry?_set (tidy.free first (keys ▸ List.mem_cons_self)).1 (some entry) vacant key
  | nil =>
      rw [Registry.entry?, entry?, List.headD_nil]
      by_cases last : key = r.slots.length
      · subst last
        simp
      · rw [if_neg last]
        congr 1
        obtain inside | outside := Nat.lt_or_gt_of_ne last
        · exact List.getElem?_append_left inside
        · rw [List.getElem?_eq_none (by simp; omega), List.getElem?_eq_none (by omega)]

/-- Registering a handler leaves a registry tidy. -/
theorem Tidy.register (tidy : r.Tidy) (entry : Registration) : (r.register entry).Tidy := by
  cases keys : r.vacant with
  | nil =>
      have none : (r.register entry).vacant = [] := by rw [Registry.register, keys]
      exact ⟨none ▸ List.nodup_nil, fun _ member => absurd (none ▸ member) List.not_mem_nil⟩
  | cons first vacant =>
      have distinct := tidy.distinct
      rw [keys] at distinct
      obtain ⟨notAgain, distinct⟩ := List.nodup_cons.mp distinct
      have made :
          r.register entry = { r with slots := r.slots.set first (some entry), vacant } := by
        rw [Registry.register, keys]
      constructor
      · rw [made]
        exact distinct
      · intro key member
        rw [tidy.entry?_register, nextKey, keys]
        rw [made] at member ⊢
        obtain ⟨inside, empty⟩ := tidy.free key (keys ▸ List.mem_cons_of_mem _ member)
        have other : key ≠ first := fun same => notAgain (same ▸ member)
        rw [List.length_set]
        exact ⟨inside, by rw [List.headD_cons, if_neg other, empty]⟩

/-- Registering a handler posts no key. -/
@[simp]
theorem posted_register (entry : Registration) : (r.register entry).posted = r.posted := by
  rw [register]
  split <;> rfl

/-- Registering a handler neither opens nor closes a registry. -/
@[simp]
theorem closed_register (entry : Registration) : (r.register entry).closed = r.closed := by
  rw [register]
  split <;> rfl

/-! ## Draining -/

/-- Where there are no entries, posted keys have no effect. -/
theorem lock_of_no_slots (none : r.slots = []) : r.lock = { r with posted := [] } := by
  have same : ∀ keys : List Nat, keys.foldl strikeOff r = r := by
    intro keys
    induction keys with
    | nil => rfl
    | cons key keys ih =>
        have struck : r.strikeOff key = r := by
          rw [strikeOff, entry?_eq_none_of_le (none ▸ Nat.zero_le key)]
          rfl
        rw [List.foldl_cons, struck, ih]
  rw [lock, same]

/-- A drained registry is tidy. -/
theorem tidy_drain : r.drain.2.Tidy :=
  ⟨List.nodup_nil, fun _ member => absurd member List.not_mem_nil⟩

/-- Where no two keys have entries with the same task, there is one entry for each task. -/
theorem nodup_tasks
    (separate : ∀ {key other : Nat} {first second : Registration}, r.entry? key = some first →
      r.entry? other = some second → first.task = second.task → key = other) :
    (r.entries.map Registration.task).Nodup := by
  rw [List.Nodup, List.pairwise_map, entries, List.pairwise_filterMap, List.pairwise_iff_getElem]
  intro key other inside within before first here second there same
  have found := separate (entry?_eq_some_iff.mpr ((List.getElem?_eq_getElem inside).trans
    (congrArg some here))) (entry?_eq_some_iff.mpr ((List.getElem?_eq_getElem within).trans
    (congrArg some there))) same
  exact Nat.ne_of_lt before found

end Registry

end PacketLog
