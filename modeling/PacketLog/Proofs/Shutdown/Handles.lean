import Mathlib.Data.List.Basic
import PacketLog.Shutdown.Handles

/-! # Calls on shutdown handles

However many handles there are on a flag, and whichever of them are given up, calls on them come
down to one bit: the flag is set from the first call that sets it on (`Handles.Calls.flagIsSet`),
that call alone is told so (`Handles.Calls.count_flips`), a copy of a handle shows what the handle
shows (`Handles.Calls.isTriggered?_clone`), and who waits goes on until the flag is set or he is
told to stop, also when the handle he waits through is given up (`Handles.Calls.done_waiter`).
-/

namespace PacketLog

namespace Handles

/-- What others can notice of a call: it asked for a flag to be set, and was told whether it was
the one to set it, or it told somebody to stop waiting, or neither. -/
inductive Effect
  | trigger (flag : Nat) (flipped : Bool)
  | abort (waiter : Nat)
  | unnoticed
  deriving DecidableEq, Repr

/-- One call on a handle, or on somebody who waits. -/
inductive Call : Handles → Effect → Handles → Prop
  | trigger {h next : Handles} {handle flag : Nat} {flipped : Bool}
      (behind : h.flagOf? handle = some flag) (answer : h.trigger? handle = some (flipped, next)) :
      Call h (.trigger flag flipped) next
  | clone {h next : Handles} {handle copy : Nat} (answer : h.clone? handle = some (copy, next)) :
      Call h .unnoticed next
  | create (h : Handles) : Call h .unnoticed h.create.2
  | wait {h next : Handles} {handle : Nat} (answer : h.wait? handle = some next) :
      Call h .unnoticed next
  | drop {h next : Handles} {handle : Nat} (answer : h.drop? handle = some next) :
      Call h .unnoticed next
  | abort (h : Handles) (waiter : Nat) : Call h (.abort waiter) (h.abort waiter)

/-- Calls one after another. -/
inductive Calls : Handles → List Effect → Handles → Prop
  | none (h : Handles) : Calls h [] h
  | call {h mid last : Handles} {effect : Effect} {effects : List Effect} :
      Call h effect mid → Calls mid effects last → Calls h (effect :: effects) last

/-- Handles and those who wait are on flags that exist. -/
structure Sound (h : Handles) : Prop where
  handles : ∀ handle flag, h.flagOf? handle = some flag → flag < h.flags.length
  waiters : ∀ waiter ∈ h.waiters, waiter.flag < h.flags.length

variable {h next last : Handles} {effect : Effect} {effects : List Effect}
variable {handle copy flag : Nat} {told : Bool}

/-! ## Single calls -/

/-- A call that asks for a flag to be set leaves it set and everything else as it was. -/
theorem trigger?_eq_some : h.trigger? handle = some (told, next) ↔
    ∃ flag before, h.flagOf? handle = some flag ∧ h.flags[flag]? = some before ∧
      told = (!before.triggered) ∧ next = { h with flags := h.flags.set flag ⟨true⟩ } := by
  simp only [trigger?, ShutdownFlag.trigger, Option.bind_eq_bind, Option.bind_eq_some_iff,
    Option.some.injEq, Prod.mk.injEq]
  constructor
  · rintro ⟨flag, behind, before, found, rfl, rfl⟩
    exact ⟨flag, before, behind, found, rfl, rfl⟩
  · rintro ⟨flag, before, behind, found, rfl, rfl⟩
    exact ⟨flag, behind, before, found, rfl, rfl⟩

/-- A copy is on the flag of the handle it was made from. -/
theorem clone?_eq_some : h.clone? handle = some (copy, next) ↔ ∃ flag,
    h.flagOf? handle = some flag ∧ copy = h.handles.length ∧
      next = { h with handles := h.handles ++ [some flag] } := by
  simp only [clone?, Option.bind_eq_bind, Option.bind_eq_some_iff, Option.some.injEq, Prod.mk.injEq]
  constructor <;> rintro ⟨flag, behind, rfl, rfl⟩ <;> exact ⟨flag, behind, rfl, rfl⟩

/-- Who starts to wait is the last in the row, and has not been told to stop. -/
theorem wait?_eq_some : h.wait? handle = some next ↔ ∃ flag,
    h.flagOf? handle = some flag ∧ next = { h with waiters := h.waiters ++ [⟨flag, false⟩] } := by
  simp only [wait?, Option.bind_eq_bind, Option.bind_eq_some_iff, Option.some.injEq]
  constructor <;> rintro ⟨flag, behind, rfl⟩ <;> exact ⟨flag, behind, rfl⟩

/-- Giving up a handle touches no flag and nobody who waits. -/
theorem drop?_eq_some : h.drop? handle = some next ↔
    (∃ flag, h.flagOf? handle = some flag) ∧
      next = { h with handles := h.handles.set handle none } := by
  simp only [drop?, Option.bind_eq_bind, Option.bind_eq_some_iff, Option.some.injEq]
  constructor
  · rintro ⟨flag, behind, rfl⟩
    exact ⟨⟨flag, behind⟩, rfl⟩
  · rintro ⟨⟨flag, behind⟩, rfl⟩
    exact ⟨flag, behind, rfl⟩

/-- A handle that was not given up is always answered. -/
theorem Sound.trigger? (sound : h.Sound) (behind : h.flagOf? handle = some flag) :
    h.trigger? handle =
      some (!h.flagIsSet flag, { h with flags := h.flags.set flag ⟨true⟩ }) := by
  obtain ⟨before, found⟩ : ∃ before, h.flags[flag]? = some before :=
    ⟨_, List.getElem?_eq_getElem (sound.handles handle flag behind)⟩
  apply trigger?_eq_some.mpr
  refine ⟨flag, before, behind, found, ?_, rfl⟩
  simp only [flagIsSet, found, Option.any_some]

/-! ## What a call does to the flags -/

private theorem flagIsSet_set {before : ShutdownFlag} (found : h.flags[flag]? = some before)
    (other : Nat) : ({ h with flags := h.flags.set flag ⟨true⟩ } : Handles).flagIsSet other =
      (h.flagIsSet other || decide (flag = other)) := by
  have within : flag < h.flags.length := (List.getElem?_eq_some_iff.mp found).1
  by_cases same : flag = other
  · subst same
    simp only [flagIsSet, List.getElem?_set_self within, Option.any_some, decide_true,
      Bool.or_true]
  · simp only [flagIsSet, List.getElem?_set_ne same, same, decide_false, Bool.or_false]

private theorem flagIsSet_create (other : Nat) :
    h.create.2.flagIsSet other = h.flagIsSet other := by
  obtain within | rfl | beyond := Nat.lt_trichotomy other h.flags.length
  · simp only [flagIsSet, create, List.getElem?_append_left within]
  · simp [flagIsSet, create, ShutdownFlag.fresh]
  · have outside : (h.flags ++ [.fresh])[other]? = none :=
      List.getElem?_eq_none (by rw [List.length_append]; exact beyond)
    simp only [flagIsSet, create, outside, List.getElem?_eq_none (Nat.le_of_lt beyond)]

/-- A call sets the flag it asks to be set, and no other; no call unsets one. -/
theorem Call.flagIsSet (call : Call h effect next) (flag : Nat) :
    next.flagIsSet flag = true ↔
      h.flagIsSet flag = true ∨ ∃ flipped, effect = .trigger flag flipped := by
  cases call with
  | trigger behind answer =>
    obtain ⟨set, before, behind', found, rfl, rfl⟩ := trigger?_eq_some.mp answer
    obtain rfl := Option.some.inj (behind.symm.trans behind')
    rw [flagIsSet_set found, Bool.or_eq_true, decide_eq_true_iff]
    simp
  | clone answer =>
    obtain ⟨_, _, _, rfl⟩ := clone?_eq_some.mp answer
    simp [Handles.flagIsSet]
  | create => simp [flagIsSet_create]
  | wait answer =>
    obtain ⟨_, _, rfl⟩ := wait?_eq_some.mp answer
    simp [Handles.flagIsSet]
  | drop answer =>
    obtain ⟨_, rfl⟩ := drop?_eq_some.mp answer
    simp [Handles.flagIsSet]
  | abort => simp [Handles.flagIsSet, Handles.abort]

/-- Who asks for a flag to be set is told whether it was unset until then. -/
theorem Call.answer_trigger (call : Call h (.trigger flag told) next) :
    told = !h.flagIsSet flag := by
  cases call with
  | trigger behind answer =>
    obtain ⟨set, before, behind', found, rfl, -⟩ := trigger?_eq_some.mp answer
    obtain rfl := Option.some.inj (behind.symm.trans behind')
    simp only [Handles.flagIsSet, found, Option.any_some]

/-! ## What a call does to handles and to those who wait -/

/-- A handle stays on its flag until it is given up, and is not taken back. -/
theorem Call.flagOf? (call : Call h effect next) (old : handle < h.handles.length)
    (kept : next.flagOf? handle = some flag) : h.flagOf? handle = some flag := by
  cases call with
  | trigger _ answer =>
    obtain ⟨_, _, _, _, _, rfl⟩ := trigger?_eq_some.mp answer
    exact kept
  | clone answer =>
    obtain ⟨_, _, _, rfl⟩ := clone?_eq_some.mp answer
    simpa only [Handles.flagOf?, List.getElem?_append_left old] using kept
  | create => simpa only [Handles.flagOf?, Handles.create, List.getElem?_append_left old] using kept
  | wait answer =>
    obtain ⟨_, _, rfl⟩ := wait?_eq_some.mp answer
    exact kept
  | @drop _ dropped answer =>
    obtain ⟨_, rfl⟩ := drop?_eq_some.mp answer
    by_cases same : dropped = handle
    · subst same
      simp [Handles.flagOf?, List.getElem?_set_self old] at kept
    · simpa only [Handles.flagOf?, List.getElem?_set_ne same] using kept
  | abort => exact kept

/-- No call takes a handle out of the row. -/
theorem Call.length_handles (call : Call h effect next) :
    h.handles.length ≤ next.handles.length := by
  cases call with
  | trigger _ answer =>
    obtain ⟨_, _, _, _, _, rfl⟩ := trigger?_eq_some.mp answer
    exact Nat.le_refl _
  | clone answer =>
    obtain ⟨_, _, _, rfl⟩ := clone?_eq_some.mp answer
    simp
  | create => simp [Handles.create]
  | wait answer =>
    obtain ⟨_, _, rfl⟩ := wait?_eq_some.mp answer
    exact Nat.le_refl _
  | drop answer =>
    obtain ⟨_, rfl⟩ := drop?_eq_some.mp answer
    simp
  | abort => exact Nat.le_refl _

/-- Who waits goes on waiting for the same flag, and stops only when told to. -/
theorem Call.waiters (call : Call h effect next) {waiter : Nat} {aborted : Bool}
    (waits : h.waiters[waiter]? = some ⟨flag, aborted⟩) :
    next.waiters[waiter]? = some ⟨flag, aborted || decide (effect = .abort waiter)⟩ := by
  cases call with
  | trigger _ answer =>
    obtain ⟨_, _, _, _, _, rfl⟩ := trigger?_eq_some.mp answer
    simpa using waits
  | clone answer =>
    obtain ⟨_, _, _, rfl⟩ := clone?_eq_some.mp answer
    simpa using waits
  | create => simpa [Handles.create] using waits
  | wait answer =>
    obtain ⟨_, _, rfl⟩ := wait?_eq_some.mp answer
    have within := (List.getElem?_eq_some_iff.mp waits).1
    simpa [List.getElem?_append_left within] using waits
  | drop answer =>
    obtain ⟨_, rfl⟩ := drop?_eq_some.mp answer
    simpa using waits
  | abort stopped =>
    by_cases same : stopped = waiter
    · subst same
      simp [Handles.abort, waits]
    · simp [Handles.abort, same, waits]

/-- Calls leave handles and those who wait on flags that exist. -/
theorem Call.sound (call : Call h effect next) (sound : h.Sound) : next.Sound := by
  cases call with
  | trigger _ answer =>
    obtain ⟨_, _, _, _, _, rfl⟩ := trigger?_eq_some.mp answer
    exact ⟨by simpa [Handles.flagOf?] using sound.handles, by simpa using sound.waiters⟩
  | clone answer =>
    obtain ⟨flag, behind, _, rfl⟩ := clone?_eq_some.mp answer
    refine ⟨fun handle other at_ => ?_, sound.waiters⟩
    obtain within | rfl | beyond := Nat.lt_trichotomy handle h.handles.length
    · exact sound.handles handle other
        (by simpa only [Handles.flagOf?, List.getElem?_append_left within] using at_)
    · simp only [Handles.flagOf?, List.getElem?_concat_length, Option.join_some,
        Option.some.injEq] at at_
      exact at_ ▸ sound.handles _ flag behind
    · have outside : (h.handles ++ [some flag])[handle]? = none :=
        List.getElem?_eq_none (by rw [List.length_append]; exact beyond)
      simp only [Handles.flagOf?, outside, Option.join_none, reduceCtorEq] at at_
  | create =>
    refine ⟨fun handle other at_ => ?_, fun waiter member => ?_⟩
    · simp only [Handles.create, List.length_append, List.length_singleton]
      obtain within | rfl | beyond := Nat.lt_trichotomy handle h.handles.length
      · simp only [Handles.flagOf?, Handles.create, List.getElem?_append_left within] at at_
        have := sound.handles handle other at_
        omega
      · simp [Handles.flagOf?, Handles.create] at at_
        omega
      · have outside : (h.handles ++ [some h.flags.length])[handle]? = none :=
          List.getElem?_eq_none (by rw [List.length_append]; exact beyond)
        simp only [Handles.flagOf?, Handles.create, outside, Option.join_none,
          reduceCtorEq] at at_
    · have := sound.waiters waiter member
      simp only [Handles.create, List.length_append, List.length_singleton]
      omega
  | wait answer =>
    obtain ⟨flag, behind, rfl⟩ := wait?_eq_some.mp answer
    refine ⟨sound.handles, fun waiter member => ?_⟩
    obtain old | new := List.mem_append.mp member
    · exact sound.waiters waiter old
    · rw [List.mem_singleton.mp new]
      exact sound.handles _ flag behind
  | @drop _ dropped answer =>
    obtain ⟨_, rfl⟩ := drop?_eq_some.mp answer
    refine ⟨fun handle flag at_ => ?_, sound.waiters⟩
    have old : handle < h.handles.length := by
      by_contra beyond
      simp [Handles.flagOf?, Nat.le_of_not_lt beyond] at at_
    exact sound.handles handle flag (Call.flagOf? (.drop answer) old at_)
  | abort waiter =>
    refine ⟨sound.handles, fun waiter' member => ?_⟩
    simp only [Handles.abort, List.mem_iff_getElem?, List.getElem?_modify, Option.map_eq_map,
      Option.map_eq_some_iff] at member
    obtain ⟨index, found, at_, rfl⟩ := member
    have := sound.waiters found (List.mem_of_getElem? at_)
    split <;> exact this

/-! ## Any number of calls -/

/-- The one handle of the first flag is on that flag. -/
theorem sound_single : single.Sound := by
  refine ⟨fun handle flag at_ => ?_, by simp [single]⟩
  match handle with
  | 0 =>
    simp only [single, flagOf?, List.getElem?_cons_zero, Option.join_some, Option.some.injEq] at at_
    simp [single, ← at_]
  | n + 1 => simp [single, flagOf?] at at_

/-- Handles and those who wait are on flags that exist after any calls. -/
theorem Calls.sound (calls : Calls h effects last) (sound : h.Sound) : last.Sound := by
  induction calls with
  | none => exact sound
  | call first _ ih => exact ih (first.sound sound)

/-- Whatever was called before, who asks for a flag to be set through a handle that was not given
up is answered, and told whether the flag was unset until then. -/
theorem Calls.trigger?_answers (calls : Calls single effects last)
    (behind : last.flagOf? handle = some flag) :
    ∃ next, last.trigger? handle = some (!last.flagIsSet flag, next) :=
  ⟨_, (calls.sound sound_single).trigger? behind⟩

/-- A flag is set when it was at the start or somebody has asked for it since, through whichever
handle, and stays set. -/
theorem Calls.flagIsSet (calls : Calls h effects last) (flag : Nat) :
    last.flagIsSet flag = true ↔
      h.flagIsSet flag = true ∨ ∃ flipped, .trigger flag flipped ∈ effects := by
  induction calls with
  | none => simp
  | call first _ ih =>
    rw [ih, first.flagIsSet, or_assoc]
    simp only [List.mem_cons, exists_or, eq_comm]

/-- Of all who ask for a flag to be set, one is told that he set it: nobody when it was set before
or nobody asked. -/
theorem Calls.count_flips (calls : Calls h effects last) (flag : Nat) :
    effects.count (.trigger flag true) =
      if h.flagIsSet flag = false ∧ last.flagIsSet flag = true then 1 else 0 := by
  induction calls with
  | none h => simp
  | @call h mid last effect effects first rest ih =>
    have stays : mid.flagIsSet flag = true → last.flagIsSet flag = true :=
      fun set => (rest.flagIsSet flag).mpr (.inl set)
    have step := first.flagIsSet flag
    rw [List.count_cons, ih]
    by_cases asked : effect = .trigger flag true
    · subst asked
      have unset : h.flagIsSet flag = false := by simpa using first.answer_trigger
      have set : mid.flagIsSet flag = true := step.mpr (.inr ⟨true, rfl⟩)
      simp [unset, set, stays set]
    · -- Whoever else asked was told that the flag had been set before.
      have same : mid.flagIsSet flag = h.flagIsSet flag := by
        rw [Bool.eq_iff_iff, step]
        refine ⟨?_, .inl⟩
        rintro (set | ⟨flipped, rfl⟩)
        · exact set
        · have := first.answer_trigger
          cases flipped
          · simpa using this
          · exact absurd rfl asked
      simp [same, asked]

/-- A handle is on the flag it was made for until it is given up. -/
theorem Calls.flagOf? (calls : Calls h effects last) (old : handle < h.handles.length)
    (kept : last.flagOf? handle = some flag) : h.flagOf? handle = some flag := by
  induction calls with
  | none => exact kept
  | call first _ ih =>
    have within := Nat.lt_of_lt_of_le old first.length_handles
    exact first.flagOf? old (ih within kept)

/-- A copy of a handle shows what the handle shows, as long as neither is given up. -/
theorem Calls.isTriggered?_clone (made : h.clone? handle = some (copy, next))
    (calls : Calls next effects last) (kept : (last.isTriggered? handle).isSome)
    (copyKept : (last.isTriggered? copy).isSome) :
    last.isTriggered? copy = last.isTriggered? handle := by
  obtain ⟨flag, behind, rfl, rfl⟩ := clone?_eq_some.mp made
  have old : handle < h.handles.length := by
    by_contra beyond
    simp [Handles.flagOf?, Nat.le_of_not_lt beyond] at behind
  simp only [isTriggered?, Option.isSome_map, Option.isSome_iff_exists] at kept copyKept ⊢
  obtain ⟨⟨flag₁, at₁⟩, ⟨flag₂, at₂⟩⟩ := And.intro kept copyKept
  -- Both handles are in the row from the copy on, so both are still where they were then.
  have first := calls.flagOf? (by simp; omega) at₁
  have second := calls.flagOf? (by simp) at₂
  simp only [Handles.flagOf?, List.getElem?_append_left old, List.getElem?_concat_length,
    Option.join_some, Option.some.injEq] at first second behind
  have same : flag₁ = flag₂ := by
    rw [← second]
    exact Option.some.inj (first.symm.trans behind)
  rw [at₁, at₂, same]

/-- Who waits is in the row after any calls, for the same flag. -/
theorem Calls.waiters (calls : Calls h effects last) {waiter : Nat} {aborted : Bool}
    (waits : h.waiters[waiter]? = some ⟨flag, aborted⟩) :
    last.waiters[waiter]? = some ⟨flag, aborted || decide (.abort waiter ∈ effects)⟩ := by
  induction calls generalizing aborted with
  | none => simpa using waits
  | call first _ ih =>
    rw [ih (first.waiters waits)]
    simp only [List.mem_cons, Bool.decide_or, Bool.or_assoc, eq_comm]

/-- Who waits through a handle is done once the flag behind it is set, by whichever handle, or he
was told to stop, and not before. Whether the handle was given up meanwhile does not matter. -/
theorem Calls.done_waiter (starts : h.wait? handle = some next)
    (behind : h.flagOf? handle = some flag) (calls : Calls next effects last) :
    last.done[h.waiters.length]? = some true ↔ h.flagIsSet flag = true ∨
      (∃ flipped, .trigger flag flipped ∈ effects) ∨ .abort h.waiters.length ∈ effects := by
  obtain ⟨flag', behind', rfl⟩ := wait?_eq_some.mp starts
  obtain rfl := Option.some.inj (behind.symm.trans behind')
  have newest : (h.waiters ++ [⟨flag, false⟩])[h.waiters.length]? = some ⟨flag, false⟩ :=
    List.getElem?_concat_length
  have waits := calls.waiters newest
  simp only [done, List.getElem?_map, waits, Option.map_some, isDone, Option.some.injEq,
    Bool.or_eq_true, Bool.false_or, decide_eq_true_iff, calls.flagIsSet flag]
  constructor
  · rintro (told | set | asked)
    · exact .inr (.inr told)
    · exact .inl set
    · exact .inr (.inl asked)
  · rintro (set | asked | told)
    · exact .inr (.inl set)
    · exact .inr (.inr asked)
    · exact .inl told

end Handles

end PacketLog
