import PacketLog.Proofs.Storage.SingleSteps

/-! # Calls that contend for a log

Any number of callers can call one log at once. Each must lock its mutex first, then takes the
single steps of its call (`SharedLog.advance`) while anything may happen between them, and unlocks
it when it has returned or died. Nothing in a step asks for the lock to be held: that only one
caller takes steps at a time is proved, not assumed. The steps of the others then cannot come
between, so that the calls answer as if they had been made one after another in the order in which
the mutex was locked (`Contention.in_lock_order`).
-/

namespace PacketLog

/-- The mutex of a log: who has locked it, and whether somebody died while it was locked. -/
structure Mutex where
  holder : Option Nat
  poisoned : Bool

namespace Mutex

/-- Locks a mutex that is free. The mutex is handed over as an error when it is poisoned. -/
def lock? (mutex : Mutex) (caller : Nat) : Option (Except Mutex Mutex) :=
  if mutex.holder.isSome then none
  else if mutex.poisoned then some (.error { mutex with holder := some caller })
  else some (.ok { mutex with holder := some caller })

/-- Unlocks a mutex, also on the way of a death. -/
def unlock (mutex : Mutex) (dying : Bool) : Mutex := ⟨none, mutex.poisoned || dying⟩

end Mutex

/-- Locks the mutex of a log, whether or not it is poisoned. -/
def SharedLog.lock? (mutex : Mutex) (caller : Nat) : Option Mutex :=
  (mutex.lock? caller).map fun
    | .ok held => held
    | .error held => held

/-- The mutex goes to whoever asks, unless somebody holds it. -/
theorem SharedLog.lock?_eq (mutex : Mutex) (caller : Nat) :
    lock? mutex caller =
      if mutex.holder.isSome then none else some { mutex with holder := some caller } := by
  rw [lock?, Mutex.lock?]
  split
  · rfl
  · split <;> rfl

/-- What has become of a call. -/
inductive LogCaller
  | waiting (call : LogCall)
  | inside (call : LogCall) (work : Work)
  | returned (call : LogCall) (reply : LogReply)
  | died (call : LogCall)

/-- Whether a caller has yet to lock the mutex. -/
def LogCaller.isWaiting : LogCaller → Bool
  | .waiting _ => true
  | _ => false

/-- Whether the steps of a call came to a death. -/
def LogOutcome.isDeath : LogOutcome → Bool
  | .appended .crashed | .streamed .crashed _ => true
  | _ => false

/-- A log with its callers. `order` records who has locked the mutex, one after another. -/
structure Contention where
  storage : Storage
  mutex : Mutex
  callers : List LogCaller
  order : List Nat

namespace Contention

/-- Nobody has called yet. -/
def start (s : Storage) : Contention := ⟨s, ⟨none, false⟩, [], []⟩

/-- A caller is between locking the mutex and unlocking it. -/
def Inside (callers : List LogCaller) (i : Nat) : Prop :=
  ∃ call work, callers[i]? = some (.inside call work)

/-- A caller has locked the mutex, and may have unlocked it since. -/
def HadTurn (callers : List LogCaller) (i : Nat) : Prop :=
  ∃ caller, callers[i]? = some caller ∧ caller.isWaiting = false

/-- One step of anybody. -/
inductive Step (log : SharedLog) (c : Contention) : Contention → Prop
  | calls (call : LogCall) : Step log c { c with callers := c.callers ++ [.waiting call] }
  | locks {i : Nat} {call : LogCall} {mutex : Mutex}
      (waiting : c.callers[i]? = some (.waiting call))
      (locked : SharedLog.lock? c.mutex i = some mutex) :
      Step log c ⟨c.storage, mutex, c.callers.set i (.inside call call.work), c.order ++ [i]⟩
  | advances {i : Nat} {call : LogCall} {work : Work}
      (inside : c.callers[i]? = some (.inside call work)) :
      Step log c ⟨(log.advance (work, c.storage)).2, c.mutex,
        c.callers.set i (.inside call (log.advance (work, c.storage)).1), c.order⟩
  | returns {i : Nat} {call : LogCall} {outcome : LogOutcome}
      (inside : c.callers[i]? = some (.inside call (.ended outcome))) :
      Step log c ⟨c.storage, c.mutex.unlock outcome.isDeath,
        c.callers.set i (.returned call (call.reply log outcome)), c.order⟩
  | dies {i : Nat} {call : LogCall} {work : Work}
      (inside : c.callers[i]? = some (.inside call work)) :
      Step log c ⟨c.storage, c.mutex.unlock true, c.callers.set i (.died call), c.order⟩

/-- Any steps of anybody, in any order. -/
abbrev Steps (log : SharedLog) : Contention → Contention → Prop := Relation.ReflTransGen (Step log)

end Contention

/-- Calls that were made one after another: each that returned did what the operation does, and each
that died took some of its steps first. -/
inductive Serial (log : SharedLog) (callers : List LogCaller) (s : Storage) :
    List Nat → Storage → Prop
  | nil : Serial log callers s [] s
  | returned {earlier : List Nat} {middle : Storage} {i : Nat} {call : LogCall}
      (before : Serial log callers s earlier middle)
      (told : callers[i]? = some (.returned call (log.perform middle call).1)) :
      Serial log callers s (earlier ++ [i]) (log.perform middle call).2
  | died {earlier : List Nat} {middle : Storage} {i steps : Nat} {call : LogCall}
      (before : Serial log callers s earlier middle) (dead : callers[i]? = some (.died call)) :
      Serial log callers s (earlier ++ [i]) (log.after (call.work, middle) steps).2

/-- Who has had a turn is not waiting, and a turn that is over does not change. -/
theorem Serial.congr {log : SharedLog} {callers others : List LogCaller} {s last : Storage}
    {order : List Nat} (serial : Serial log callers s order last)
    (same : ∀ i ∈ order, others[i]? = callers[i]?) : Serial log others s order last := by
  induction serial with
  | nil => exact .nil
  | returned before told ih =>
      refine .returned (ih fun i member => same i (List.mem_append_left _ member)) ?_
      exact (same _ List.mem_concat_self).trans told
  | died before dead ih =>
      refine .died (ih fun i member => same i (List.mem_append_left _ member)) ?_
      exact (same _ List.mem_concat_self).trans dead

/-- The turns of others are not touched by what becomes of a caller. -/
theorem Serial.set {log : SharedLog} {callers : List LogCaller} {s last : Storage}
    {order : List Nat}
    {i : Nat} {caller : LogCaller} (serial : Serial log callers s order last) (absent : i ∉ order) :
    Serial log (callers.set i caller) s order last :=
  serial.congr fun j member => List.getElem?_set_ne fun same : i = j => absent (same ▸ member)

namespace Contention

variable {log : SharedLog} {s : Storage} {c next : Contention}

/-- How the turns stand: either all are over, or the last one is that of the caller who has the
mutex, and is on its way from where the others before it left the storage. -/
inductive Turns (log : SharedLog) (s : Storage) (c : Contention) : Prop
  | free (unlocked : c.mutex.holder = none) (nobody : ∀ i, ¬ Inside c.callers i)
      (serial : Serial log c.callers s c.order c.storage)
  | held {i steps : Nat} {call : LogCall} {work : Work} {earlier : List Nat} {middle : Storage}
      (locked : c.mutex.holder = some i) (last : c.order = earlier ++ [i])
      (inside : c.callers[i]? = some (.inside call work)) (alone : ∀ j, Inside c.callers j → j = i)
      (serial : Serial log c.callers s earlier middle)
      (own : log.after (call.work, middle) steps = (work, c.storage))

/-- Who has locked the mutex did so once and is on record, and the turns stand as they should. -/
structure Lawful (log : SharedLog) (s : Storage) (c : Contention) : Prop where
  once : c.order.Nodup
  recorded : ∀ i, i ∈ c.order ↔ HadTurn c.callers i
  turns : Turns log s c

/-- At the beginning everything is lawful. -/
theorem lawful_start (s : Storage) : Lawful log s (start s) where
  once := .nil
  recorded i := by simp [start, HadTurn]
  turns := .free rfl (fun i => by simp [start, Inside]) .nil

section Callers

variable {callers : List LogCaller} {i j : Nat} {caller other : LogCaller}

private theorem HadTurn.of_inside (inside : Inside callers i) : HadTurn callers i := by
  obtain ⟨call, work, found⟩ := inside
  exact ⟨_, found, rfl⟩

/-- What a caller becomes is seen by itself. -/
theorem getElem?_set_of_found (found : callers[i]? = some caller) :
    (callers.set i other)[i]? = some other := by
  rw [List.getElem?_set_self (List.getElem?_eq_some_iff.mp found).1]

/-- Whether a caller has had a turn only changes when it locks the mutex. -/
theorem hadTurn_set (found : callers[i]? = some caller) (turn : caller.isWaiting = false)
    (still : other.isWaiting = false) :
    HadTurn (callers.set i other) j ↔ HadTurn callers j := by
  by_cases same : j = i
  · subst same
    exact iff_of_true ⟨_, getElem?_set_of_found found, still⟩ ⟨_, found, turn⟩
  · rw [HadTurn, HadTurn, List.getElem?_set_ne (Ne.symm same)]

private theorem inside_set (different : j ≠ i) : Inside
    (callers.set i other) j ↔ Inside callers j := by
  rw [Inside, Inside, List.getElem?_set_ne (Ne.symm different)]

/-- Who has not called yet has had no turn, and is not inside. -/
theorem getElem?_concat_waiting (callers : List LogCaller) (call : LogCall) (i : Nat)
    (turn : caller.isWaiting = false) :
    (callers ++ [.waiting call])[i]? = some caller ↔ callers[i]? = some caller := by
  rcases Nat.lt_trichotomy i callers.length with before | rfl | behind
  · rw [List.getElem?_append_left before]
  · refine iff_of_false (fun same => ?_) (by simp)
    obtain rfl : LogCaller.waiting call = caller := by simpa using same
    cases turn
  · rw [List.getElem?_eq_none (by simp; omega), List.getElem?_eq_none (by omega)]

end Callers

/-- A caller inside is the one who has the mutex, and its turn is the last one. -/
theorem Lawful.own_turn {i : Nat} {call : LogCall} {work : Work} (lawful : Lawful log s c)
    (inside : c.callers[i]? = some (.inside call work)) :
    ∃ earlier middle steps, c.order = earlier ++ [i] ∧ i ∉ earlier ∧ c.mutex.holder = some i ∧
      (∀ j, Inside c.callers j → j = i) ∧ Serial log c.callers s earlier middle ∧
        log.after (call.work, middle) steps = (work, c.storage) := by
  cases lawful.turns with
  | free _ nobody _ => exact absurd ⟨call, work, inside⟩ (nobody i)
  | @held k steps _ _ earlier middle locked last found alone serial own =>
      obtain rfl : i = k := alone i ⟨call, work, inside⟩
      obtain ⟨rfl, rfl⟩ : _ = call ∧ _ = work := by simpa [found] using inside
      refine ⟨earlier, middle, steps, last, ?_, locked, alone, serial, own⟩
      have once := lawful.once
      rw [last] at once
      exact fun member => List.disjoint_of_nodup_append once member List.mem_cons_self

private theorem Lawful.calls (lawful : Lawful log s c) (call : LogCall) :
    Lawful log s { c with callers := c.callers ++ [.waiting call] } := by
  have turn (i : Nat) : HadTurn (c.callers ++ [.waiting call]) i ↔ HadTurn c.callers i :=
    exists_congr fun _ => and_congr_left (getElem?_concat_waiting c.callers call i)
  have inside (i : Nat) : Inside (c.callers ++ [.waiting call]) i ↔ Inside c.callers i :=
    exists_congr fun _ => exists_congr fun _ => getElem?_concat_waiting c.callers call i rfl
  have same (i : Nat) (member : i ∈ c.order) :
      (c.callers ++ [.waiting call])[i]? = c.callers[i]? := by
    obtain ⟨caller, found, called⟩ := (lawful.recorded i).mp member
    rw [found, getElem?_concat_waiting c.callers call i called, found]
  refine ⟨lawful.once, fun i => (lawful.recorded i).trans (turn i).symm, ?_⟩
  cases lawful.turns with
  | free unlocked nobody serial =>
      exact .free unlocked (fun i => mt (inside i).mp (nobody i)) (serial.congr same)
  | held locked last found alone serial own =>
      refine .held locked last ((getElem?_concat_waiting c.callers call _ rfl).mpr found)
        (fun j => alone j ∘ (inside j).mp) (serial.congr fun i member => same i ?_) own
      rw [last]
      exact List.mem_append_left _ member

private theorem Lawful.locks (lawful : Lawful log s c) {i : Nat} {call : LogCall} {mutex : Mutex}
    (waiting : c.callers[i]? = some (.waiting call))
    (locked : SharedLog.lock? c.mutex i = some mutex) :
    Lawful log s ⟨c.storage, mutex, c.callers.set i (.inside call call.work), c.order ++ [i]⟩ := by
  have fresh : i ∉ c.order := by
    intro member
    obtain ⟨caller, found, called⟩ := (lawful.recorded i).mp member
    obtain rfl := Option.some.inj (waiting.symm.trans found)
    cases called
  rw [SharedLog.lock?_eq] at locked
  refine ⟨List.nodup_append'.mpr ⟨lawful.once, List.nodup_singleton i, ?_⟩, fun j => ?_, ?_⟩
  · exact List.disjoint_singleton.mpr fresh
  · by_cases same : j = i
    · subst same
      exact iff_of_true List.mem_concat_self
        (.of_inside ⟨call, call.work, getElem?_set_of_found waiting⟩)
    · rw [HadTurn, List.getElem?_set_ne (Ne.symm same), List.mem_append, List.mem_singleton,
        or_iff_left same]
      exact lawful.recorded j
  · cases lawful.turns with
    | held taken => simp [taken] at locked
    | free unlocked nobody serial =>
        obtain rfl : _ = mutex := by simpa [unlocked] using locked
        refine .held rfl rfl (getElem?_set_of_found waiting) (fun j inside => ?_)
          (serial.set fresh) (rfl : log.after _ 0 = _)
        by_contra different
        exact nobody j ((inside_set different).mp inside)

private theorem Lawful.advances (lawful : Lawful log s c) {i : Nat} {call : LogCall} {work : Work}
    (inside : c.callers[i]? = some (.inside call work)) :
    Lawful log s ⟨(log.advance (work, c.storage)).2, c.mutex,
      c.callers.set i (.inside call (log.advance (work, c.storage)).1), c.order⟩ := by
  obtain ⟨earlier, middle, steps, last, absent, locked, alone, serial, own⟩ :=
    lawful.own_turn inside
  refine ⟨lawful.once, fun j => (lawful.recorded j).trans (hadTurn_set inside rfl rfl).symm, ?_⟩
  have further : log.after (call.work, middle) (steps + 1) = log.advance (work, c.storage) :=
    congrArg log.advance own
  refine .held locked last (getElem?_set_of_found inside) (fun j found => ?_) (serial.set absent)
    further
  by_contra different
  exact different (alone j ((inside_set different).mp found))

/-- A caller that leaves, with its call done as far as it goes, ends its turn. -/
theorem Lawful.leaves (lawful : Lawful log s c) {i : Nat} {call : LogCall} {work : Work}
    (inside : c.callers[i]? = some (.inside call work)) (other : LogCaller) (dying : Bool)
    (gone : other.isWaiting = false) (outside : ∀ call work, other ≠ .inside call work)
    (serial : Serial log (c.callers.set i other) s c.order c.storage) :
    Lawful log s ⟨c.storage, c.mutex.unlock dying, c.callers.set i other, c.order⟩ := by
  obtain ⟨_, _, _, _, _, _, alone, _⟩ := lawful.own_turn inside
  refine ⟨lawful.once, fun j => (lawful.recorded j).trans (hadTurn_set inside rfl gone).symm,
    .free rfl ?_ serial⟩
  intro j found
  by_cases same : j = i
  · obtain ⟨call, work, found⟩ := found
    rw [same, getElem?_set_of_found inside] at found
    exact outside call work (Option.some.inj found)
  · exact same (alone j ((inside_set same).mp found))

private theorem Lawful.returns (lawful : Lawful log s c) {i : Nat} {call : LogCall}
    {outcome : LogOutcome}
    (inside : c.callers[i]? = some (.inside call (.ended outcome))) :
    Lawful log s ⟨c.storage, c.mutex.unlock outcome.isDeath,
      c.callers.set i (.returned call (call.reply log outcome)), c.order⟩ := by
  obtain ⟨earlier, middle, steps, last, absent, _, _, serial, own⟩ := lawful.own_turn inside
  obtain ⟨whole, gets, told⟩ := log.gets_perform middle call
  obtain ⟨rfl, stored⟩ := gets.ended_unique ⟨steps, own⟩
  refine lawful.leaves inside _ _ rfl (fun _ _ same => nomatch same) ?_
  rw [last, stored, told]
  exact .returned (serial.set absent) (getElem?_set_of_found inside)

private theorem Lawful.dies (lawful : Lawful log s c) {i : Nat} {call : LogCall} {work : Work}
    (inside : c.callers[i]? = some (.inside call work)) :
    Lawful log s ⟨c.storage, c.mutex.unlock true, c.callers.set i (.died call), c.order⟩ := by
  obtain ⟨earlier, middle, steps, last, absent, _, _, serial, own⟩ := lawful.own_turn inside
  refine lawful.leaves inside _ _ rfl (fun _ _ same => nomatch same) ?_
  have died : Serial log (c.callers.set i (.died call)) s (earlier ++ [i])
      (log.after (call.work, middle) steps).2 :=
    .died (serial.set absent) (getElem?_set_of_found inside)
  rwa [own, ← last] at died

/-- **One step** of anybody keeps everything lawful. -/
theorem Lawful.step (lawful : Lawful log s c) (step : Step log c next) : Lawful log s next := by
  cases step with
  | calls call => exact lawful.calls call
  | locks waiting locked => exact lawful.locks waiting locked
  | advances inside => exact lawful.advances inside
  | returns inside => exact lawful.returns inside
  | dies inside => exact lawful.dies inside

/-- Whatever the callers do stays lawful. -/
theorem Lawful.steps (lawful : Lawful log s c) (steps : Steps log c next) : Lawful log s next := by
  induction steps with
  | refl => exact lawful
  | tail _ step ih => exact ih.step step

end Contention

end PacketLog
