import Mathlib
import PacketLog.Proofs.Connection.Roster

/-! # Joining all handlers

A call that joins all handlers drains the registry under the lock, tells the handlers that it found
to close, one after another, and then waits for them, one after another. Any number of calls may be
on their way at once, while handlers are registered, exit and break down as they like. `Joining` is
a roster with all these calls, `Joining.Step` says what can happen next, and `Joining.Run` what has
happened so far. Until a call gets the lock nothing is joined (`Joining.Early`). From then on that
call alone joins, and finds all it has to, while the registry stays empty and closed
(`Joining.Joins`); so everyone is joined once (`Joining.everyone_joined_once`).
-/

namespace PacketLog

/-! ## A drained registry -/

/-- The registry was drained for good, and no handler is being made. -/
structure Roster.Emptied (t : Roster) : Prop where
  registry : t.registry = ⟨[], [], t.registry.posted, true⟩
  free : t.making = none

namespace Roster.Emptied

variable {t next : Roster} (emptied : t.Emptied)
include emptied

/-- Keys that are posted strike nothing off. -/
theorem lock_eq : t.registry.lock = ⟨[], [], [], true⟩ := by
  rw [Registry.lock_of_no_slots (congrArg Registry.slots emptied.registry), emptied.registry]

/-- No handler gets a key. -/
theorem refuses : t.registry.lock.offer? = none := by
  rw [emptied.lock_eq]
  rfl

private theorem of_lock : { t with registry := t.registry.lock }.Emptied := by
  rw [emptied.lock_eq]
  exact ⟨rfl, emptied.free⟩

/-- It stays so, and no handler is registered. -/
theorem step (step : t.Step next) :
    next.Emptied ∧ next.guards.length = t.guards.length := by
  cases step with
  | offer free offered => exact nomatch emptied.refuses.symm.trans offered
  | refuse | count => exact ⟨emptied.of_lock, rfl⟩
  | giveUp making | register making | breakDown making =>
      exact nomatch emptied.free.symm.trans making
  | drop found held =>
      refine ⟨⟨?_, emptied.free⟩, List.length_set⟩
      rw [Registry.post, emptied.registry]
  | join free =>
      rw [emptied.lock_eq]
      exact ⟨⟨rfl, free⟩, rfl⟩

end Roster.Emptied

/-! ## Calls -/

/-- A call that joins all handlers. It has not had the lock yet; it tells the handlers that it has
drained to close, with some of them left; it waits for them to end, with some of them left; or it
has returned how many there were. -/
inductive JoinCall
  | arriving
  | closing (drained left : List Nat)
  | awaiting (drained left : List Nat)
  | returned (count : Nat)
  deriving DecidableEq, Repr

/-- What happens while handlers are joined: the task of a handler comes to an end, well or badly, a
call drains the registry, tells a handler to close, has waited for one to the end, or returns. -/
inductive JoinEvent
  | ended (task : Nat) (crashed : Bool)
  | drained (call : Nat) (tasks : List Nat)
  | told (call task : Nat)
  | awaited (call task : Nat)
  | returned (call count : Nat)
  deriving DecidableEq, Repr

namespace JoinEvent

/-- The task of a handler comes to an end. -/
def isEnd : JoinEvent → Bool
  | .ended _ _ => true
  | _ => false

/-- A call deals with a handler. -/
def isDealing : JoinEvent → Bool
  | .told _ _ | .awaited _ _ => true
  | _ => false

/-- The dealings of calls with handlers, in order. -/
def dealings (events : List JoinEvent) : List JoinEvent := events.filter isDealing

/-- All that a call does about the handlers it has drained: it tells each of them to close, and then
waits for each. -/
def allDealings (call : Nat) (drained : List Nat) : List JoinEvent :=
  drained.map (.told call) ++ drained.map (.awaited call)

private theorem dealings_append (past later : List JoinEvent) :
    dealings (past ++ later) = dealings past ++ dealings later :=
  List.filter_append _ _

end JoinEvent

open JoinEvent

/-- A call that has drained nothing, or has not had the lock. -/
inductive JoinCall.Idle : JoinCall → Prop
  | arriving : Idle .arriving
  | closing : Idle (.closing [] [])
  | awaiting : Idle (.awaiting [] [])
  | returned : Idle (.returned 0)

/-- How far a call has come with the handlers it has drained, if these have been all dealings. -/
def JoinCall.Deals (first : Nat) (drained : List Nat) (dealings : List JoinEvent) :
    JoinCall → Prop
  | .arriving => False
  | .closing all left => all = drained ∧
      ∃ told, drained = told ++ left ∧ dealings = told.map (.told first)
  | .awaiting all left => all = drained ∧ ∃ awaited, drained = awaited ++ left ∧
      dealings = drained.map (.told first) ++ awaited.map (.awaited first)
  | .returned count => count = drained.length ∧ dealings = allDealings first drained

private theorem JoinCall.Deals.isPrefix {call : JoinCall} {first : Nat} {drained : List Nat}
    {dealings : List JoinEvent} (deals : call.Deals first drained dealings) :
    dealings <+: allDealings first drained := by
  cases call with
  | arriving => exact deals.elim
  | closing all left =>
      rcases deals with ⟨_, told, rfl, rfl⟩
      rw [allDealings, List.map_append, List.append_assoc]
      exact List.prefix_append _ _
  | awaiting all left =>
      rcases deals with ⟨_, awaited, split, rfl⟩
      rw [allDealings, List.prefix_append_right_inj, split, List.map_append]
      exact List.prefix_append _ _
  | returned count =>
      rcases deals with ⟨_, rfl⟩
      exact List.prefix_rfl

/-! ## Joining -/

/-- A roster with the tasks that have come to an end and the calls that join all handlers. -/
structure Joining where
  roster : Roster
  ended : List Nat
  calls : List JoinCall
  deriving DecidableEq, Repr

namespace Joining

/-- A registry that no handler was made for and that nobody joins. -/
def empty : Joining := ⟨.empty, [], []⟩

/-- A call gets on. -/
def setCall (j : Joining) (call : Nat) (next : JoinCall) : Joining :=
  { j with calls := j.calls.set call next }

/-- What can happen next. -/
inductive Step (j : Joining) : Option JoinEvent → Joining → Prop
  /-- Something else is done with the registry or a guard than to join. -/
  | handlers {roster : Roster} (step : j.roster.Step roster)
      (still : roster.registry.closed = j.roster.registry.closed) :
      Step j none { j with roster }
  /-- The task of a handler comes to an end. -/
  | finish {task : Nat} (registered : task < j.roster.guards.length) (running : task ∉ j.ended)
      (crashed : Bool) : Step j (some (.ended task crashed)) { j with ended := task :: j.ended }
  /-- Somebody sets out to join all handlers. -/
  | call : Step j none { j with calls := j.calls ++ [.arriving] }
  /-- A call gets the lock and drains the registry. -/
  | lock {call : Nat} {tasks : List Nat} (arriving : j.calls[call]? = some .arriving)
      (free : j.roster.making = none)
      (found : j.roster.registry.lock.drain.1.map Registration.task = tasks) :
      Step j (some (.drained call tasks))
        { j.setCall call (.closing tasks tasks) with
          roster := { j.roster with registry := j.roster.registry.lock.drain.2 } }
  /-- A call tells the next handler to close. -/
  | tell {call task : Nat} {drained left : List Nat}
      (closing : j.calls[call]? = some (.closing drained (task :: left))) :
      Step j (some (.told call task)) (j.setCall call (.closing drained left))
  /-- A call has told all its handlers to close, and turns to wait for them. -/
  | turn {call : Nat} {drained : List Nat} (told : j.calls[call]? = some (.closing drained [])) :
      Step j none (j.setCall call (.awaiting drained drained))
  /-- The task of the handler that a call waits for has come to an end. -/
  | await {call task : Nat} {drained left : List Nat}
      (awaiting : j.calls[call]? = some (.awaiting drained (task :: left)))
      (ended : task ∈ j.ended) :
      Step j (some (.awaited call task)) (j.setCall call (.awaiting drained left))
  /-- A call has waited for all its handlers, and returns how many they were. -/
  | return {call : Nat} {drained : List Nat}
      (awaited : j.calls[call]? = some (.awaiting drained [])) :
      Step j (some (.returned call drained.length)) (j.setCall call (.returned drained.length))

/-- What has happened on the way from one state to another. -/
inductive Run (start : Joining) : List JoinEvent → Joining → Prop
  | refl : Run start [] start
  | step {past : List JoinEvent} {event : Option JoinEvent} {j next : Joining}
      (before : Run start past j) (step : j.Step event next) :
      Run start (past ++ event.toList) next

variable {start j next after : Joining} {past earlier later more : List JoinEvent}
  {event : Option JoinEvent} {first : Nat} {drained : List Nat}

/-! ## Runs -/

namespace Run

/-- Runs can be put one after another. -/
theorem trans (run : start.Run past j) (further : j.Run more next) :
    start.Run (past ++ more) next := by
  induction further with
  | refl => rwa [List.append_nil]
  | step _ step ih =>
      rw [← List.append_assoc]
      exact ih.step step

/-- One step is a run. -/
theorem single (step : j.Step event next) : j.Run event.toList next :=
  List.nil_append event.toList ▸ Run.refl.step step

/-- The states right before and right after an event. -/
theorem split_at {event : JoinEvent} (run : start.Run (earlier ++ event :: later) j) :
    ∃ moment next, start.Run earlier moment ∧ moment.Step (some event) next ∧
      next.Run later j := by
  generalize whole : earlier ++ event :: later = past at run
  induction run generalizing later with
  | refl => exact absurd whole (List.append_ne_nil_of_right_ne_nil _ (List.cons_ne_nil _ _))
  | @step past last moment next before step ih =>
      cases last with
      | none =>
          rw [Option.toList_none, List.append_nil] at whole
          rcases ih whole with ⟨here, there, run, at_event, further⟩
          exact ⟨here, there, run, at_event, List.append_nil later ▸ further.step step⟩
      | some last =>
          rcases List.eq_nil_or_concat later with rfl | ⟨front, final, rfl⟩
          · rcases List.append_inj' whole rfl with ⟨rfl, same⟩
            obtain rfl := List.singleton_inj.mp same
            exact ⟨moment, next, before, step, .refl⟩
          · rw [List.concat_eq_append] at whole ⊢
            rw [← List.cons_append, ← List.append_assoc] at whole
            rcases List.append_inj' whole rfl with ⟨rfl, same⟩
            obtain rfl := List.singleton_inj.mp same
            rcases ih rfl with ⟨here, there, run, at_event, further⟩
            exact ⟨here, there, run, at_event, further.step step⟩

/-- Whatever happens, the roster stays sound. -/
theorem sound (run : start.Run past j) (sound : start.roster.Sound) : j.roster.Sound := by
  induction run with
  | refl => exact sound
  | step _ step ih =>
      cases step with
      | handlers step => exact step.sound ih
      | lock _ free => exact (Roster.Step.join free).sound ih
      | _ => exact ih

/-- A handler that was registered stays known. -/
theorem length_guards_le (run : start.Run past j) :
    start.roster.guards.length ≤ j.roster.guards.length := by
  induction run with
  | refl => exact Nat.le_refl _
  | step _ step ih =>
      cases step with
      | handlers step =>
          refine Nat.le_trans ih ?_
          cases step with
          | register => exact List.length_append ▸ Nat.le_add_right _ _
          | drop => exact Nat.le_of_eq List.length_set.symm
          | _ => exact Nat.le_refl _
      | _ => exact ih

/-- A task that has come to an end has done so at some time. -/
theorem ended (run : start.Run past j) {task : Nat} (ended : task ∈ j.ended) :
    task ∈ start.ended ∨ ∃ crashed, .ended task crashed ∈ past := by
  induction run with
  | refl => exact .inl ended
  | step _ step ih =>
      have earlier {known : List JoinEvent} {last : Option JoinEvent}
          (before : task ∈ start.ended ∨ ∃ crashed, .ended task crashed ∈ known) :
          task ∈ start.ended ∨ ∃ crashed, .ended task crashed ∈ known ++ last.toList :=
        before.imp_right fun ⟨crashed, member⟩ => ⟨crashed, List.mem_append_left _ member⟩
      cases step with
      | finish _ _ crashed =>
          rcases List.mem_cons.mp ended with rfl | known
          · exact .inr ⟨crashed, List.mem_append_right _ List.mem_cons_self⟩
          · exact earlier (ih known)
      | _ => exact earlier (ih ended)

end Run

/-! ## Before the lock is taken to join -/

/-- No call has had the lock. -/
structure Early (past : List JoinEvent) (j : Joining) : Prop where
  opened : j.roster.registry.closed = false
  arriving : ∀ call ∈ j.calls, call = .arriving
  quiet : ∀ event ∈ past, event.isEnd

private theorem early_empty : Early [] empty := ⟨rfl, nofun, nofun⟩

/-- Nothing but to get the lock to join puts an end to this. -/
theorem Early.step (early : Early past j) (step : j.Step event next) :
    Early (past ++ event.toList) next ∨ ∃ call tasks, event = some (.drained call tasks) := by
  have never {call : Nat} {c : JoinCall} (found : j.calls[call]? = some c) (other : c ≠ .arriving) :
      False :=
    other (early.arriving c (List.mem_of_getElem? found))
  cases step with
  | handlers step still =>
      left
      rw [Option.toList_none, List.append_nil]
      exact ⟨still.trans early.opened, early.arriving, early.quiet⟩
  | finish registered running crashed =>
      left
      refine ⟨early.opened, early.arriving, fun event member => ?_⟩
      rcases List.mem_append.mp member with member | member
      · exact early.quiet event member
      · rw [List.mem_singleton.mp member]
        rfl
  | call =>
      left
      rw [Option.toList_none, List.append_nil]
      refine ⟨early.opened, fun call member => ?_, early.quiet⟩
      rcases List.mem_append.mp member with member | member
      · exact early.arriving call member
      · exact List.mem_singleton.mp member
  | lock => exact .inr ⟨_, _, rfl⟩
  | tell found | turn found | await found | «return» found => exact (never found nofun).elim

/-- **The first lock.** Either no call has had the lock yet, or one was the first. -/
theorem Run.early_or_first (run : empty.Run past j) :
    Early past j ∨ ∃ earlier first drained later moment next,
      past = earlier ++ .drained first drained :: later ∧ empty.Run earlier moment ∧
      Early earlier moment ∧ moment.Step (some (.drained first drained)) next ∧
      next.Run later j := by
  induction run with
  | refl => exact .inl early_empty
  | @step past event j next before step ih =>
      rcases ih with early | ⟨earlier, first, drained, later, moment, locked, rfl, rest⟩
      · rcases early.step step with still | ⟨first, drained, rfl⟩
        · exact .inl still
        · exact .inr ⟨past, first, drained, [], j, next, rfl, before, early, step, .refl⟩
      · rcases rest with ⟨run, early, lock, further⟩
        refine .inr ⟨earlier, first, drained, later ++ event.toList, moment, locked, ?_, run, early,
          lock, further.step step⟩
        rw [List.append_assoc]
        rfl

/-! ## After the lock was taken to join -/

/-- The first call that had the lock joins the handlers it has drained, and nobody else joins any.
-/
structure Joins (first : Nat) (drained : List Nat) (count : Nat) (later : List JoinEvent)
    (j : Joining) : Prop where
  emptied : j.roster.Emptied
  guards : j.roster.guards.length = count
  joins : ∃ c, j.calls[first]? = some c ∧ c.Deals first drained (dealings later)
  others : ∀ call c, call ≠ first → j.calls[call]? = some c → c.Idle
  nothing : ∀ call tasks, .drained call tasks ∈ later → tasks = []

namespace Joins

variable {count : Nat}

private theorem first_lock (sound : j.roster.Sound) (early : Early past j)
    (lock : j.Step (some (.drained first drained)) next) :
    (drained.Nodup ∧ ∀ task, task ∈ drained ↔ ∃ guard, j.roster.Holds task guard) ∧
      Joins first drained j.roster.guards.length [] next := by
  cases lock with
  | lock arriving free found =>
      obtain rfl := found
      refine ⟨⟨sound.nodup_tasks_lock early.opened, fun task =>
        sound.mem_tasks_lock_iff early.opened⟩, ⟨⟨rfl, free⟩, rfl, ?_, ?_, nofun⟩⟩
      · have inside := (List.getElem?_eq_some_iff.mp arriving).1
        exact ⟨_, List.getElem?_set_self inside, rfl, [], rfl, rfl⟩
      · intro call c other place
        have before : j.calls[call]? = some c := by
          rwa [setCall, List.getElem?_set_ne (Ne.symm other)] at place
        obtain rfl := early.arriving c (List.mem_of_getElem? before)
        exact .arriving

variable (joins : Joins first drained count later j)
include joins

/-- Only the first call deals with handlers. -/
theorem eq_first {call : Nat} {c : JoinCall} (found : j.calls[call]? = some c)
    (busy : ¬ c.Idle) : call = first :=
  Decidable.byContradiction fun other => busy (joins.others call c other found)

private theorem deals {c : JoinCall} (found : j.calls[first]? = some c) :
    c.Deals first drained (dealings later) := by
  rcases joins.joins with ⟨_, same, deals⟩
  obtain rfl := Option.some.inj (found.symm.trans same)
  exact deals

/-- A call gets on. -/
theorem setCall {call : Nat} {old new : JoinCall} {event : Option JoinEvent}
    (found : j.calls[call]? = some old)
    (deals : call = first → new.Deals first drained (dealings (later ++ event.toList)))
    (idle : call ≠ first → new.Idle ∧ dealings event.toList = [])
    (nothing : ∀ call tasks, event = some (.drained call tasks) → tasks = []) :
    Joins first drained count (later ++ event.toList) (j.setCall call new) where
  emptied := joins.emptied
  guards := joins.guards
  joins := by
    have inside := (List.getElem?_eq_some_iff.mp found).1
    by_cases here : call = first
    · subst here
      exact ⟨new, List.getElem?_set_self inside, deals rfl⟩
    · rcases joins.joins with ⟨c, place, before⟩
      refine ⟨c, (List.getElem?_set_ne here).trans place, ?_⟩
      rwa [dealings_append, (idle here).2, List.append_nil]
  others := by
    intro other c different place
    by_cases here : call = other
    · subst here
      have inside := (List.getElem?_eq_some_iff.mp found).1
      obtain rfl := Option.some.inj ((List.getElem?_set_self inside).symm.trans place)
      exact (idle different).1
    · exact joins.others other c different ((List.getElem?_set_ne here).symm.trans place)
  nothing := by
    intro other tasks member
    rcases List.mem_append.mp member with member | member
    · exact joins.nothing other tasks member
    · exact nothing other tasks (Option.mem_toList.mp member)

/-- **One step.** The first call goes on to join its handlers, and nobody else joins any. -/
theorem step (step : j.Step event next) :
    Joins first drained count (later ++ event.toList) next := by
  have same {last : JoinEvent} (other : last.isDealing = false) :
      dealings (later ++ (some last).toList) = dealings later := by
    rw [dealings_append, dealings, dealings, Option.toList_some,
      List.filter_cons_of_neg (by rw [other]; exact Bool.false_ne_true), List.filter_nil,
      List.append_nil]
  cases step with
  | handlers step still =>
      rcases joins.emptied.step step with ⟨emptied, guards⟩
      rw [Option.toList_none, List.append_nil]
      exact ⟨emptied, guards.trans joins.guards, joins.joins, joins.others, joins.nothing⟩
  | @finish task registered running crashed =>
      refine ⟨joins.emptied, joins.guards, ?_, joins.others, ?_⟩
      · rw [same rfl]
        exact joins.joins
      · intro call tasks member
        rcases List.mem_append.mp member with member | member
        · exact joins.nothing call tasks member
        · exact nomatch List.mem_singleton.mp member
  | call =>
      rw [Option.toList_none, List.append_nil]
      rcases joins.joins with ⟨c, found, deals⟩
      refine ⟨joins.emptied, joins.guards, ⟨c, ?_, deals⟩, ?_, joins.nothing⟩
      · have inside := (List.getElem?_eq_some_iff.mp found).1
        exact (List.getElem?_append_left inside).trans found
      · intro call c other place
        rw [List.getElem?_append] at place
        split at place
        · exact joins.others call c other place
        · obtain rfl := List.mem_singleton.mp (List.mem_of_getElem? place)
          exact .arriving
  | @lock call tasks arriving free found =>
      have other : call ≠ first := by
        rintro rfl
        exact joins.deals arriving
      have nothing : tasks = [] := by
        rw [← found, joins.emptied.lock_eq]
        rfl
      subst nothing
      have locked :=
        @setCall _ _ _ _ _ joins call _ (.closing [] []) (some (.drained call [])) arriving
        (fun here => absurd here other) (fun _ => ⟨.closing, rfl⟩)
        (fun _ _ same => by cases same; rfl)
      exact ⟨(joins.emptied.step (.join free)).1, joins.guards, locked.joins, locked.others,
        locked.nothing⟩
  | @tell call task all left closing =>
      obtain rfl := joins.eq_first closing nofun
      rcases joins.deals closing with ⟨rfl, told, split, deals⟩
      refine joins.setCall closing (fun _ => ⟨rfl, told ++ [task], ?_, ?_⟩) (absurd rfl) nofun
      · rwa [List.append_assoc]
      · rw [dealings_append, deals, List.map_append]
        rfl
  | @turn call all told =>
      refine joins.setCall told (fun here => ?_) (fun other => ⟨?_, rfl⟩) nofun
      · subst here
        rcases joins.deals told with ⟨rfl, told, rfl, deals⟩
        refine ⟨rfl, [], rfl, ?_⟩
        rw [Option.toList_none, List.append_nil, deals, List.append_nil, List.map_nil,
          List.append_nil]
      · cases joins.others call _ other told
        exact .awaiting
  | @await call task all left awaiting ended =>
      obtain rfl := joins.eq_first awaiting nofun
      rcases joins.deals awaiting with ⟨rfl, awaited, split, deals⟩
      refine joins.setCall awaiting (fun _ => ⟨rfl, awaited ++ [task], ?_, ?_⟩) (absurd rfl) nofun
      · rwa [List.append_assoc]
      · rw [dealings_append, deals, List.map_append, ← List.append_assoc]
        rfl
  | @«return» call all awaited =>
      refine joins.setCall awaited (fun here => ?_) (fun other => ⟨?_, rfl⟩) nofun
      · subst here
        rcases joins.deals awaited with ⟨rfl, awaited, split, deals⟩
        rw [List.append_nil] at split
        refine ⟨rfl, ?_⟩
        rw [same rfl, deals, ← split]
        rfl
      · cases joins.others call _ other awaited
        exact .returned

private theorem run (run : j.Run more next) : Joins first drained count (later ++ more) next := by
  induction run with
  | refl => rwa [List.append_nil]
  | step _ step ih =>
      rw [← List.append_assoc]
      exact ih.step step

end Joins

/-! ## Getting to the end -/

private theorem getElem?_setCall {call : Nat} {old : JoinCall} (found : j.calls[call]? = some old)
    (new : JoinCall) : (j.setCall call new).calls[call]? = some new :=
  List.getElem?_set_self (List.getElem?_eq_some_iff.mp found).1

private theorem setCall_setCall (call : Nat) (old new : JoinCall) :
    (j.setCall call old).setCall call new = j.setCall call new := by
  rw [setCall, setCall, List.set_set]
  rfl

/-- A call that still has handlers to tell can turn to wait for them. -/
theorem run_of_closing {call : Nat} {left : List Nat}
    (closing : j.calls[call]? = some (.closing drained left)) :
    ∃ further, j.Run further (j.setCall call (.awaiting drained drained)) := by
  induction left generalizing j with
  | nil => exact ⟨_, .single (.turn closing)⟩
  | cons task left ih =>
      rcases ih (getElem?_setCall closing _) with ⟨further, run⟩
      rw [setCall_setCall] at run
      exact ⟨_, (Run.single (.tell closing)).trans run⟩

/-- A call can return once the handlers that it still waits for have ended. -/
theorem run_of_awaiting {call : Nat} {left : List Nat}
    (awaiting : j.calls[call]? = some (.awaiting drained left))
    (ended : ∀ task ∈ left, task ∈ j.ended) :
    ∃ further, j.Run further (j.setCall call (.returned drained.length)) := by
  induction left generalizing j with
  | nil => exact ⟨_, .single (.return awaiting)⟩
  | cons task left ih =>
      have awaited := Step.await awaiting (ended task List.mem_cons_self)
      rcases ih (getElem?_setCall awaiting _) fun task member =>
        ended task (List.mem_cons_of_mem _ member) with ⟨further, run⟩
      rw [setCall_setCall] at run
      exact ⟨_, (Run.single awaited).trans run⟩

/-- A call that gets the lock can turn to wait for the handlers that it finds. -/
theorem run_of_arriving {call : Nat} (arriving : j.calls[call]? = some .arriving)
    (free : j.roster.making = none) :
    let tasks := j.roster.registry.lock.drain.1.map Registration.task
    ∃ further, j.Run further
      { j.setCall call (.awaiting tasks tasks) with
        roster := { j.roster with registry := j.roster.registry.lock.drain.2 } } := by
  intro tasks
  let locked : Joining :=
    { j.setCall call (.closing tasks tasks) with
      roster := { j.roster with registry := j.roster.registry.lock.drain.2 } }
  have closing : locked.calls[call]? = some (.closing tasks tasks) := getElem?_setCall arriving _
  rcases run_of_closing closing with ⟨further, run⟩
  have same : locked.setCall call (.awaiting tasks tasks) =
      { j.setCall call (.awaiting tasks tasks) with roster := locked.roster } :=
    congrArg (fun next : Joining => { next with roster := locked.roster })
      (setCall_setCall call (.closing tasks tasks) (.awaiting tasks tasks))
  rw [same] at run
  exact ⟨_, (Run.single (.lock arriving free rfl)).trans run⟩

/-- A call gets to its end by itself as soon as the handlers that it joins have ended. -/
theorem Joins.returns {count call : Nat} {c : JoinCall} (joins : Joins first drained count later j)
    (found : j.calls[call]? = some c) (ended : call = first → ∀ task ∈ drained, task ∈ j.ended) :
    ∃ further after, j.Run further after ∧
      after.calls[call]? = some (.returned (if call = first then drained.length else 0)) := by
  have awaiting {j : Joining} {all left : List Nat}
      (found : j.calls[call]? = some (.awaiting all left)) (ended : ∀ task ∈ left, task ∈ j.ended) :
      ∃ further after, j.Run further after ∧ after.calls[call]? = some (.returned all.length) := by
    rcases run_of_awaiting found ended with ⟨further, run⟩
    exact ⟨further, _, run, getElem?_setCall found _⟩
  have closing {all left : List Nat} (found : j.calls[call]? = some (.closing all left))
      (ended : ∀ task ∈ all, task ∈ j.ended) :
      ∃ further after, j.Run further after ∧ after.calls[call]? = some (.returned all.length) := by
    rcases run_of_closing found with ⟨_, run⟩
    rcases awaiting (getElem?_setCall found (.awaiting all all)) ended with
      ⟨_, after, further, returned⟩
    exact ⟨_, after, run.trans further, returned⟩
  by_cases here : call = first
  · subst here
    rw [if_pos rfl]
    have deals := joins.deals found
    cases c with
    | arriving => exact deals.elim
    | closing all left =>
        obtain rfl := deals.1
        exact closing found (ended rfl)
    | awaiting all left =>
        rcases deals with ⟨rfl, awaited, rfl, _⟩
        exact awaiting found fun task member => ended rfl task (List.mem_append_right _ member)
    | returned count =>
        obtain rfl := deals.1
        exact ⟨[], j, .refl, found⟩
  · rw [if_neg here]
    cases joins.others call c here found with
    | arriving =>
        rcases run_of_arriving found joins.emptied.free with ⟨_, run⟩
        rw [joins.emptied.lock_eq] at run
        let locked : Joining :=
          { j.setCall call (.awaiting [] []) with
            roster := { j.roster with registry := ⟨[], [], [], true⟩ } }
        have turned : locked.calls[call]? = some (.awaiting [] []) := getElem?_setCall found _
        rcases awaiting turned nofun with ⟨_, after, further, returned⟩
        exact ⟨_, after, run.trans further, returned⟩
    | closing => exact closing found nofun
    | awaiting => exact awaiting found nofun
    | returned => exact ⟨[], j, .refl, found⟩

/-- **Everyone is joined once.** Handlers are registered and refused, exit, break down and give up
their guards in any order, while any number of calls join all handlers, none of which is given up.
Either no call has had the lock yet, and nothing was joined, or one was the first. It found exactly
the handlers whose guards were held, each once. It alone has dealt with handlers: it has told all
of them to close before it waited for any, it has waited for each once, for none that has not ended,
and it returns how many they were when it has waited for all. Every other call finds nothing and
returns zero. Since the first lock no handler is made and none is registered; each is refused, and
the keys that are posted strike nothing off. A call gets to its end by itself, the first as soon as
the handlers it has found have ended. -/
theorem everyone_joined_once (run : empty.Run past j) :
    Early past j ∨ ∃ earlier first drained later moment next,
      past = earlier ++ .drained first drained :: later ∧
      (Early earlier moment ∧ empty.Run earlier moment ∧
        moment.Step (some (.drained first drained)) next ∧ next.Run later j) ∧
      drained.Nodup ∧ (∀ task, task ∈ drained ↔ ∃ guard, moment.roster.Holds task guard) ∧
      dealings later <+: drained.map (.told first) ++ drained.map (.awaited first) ∧
      (∀ before call task rest, later = before ++ .awaited call task :: rest →
        ∃ crashed, .ended task crashed ∈ earlier ++ before) ∧
      (∀ before call count rest, later = before ++ .returned call count :: rest →
        if call = first then count = drained.length ∧
          dealings before = drained.map (.told first) ++ drained.map (.awaited first)
        else count = 0) ∧
      (∀ call tasks, .drained call tasks ∈ later → tasks = []) ∧
      (j.roster.making = none ∧ j.roster.guards.length = moment.roster.guards.length ∧
        j.roster.registry.lock.offer? = none ∧ j.roster.registry.lock = ⟨[], [], [], true⟩) ∧
      ∀ call c, j.calls[call]? = some c → (call = first → ∀ task ∈ drained, task ∈ j.ended) →
        ∃ further after, j.Run further after ∧
          after.calls[call]? = some (.returned (if call = first then drained.length else 0)) := by
  rcases run.early_or_first with early | ⟨earlier, first, drained, later, moment, next, rest⟩
  · exact .inl early
  · rcases rest with ⟨rfl, before, early, lock, further⟩
    rcases Joins.first_lock (before.sound Roster.sound_empty) early lock with
      ⟨⟨nodup, found⟩, locked⟩
    have joins := locked.run further
    rw [List.nil_append] at joins
    refine .inr ⟨earlier, first, drained, later, moment, next, rfl, ⟨early, before, lock, further⟩,
      nodup, found, ?_, ?_, ?_, joins.nothing, ?_, ?_⟩
    · rcases joins.joins with ⟨c, _, deals⟩
      exact deals.isPrefix
    · rintro front call task rest rfl
      rcases further.split_at with ⟨here, there, front_run, step, _⟩
      have all : empty.Run (earlier ++ .drained first drained :: front) here := by
        have whole := (before.step lock).trans front_run
        rwa [List.append_assoc] at whole
      cases step with
      | await awaiting ended =>
          rcases all.ended ended with known | ⟨crashed, member⟩
          · exact nomatch known
          · refine ⟨crashed, ?_⟩
            simpa using member
    · rintro front call count rest rfl
      rcases further.split_at with ⟨here, there, front_run, step, _⟩
      have joinsHere := locked.run front_run
      rw [List.nil_append] at joinsHere
      cases step with
      | @«return» _ all awaited =>
          split
          · rename_i same
            subst same
            rcases joinsHere.deals awaited with ⟨rfl, awaited, split, deals⟩
            rw [List.append_nil] at split
            exact ⟨rfl, split ▸ deals⟩
          · rename_i other
            cases joinsHere.others call _ other awaited
            rfl
    · exact ⟨joins.emptied.free, joins.guards, joins.emptied.refuses, joins.emptied.lock_eq⟩
    · intro call c place ended
      exact joins.returns place ended

/-- Two calls, of which the second gets the lock first: one handler has exited before, the other
breaks down when it is told to close, and posts its key when nobody looks for it any more. -/
theorem second_call_gets_the_lock :
    let events : List JoinEvent :=
      [.ended 0 false, .drained 1 [1], .drained 0 [], .told 1 1, .ended 1 true, .awaited 1 1,
        .returned 0 0, .returned 1 1]
    ∃ j, empty.Run events j ∧ j.calls = [.returned 0, .returned 1] ∧
      j.roster.registry.posted = [1] ∧ j.roster.registry.lock = ⟨[], [], [], true⟩ := by
  intro events
  let first : SocketAddress := .loopback 1
  let second : SocketAddress := .loopback 2
  have registered : empty.Run []
      ⟨⟨⟨[some ⟨first, 0⟩, some ⟨second, 1⟩], [], [], false⟩,
        [⟨0, first, true⟩, ⟨1, second, true⟩], none⟩, [], []⟩ :=
    .step (.step (.step (.step .refl
      (.handlers (@Roster.Step.offer _ 0 first rfl rfl) rfl))
      (.handlers (@Roster.Step.register _ ⟨0, first, true⟩ rfl) rfl))
      (.handlers (@Roster.Step.offer _ 1 second rfl rfl) rfl))
      (.handlers (@Roster.Step.register _ ⟨1, second, true⟩ rfl) rfl)
  have called : empty.Run [.ended 0 false]
      ⟨⟨⟨[some ⟨first, 0⟩, some ⟨second, 1⟩], [], [0], false⟩,
        [⟨0, first, false⟩, ⟨1, second, true⟩], none⟩, [0], [.arriving, .arriving]⟩ :=
    .step (.step (.step (.step registered
      (.handlers (@Roster.Step.drop _ 0 ⟨0, first, true⟩ rfl rfl) rfl))
      (@Step.finish _ 0 (by decide) (by decide) false)) .call) .call
  have drained : empty.Run [.ended 0 false, .drained 1 [1], .drained 0 []]
      ⟨⟨⟨[], [], [], true⟩, [⟨0, first, false⟩, ⟨1, second, true⟩], none⟩, [0],
        [.closing [] [], .closing [1] [1]]⟩ :=
    .step (.step called (@Step.lock _ 1 [1] rfl rfl rfl)) (@Step.lock _ 0 [] rfl rfl rfl)
  have ended : empty.Run [.ended 0 false, .drained 1 [1], .drained 0 [], .told 1 1, .ended 1 true]
      ⟨⟨⟨[], [], [1], true⟩, [⟨0, first, false⟩, ⟨1, second, false⟩], none⟩, [1, 0],
        [.closing [] [], .closing [1] []]⟩ :=
    .step (.step (.step drained (@Step.tell _ 1 1 [1] [] rfl))
      (.handlers (@Roster.Step.drop _ 1 ⟨1, second, true⟩ rfl rfl) rfl))
      (@Step.finish _ 1 (by decide) (by decide) true)
  have run : empty.Run events
      ⟨⟨⟨[], [], [1], true⟩, [⟨0, first, false⟩, ⟨1, second, false⟩], none⟩, [1, 0],
        [.returned 0, .returned 1]⟩ :=
    .step (.step (.step (.step (.step ended (@Step.turn _ 1 [1] rfl))
      (@Step.await _ 1 1 [1] [] rfl (by decide))) (@Step.turn _ 0 [] rfl))
      (@Step.return _ 0 [] rfl)) (@Step.return _ 1 [1] rfl)
  rcases everyone_joined_once run with early | ⟨_, _, _, _, _, _, _, _, _, _, _, _, _, _, still, _⟩
  · exact nomatch early.opened
  · exact ⟨_, run, rfl, rfl, still.2.2.2⟩

end Joining

end PacketLog
