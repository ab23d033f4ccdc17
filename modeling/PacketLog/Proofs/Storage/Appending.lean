import PacketLog.Proofs.Storage.Lookup
import PacketLog.Storage.SharedLog

/-! # What an append adds

A path keeps some bytes when it leads to a regular file that holds them (`Storage.Keeps`). As long
as nothing strikes the watched path, a write adds some part of what it was given to the end of them
and changes nothing else. A loop of writes does the same, and adds all of the data unless it fails,
however the writes were cut short or interrupted (`Storage.Keeps.writeAll`). This says how an append
to a log can end (`SharedLog.Holds.appends`), also where there was no file before.
-/

namespace PacketLog

namespace Storage

/-- Nothing planned takes the watched file away. -/
def Undisturbed (s : Storage) : Prop :=
  ∀ turn ∈ s.plan, turn ≠ .wholeThen .removal ∧ turn ≠ .wholeThen .directory

/-- A path leads to a regular file at a location, and these are its bytes. -/
def Keeps (s : Storage) (path : Path) (location : Location) (stored : Bytes) : Prop :=
  s.tree.lookupExisting s.cwd path = .ok (location, .file stored)

/-- A storage whose plan is the rest of a harmless one is undisturbed. -/
theorem Undisturbed.of_plan_suffix {s next : Storage} (calm : s.Undisturbed)
    (plan : next.plan <:+ s.plan) : next.Undisturbed :=
  fun turn member => calm turn (plan.subset member)

/-- The file that a path leads to has come to hold some bytes. Everything else in the tree is as it
was before, and some turns of the plan may be used up. -/
structure Fills (s next : Storage) (path : Path) (location : Location) (stored : Bytes) : Prop where
  kept : next.Keeps path location stored
  others : ∀ other, other ≠ location → next.tree.get? other = s.tree.get? other
  plan : next.plan <:+ s.plan

/-- Doing nothing stores nothing. -/
theorem Fills.refl {s : Storage} {path : Path} {location : Location} {stored : Bytes}
    (kept : s.Keeps path location stored) : Fills s s path location stored :=
  ⟨kept, fun _ _ => rfl, List.suffix_refl _⟩

/-- What fills a file further fills it. -/
theorem Fills.trans {s middle next : Storage} {path : Path} {location : Location}
    {stored more : Bytes} (first : Fills s middle path location stored)
    (second : Fills middle next path location more) : Fills s next path location more where
  kept := second.kept
  others := fun other different =>
    (second.others other different).trans (first.others other different)
  plan := second.plan.trans first.plan

section Writing

variable {s : Storage} {path : Path} {location : Location} {stored : Bytes}

/-- A file that is kept is extended by just the bytes written. -/
theorem Keeps.extend (kept : s.Keeps path location stored) (data : Bytes) :
    Fills s (s.extend location data) path location (stored ++ data) ∧
      (s.extend location data).plan = s.plan := by
  have found := (FileTree.get?_of_lookupExisting kept).2
  rw [Storage.extend, found]
  refine ⟨⟨FileTree.lookupExisting_insert kept (stored ++ data), ?_, List.suffix_refl _⟩, rfl⟩
  intro other different
  exact FileTree.get?_insert_of_ne s.tree different _

/-- The outcomes of a write to a file: it adds some part of the data, or it fails and adds nothing,
or it adds all of it and the writer dies. -/
inductive Wrote (s : Storage) (path : Path) (location : Location) (stored data : Bytes) :
    Written × Storage → Prop
  | accepted {count : Nat} {next : Storage} (some : count ≤ data.length)
      (fills : Fills s next path location (stored ++ data.take count)) :
      Wrote s path location stored data (.accepted count, next)
  | failed {error : IoError} {next : Storage} (fills : Fills s next path location stored) :
      Wrote s path location stored data (.failed error, next)
  | crashed {next : Storage} (fills : Fills s next path location (stored ++ data)) :
      Wrote s path location stored data (.crashed, next)

/-- Every undisturbed write has one of these outcomes, and uses up its turn of the plan. -/
theorem Keeps.write (kept : s.Keeps path location stored) (calm : s.Undisturbed) (data : Bytes) :
    Wrote s path location stored data (s.write location data) ∧
      (s.write location data).2.plan = s.plan.tail := by
  have found := (FileTree.get?_of_lookupExisting kept).2
  rw [Storage.write, if_neg (by simp [found])]
  cases planned : s.plan with
  | nil =>
      obtain ⟨extended, plan⟩ := kept.extend data
      refine ⟨.accepted (Nat.le_refl _) ?_, plan.trans planned⟩
      rwa [List.take_length]
  | cons turn plan =>
      have calmTurn := calm turn (planned ▸ List.mem_cons_self)
      have moved : Fills s { s with plan } path location stored :=
        ⟨kept, fun _ _ => rfl, by rw [planned]; exact List.suffix_cons turn plan⟩
      dsimp only
      cases turn with
      | whole =>
          obtain ⟨extended, plan⟩ := moved.kept.extend data
          refine ⟨.accepted (Nat.le_refl _) ?_, plan⟩
          rw [List.take_length]
          exact moved.trans extended
      | upTo limit =>
          obtain ⟨extended, plan⟩ := moved.kept.extend (data.take limit)
          refine ⟨.accepted (Nat.min_le_right _ _) ?_, plan⟩
          rw [← List.take_eq_take_min]
          exact moved.trans extended
      | fail error => exact ⟨.failed moved, rfl⟩
      | wholeThen mishap =>
          cases mishap with
          | removal => exact absurd rfl calmTurn.1
          | directory => exact absurd rfl calmTurn.2
          | crash =>
              obtain ⟨extended, plan⟩ := moved.kept.extend data
              exact ⟨.crashed (moved.trans extended), plan⟩

/-- A write that is not planned for is accepted as a whole. -/
theorem Keeps.write_unplanned (kept : s.Keeps path location stored) (unplanned : s.plan = [])
    (data : Bytes) : (s.write location data).1 = .accepted data.length := by
  have found := (FileTree.get?_of_lookupExisting kept).2
  rw [Storage.write, if_neg (by simp [found]), unplanned]

/-- Writing calls add a part of the data, whatever becomes of them, and leave some of it only when
they fail. Either some call is left for each one planned for, or there is nothing left to add. -/
theorem Keeps.writeCalls {data : Bytes} {calls : Nat} (kept : s.Keeps path location stored)
    (calm : s.Undisturbed) (enough : s.plan.length < calls ∨ data = []) :
    ∃ taken left, data = taken ++ left ∧
      Fills s (s.writeCalls location data calls).2 path location (stored ++ taken) ∧
      (left ≠ [] ↔ ∃ error, (s.writeCalls location data calls).1 = .failed error) := by
  induction calls generalizing s data stored with
  | zero =>
      obtain rfl : data = [] := enough.resolve_left (Nat.not_lt_zero _)
      have same := Fills.refl kept
      rw [← List.append_nil stored] at same
      exact ⟨[], [], rfl, same, by simp [Storage.writeCalls]⟩
  | succ calls ih =>
      rw [Storage.writeCalls]
      by_cases nothing : data = []
      · rw [if_pos nothing]
        have same := Fills.refl kept
        rw [← List.append_nil stored] at same
        exact ⟨[], [], nothing, same, by simp⟩
      · rw [if_neg nothing]
        obtain ⟨outcome, plan⟩ := kept.write calm data
        have unplanned := fun unplanned => kept.write_unplanned unplanned data
        have bound := enough.resolve_right nothing
        generalize s.write location data = wrote at outcome plan unplanned
        cases outcome with
        | @accepted count after some fills =>
            cases count with
            | zero =>
                rw [List.take_zero] at fills
                exact ⟨[], data, rfl, fills, by simp [nothing]⟩
            | succ count =>
                -- Without a plan the whole is accepted, so that no further call is needed.
                have enoughAfter : after.plan.length < calls ∨ data.drop (count + 1) = [] := by
                  by_cases planned : s.plan = []
                  · right
                    have all := Written.accepted.inj (unplanned planned)
                    rw [all, List.drop_length]
                  · left
                    have := List.length_pos_iff.mpr planned
                    rw [plan, List.length_tail]
                    omega
                obtain ⟨taken, left, split, rest, ended⟩ :=
                  ih fills.kept (calm.of_plan_suffix fills.plan) enoughAfter
                rw [List.append_assoc] at rest
                refine ⟨data.take (count + 1) ++ taken, left, ?_, fills.trans rest, ended⟩
                rw [List.append_assoc, ← split, List.take_append_drop]
        | @failed error after fills =>
            by_cases repeated : error.isInterrupted
            · simp only [repeated, ↓reduceIte]
              have planned : s.plan ≠ [] := fun planned => nomatch unplanned planned
              have calls : after.plan.length < calls := by
                have := List.length_pos_iff.mpr planned
                rw [plan, List.length_tail]
                omega
              obtain ⟨taken, left, split, rest, ended⟩ :=
                ih fills.kept (calm.of_plan_suffix fills.plan) (.inl calls)
              exact ⟨taken, left, split, fills.trans rest, ended⟩
            · simp only [repeated, Bool.false_eq_true, ↓reduceIte]
              rw [← List.append_nil stored] at fills
              exact ⟨[], data, rfl, fills, by simp [nothing]⟩
        | crashed fills => exact ⟨data, [], (List.append_nil _).symm, fills, by simp⟩

/-- **What writing has added.** It is a part of the data, of which something is left only when
writing failed. Nothing else has changed. -/
theorem Keeps.writeAll (kept : s.Keeps path location stored) (calm : s.Undisturbed) (data : Bytes) :
    ∃ taken left, data = taken ++ left ∧
      Fills s (s.writeAll location data).2 path location (stored ++ taken) ∧
      (left ≠ [] ↔ ∃ error, (s.writeAll location data).1 = .failed error) :=
  kept.writeCalls calm (.inl (Nat.lt_succ_self _))

/-- Where nothing is planned for, writing completes. -/
theorem Keeps.writeAll_unplanned (kept : s.Keeps path location stored) (unplanned : s.plan = [])
    (data : Bytes) : (s.writeAll location data).1 = .complete := by
  rw [Storage.writeAll, unplanned, List.length_nil, Storage.writeCalls]
  split
  · rfl
  · rename_i something
    have accepted := kept.write_unplanned unplanned data
    generalize s.write location data = wrote at accepted
    obtain ⟨_, next⟩ := wrote
    obtain rfl := accepted
    cases data with
    | nil => exact absurd rfl something
    | cons first rest => rfl

end Writing

/-- What a path leads to, if no zero byte hides it from the operating system. -/
theorem onPath_eq_ok_iff {α : Type} {path : Path} {call : Except Errno α} {found : α} :
    onPath path call = .ok found ↔ path.contains 0 = false ∧ call = .ok found := by
  rw [onPath]
  cases path.contains 0 with
  | true => simp
  | false =>
      cases call with
      | error e =>
          constructor
          · intro same
            cases same
          · rintro ⟨_, same⟩
            cases same
      | ok answer =>
          constructor
          · intro same
            cases same
            exact ⟨rfl, rfl⟩
          · rintro ⟨_, same⟩
            cases same
            rfl

/-- A path with a file leads to a location that keeps it. -/
theorem keeps_of_fileAt? {s : Storage} {path : Path} {stored : Bytes}
    (found : s.fileAt? path = some stored) :
    path.contains 0 = false ∧ ∃ location, s.Keeps path location stored := by
  rw [fileAt?] at found
  split at found
  · exact nomatch found
  · rename_i noZero
    rw [FileTree.fileAt?] at found
    split at found
    · rename_i location bytes looked
      obtain rfl := Option.some.inj found
      exact ⟨by simpa using noZero, location, looked⟩
    · exact nomatch found

end Storage

namespace SharedLog

/-- The log holds some bytes: they are those of the file its path leads to, or there is no file and
no byte. -/
def Holds (log : SharedLog) (s : Storage) (contents : Bytes) : Prop :=
  match Storage.onPath log.path (s.tree.lookupExisting s.cwd log.path) with
  | .ok (_, .file stored) => stored = contents
  | .ok _ => False
  | .error e => e.kind = .notFound ∧ contents = []

variable {log : SharedLog} {s : Storage} {contents : Bytes}

/-- The log has come to be a regular file with some bytes. Everything else is as it was before. -/
structure Stores (log : SharedLog) (s next : Storage) (contents : Bytes) : Prop where
  noZero : log.path.contains 0 = false
  fills : ∃ location, Storage.Fills s next log.path location contents

namespace Stores

variable {next : Storage}

/-- Storing uses up the plan from its beginning. -/
theorem plan (stores : log.Stores s next contents) : next.plan <:+ s.plan :=
  stores.fills.elim fun _ fills => fills.plan

/-- What was stored is held. -/
theorem holds (stores : log.Stores s next contents) : log.Holds next contents := by
  obtain ⟨location, fills⟩ := stores.fills
  rw [Holds, Storage.onPath_eq_ok_iff.mpr ⟨stores.noZero, fills.kept⟩]

end Stores

/-- An append does not take a file away: whatever becomes of it, some bytes may have been added. -/
theorem fills_appendAsync {location : Location} {stored : Bytes}
    (kept : s.Keeps log.path location stored) (calm : s.Undisturbed) (data : Bytes) :
    ∃ more, Storage.Fills s (log.appendAsync data s).2 log.path location (stored ++ more) := by
  rw [appendAsync, append]
  cases opened : Storage.onPath log.path (s.tree.lookupOrCreate s.cwd log.path) with
  | error e =>
      refine ⟨[], ?_⟩
      rw [List.append_nil]
      exact .refl kept
  | ok made =>
      have same := (Storage.onPath_eq_ok_iff.mp opened).2
      rw [FileTree.lookupOrCreate_of_file kept] at same
      obtain rfl := Except.ok.inj same
      rcases kept.writeAll calm data with ⟨taken, left, _, fills, _⟩
      refine ⟨taken, ?_⟩
      have again : s.withTree s.tree = s := rfl
      dsimp only
      rw [again]
      generalize s.writeAll location data = written at fills
      rcases written with ⟨_ | e | _, next⟩ <;> exact fills

/-- How an append to a log that holds some bytes can end: the log holds the data after them; nothing
could be opened, and nothing has changed; writing broke off in the middle of the data, and the log
holds the part in front of the break; or the writer died over data that was written already. The
last two only happen where something is planned for a write. -/
inductive Appends (log : SharedLog) (s : Storage) (contents data : Bytes) :
    Run Unit × Storage → Prop
  | whole {next : Storage} (stores : log.Stores s next (contents ++ data)) :
      Appends log s contents data (.answered (.ok ()), next)
  | notOpened {e : IoError} (noFile : s.fileAt? log.path = none) :
      Appends log s contents data (.answered (.error (.open log.path e)), s)
  | brokenOff {taken left : Bytes} {next : Storage} {e : IoError} (planned : s.plan ≠ [])
      (split : data = taken ++ left) (unfinished : left ≠ [])
      (stores : log.Stores s next (contents ++ taken)) :
      Appends log s contents data (.answered (.error (.write log.path e)), next)
  | crashed {next : Storage} (planned : s.plan ≠ [])
      (stores : log.Stores s next (contents ++ data)) :
      Appends log s contents data (.crashed, next)

namespace Holds

variable (holds : log.Holds s contents)
include holds

/-- A log that holds bytes holds them with nothing more. -/
theorem append_nil : log.Holds s (contents ++ []) := by rwa [List.append_nil]

/-- What a log holds is what is read from it. -/
theorem contents_eq : log.contents s = .ok contents := by
  rw [Holds] at holds
  rw [SharedLog.contents]
  cases found : Storage.onPath log.path (s.tree.lookupExisting s.cwd log.path) with
  | error e =>
      rw [found] at holds
      obtain ⟨missing, rfl⟩ := holds
      exact if_pos missing
  | ok existing =>
      obtain ⟨location, entry⟩ := existing
      rw [found] at holds
      cases entry with
      | file stored => exact congrArg Except.ok holds
      | _ => exact holds.elim

/-- A log holds one byte string. -/
theorem unique {other : Bytes} (same : log.Holds s other) : other = contents :=
  Except.ok.inj (same.contents_eq.symm.trans holds.contents_eq)

/-- A snapshot is what the log holds. -/
theorem snapshot_eq : log.snapshot s = .ok contents := by
  have streamed : (⟨[], []⟩ : Sink).stream contents = (.complete, ⟨[], contents⟩) := by
    rw [Sink.stream, dif_pos (.inl rfl)]
    rfl
  rw [snapshot, readAll, holds.contents_eq]
  simp only [streamed]

/-- The file that an append writes to holds the bytes of the log. -/
private theorem entry_eq {tree : FileTree} {location : Location} {entry : Entry}
    (noZero : log.path.contains 0 = false)
    (made : s.tree.lookupOrCreate s.cwd log.path = .ok (tree, location, entry)) :
    entry = .file contents := by
  obtain ⟨_, _, before⟩ := FileTree.lookupOrCreate_ok made
  rw [Holds, Storage.onPath, if_neg (by simpa using noZero)] at holds
  cases existing : s.tree.lookupExisting s.cwd log.path with
  | error e =>
      rw [existing] at holds before
      rw [before.2, holds.2]
  | ok existing =>
      rw [existing] at holds before
      obtain ⟨rfl, _⟩ := before
      cases entry with
      | file stored => exact congrArg Entry.file holds
      | _ => exact holds.elim

/-- Opening the file for appending leaves its bytes, or creates it without any. -/
theorem fills_created {tree : FileTree} {location : Location} {entry : Entry}
    (noZero : log.path.contains 0 = false)
    (made : s.tree.lookupOrCreate s.cwd log.path = .ok (tree, location, entry)) :
    Storage.Fills s (s.withTree tree) log.path location contents := by
  obtain ⟨found, others, _⟩ := FileTree.lookupOrCreate_ok made
  rw [holds.entry_eq noZero made] at found
  exact ⟨found, others, List.suffix_refl _⟩

/-- **What an append does.** -/
theorem appends (calm : s.Undisturbed) (data : Bytes) :
    Appends log s contents data (log.append data s) := by
  rw [append]
  cases made : Storage.onPath log.path (s.tree.lookupOrCreate s.cwd log.path) with
  | error e =>
      refine .notOpened (Option.eq_none_iff_forall_ne_some.mpr fun stored found => ?_)
      obtain ⟨noZero, location, kept⟩ := Storage.keeps_of_fileAt? found
      have opened := FileTree.lookupOrCreate_of_file kept
      exact nomatch made.symm.trans (Storage.onPath_eq_ok_iff.mpr ⟨noZero, opened⟩)
  | ok made' =>
      obtain ⟨tree, location, entry⟩ := made'
      obtain ⟨noZero, made⟩ := Storage.onPath_eq_ok_iff.mp made
      have opened := holds.fills_created noZero made
      obtain ⟨taken, left, split, wrote, ended⟩ :=
        opened.kept.writeAll (calm.of_plan_suffix opened.plan) data
      have stores : log.Stores s ((s.withTree tree).writeAll location data).2 (contents ++ taken) :=
        ⟨noZero, location, opened.trans wrote⟩
      have unplanned := fun unplanned : s.plan = [] =>
        opened.kept.writeAll_unplanned unplanned data
      dsimp only
      generalize (s.withTree tree).writeAll location data = written at stores ended unplanned
      obtain ⟨ending, next⟩ := written
      cases ending with
      | failed e =>
          exact .brokenOff (fun none => nomatch unplanned none) split (ended.mpr ⟨e, rfl⟩) stores
      | complete =>
          have whole : left = [] := by simpa using ended
          rw [whole, List.append_nil] at split
          rw [← split] at stores
          exact .whole stores
      | crashed =>
          have whole : left = [] := by simpa using ended
          rw [whole, List.append_nil] at split
          rw [← split] at stores
          exact .crashed (fun none => nomatch unplanned none) stores

/-- What a successful append has added: the log holds the data after what it held before. -/
theorem append_ok (calm : s.Undisturbed) {data : Bytes} {next : Storage}
    (done : log.append data s = (.answered (.ok ()), next)) :
    log.Holds next (contents ++ data) ∧ next.Undisturbed := by
  have outcome := holds.appends calm data
  rw [done] at outcome
  cases outcome with
  | whole stores => exact ⟨stores.holds, calm.of_plan_suffix stores.plan⟩

/-- An append that succeeds on an undisturbed storage adds just its bytes. -/
theorem appendAsync_ok (calm : s.Undisturbed) {data : Bytes} {next : Storage}
    (done : log.appendAsync data s = (.ok (), next)) :
    log.Holds next (contents ++ data) ∧ next.Undisturbed := by
  refine holds.append_ok calm ?_
  rw [appendAsync] at done
  cases appended : log.append data s with
  | mk run after =>
      rw [appended] at done
      simp only [Prod.mk.injEq] at done
      obtain ⟨answer, rfl⟩ := done
      cases run with
      | answered result =>
          have : result = .ok () := answer
          rw [this]
      | crashed => exact nomatch answer

end Holds

end SharedLog

end PacketLog
