import Mathlib
import PacketLog.Proofs.Storage.Unlinking

/-! # Storages that differ in one file

Two file trees are twins when they differ at most in the contents of one file that stands apart
(`FileTree.Twins`). A walk does not look into files, so that it takes the same way through both
(`FileTree.Twins.walk`). So a log that is not the file apart, and whose path leads to the same place
from both working directories (`Path.LeadsAlike`), cannot tell two storages from each other: it
appends, reads and removes with the same results, and they stay twins (`Storage.Twins.appendAsync`,
`Storage.Twins.snapshot_eq`, `Storage.Twins.remove`).
-/

namespace PacketLog

/-- A path leads to the same place from two directories, whatever the files are. -/
def Path.LeadsAlike (path : Path) (cwd other : Location) : Prop :=
  ∀ (tree : FileTree) intent, tree.lookup cwd intent path = tree.lookup other intent path

/-- An absolute path leads to the same place from everywhere. -/
theorem Path.leadsAlike_of_rooted {path : Path} {cwd other : Location}
    (rooted : path.isAbsolute ∨ cwd = other) : path.LeadsAlike cwd other := by
  intro tree intent
  rcases rooted with absolute | rfl
  · rw [FileTree.lookup, FileTree.lookup, if_pos absolute, if_pos absolute]
  · rfl

namespace FileTree

/-- Wherever the trees differ, both have a file, and it is the one that stands apart. -/
def Twins (apart : Option Location) (first second : FileTree) : Prop :=
  ∀ location, first.get? location = second.get? location ∨
    apart = some location ∧ ∃ contents other,
      first.get? location = some (.file contents) ∧ second.get? location = some (.file other)

/-- Two walks that fail in the same way, or end at the same spot. What they find there differs at
most if it is the file that stands apart. -/
inductive Meet (apart : Option Location) : Except Errno Spot → Except Errno Spot → Prop
  | same {result : Except Errno Spot} : Meet apart result result
  | apart {spot : Spot} {contents other : Bytes} (here : apart = some spot.location)
      (found : spot.entry = some (.file contents)) :
      Meet apart (.ok spot) (.ok { spot with entry := some (.file other) })

namespace Twins

variable {apart : Option Location} {first second : FileTree}

/-- A tree is its own twin. -/
theorem refl (tree : FileTree) : Twins apart tree tree := fun _ => .inl rfl

variable (twins : Twins apart first second)
include twins

private theorem symm : Twins apart second first := by
  intro location
  rcases twins location with same | ⟨here, contents, other, found, present⟩
  · exact .inl same.symm
  · exact .inr ⟨here, other, contents, present, found⟩

/-- What is no file is the same in both trees. -/
theorem get?_eq {location : Location} {entry : Option Entry} (found : first.get? location = entry)
    (plain : ∀ contents, entry ≠ some (.file contents)) : second.get? location = entry := by
  rcases twins location with same | ⟨_, contents, _, file, _⟩
  · rw [← same, found]
  · exact absurd (found.symm.trans file) (plain contents)

/-- **A walk takes the same way through both trees.** -/
theorem walk {intent : Intent} {links : Nat} {dir : Location} {names : List Bytes} {slash : Bool} :
    Meet apart (first.walk intent links dir names slash)
      (second.walk intent links dir names slash) := by
  fun_induction FileTree.walk first intent links dir names slash with
  | case1 =>
      rw [FileTree.walk]
      exact .same
  | case2 links dir slash rest ih =>
      rw [FileTree.walk, if_pos rfl]
      exact ih
  | case3 links dir slash rest different ih =>
      rw [FileTree.walk, if_neg different, if_pos rfl]
      exact ih
  | case4 links dir slash name rest n₁ n₂ refused =>
      rw [FileTree.walk, if_neg n₁, if_neg n₂, if_pos refused]
      exact .same
  | case5 links dir slash name rest n₁ n₂ allowed long =>
      rw [FileTree.walk, if_neg n₁, if_neg n₂, if_neg allowed, if_pos long]
      exact .same
  | case6 links dir slash name n₁ n₂ short absent allowed =>
      rw [FileTree.walk, if_neg n₁, if_neg n₂, if_neg allowed, if_neg short]
      simp only [twins.get?_eq absent (by simp), ↓reduceIte]
      exact .same
  | case7 links dir slash name rest n₁ n₂ allowed short absent more =>
      rw [FileTree.walk, if_neg n₁, if_neg n₂, if_neg allowed, if_neg short]
      simp only [twins.get?_eq absent (by simp), more, ↓reduceIte]
      exact .same
  | case8 links dir slash name n₁ n₂ short found allowed =>
      rw [FileTree.walk, if_neg n₁, if_neg n₂, if_neg allowed, if_neg short]
      simp only [twins.get?_eq found (by simp), ↓reduceIte]
      exact .same
  | case9 links dir slash name rest n₁ n₂ allowed short found more ih =>
      rw [FileTree.walk, if_neg n₁, if_neg n₂, if_neg allowed, if_neg short]
      simp only [twins.get?_eq found (by simp), more, ↓reduceIte]
      exact ih
  | case10 links dir slash name rest n₁ n₂ allowed short target found final =>
      rw [FileTree.walk, if_neg n₁, if_neg n₂, if_neg allowed, if_neg short]
      simp only [twins.get?_eq found (by simp), final, and_self, ↓reduceIte]
      exact .same
  | case11 dir slash name rest n₁ n₂ allowed short target found goesOn =>
      rw [FileTree.walk, if_neg n₁, if_neg n₂, if_neg allowed, if_neg short]
      simp only [twins.get?_eq found (by simp), goesOn, ↓reduceIte]
      exact .same
  | case12 dir slash name rest n₁ n₂ allowed short target found goesOn links ih =>
      rw [FileTree.walk, if_neg n₁, if_neg n₂, if_neg allowed, if_neg short]
      simp only [twins.get?_eq found (by simp), goesOn, ↓reduceIte]
      exact ih
  | case13 links dir slash name n₁ n₂ short entry notDirectory notLink found allowed =>
      rw [FileTree.walk, if_neg n₁, if_neg n₂, if_neg allowed, if_neg short]
      rcases twins (name :: dir) with same | ⟨here, contents, other, file, present⟩
      · rw [← same, found]
        simp only [↓reduceIte]
        exact .same
      · obtain rfl := Option.some.inj (found.symm.trans file)
        simp only [present, ↓reduceIte]
        exact @Meet.apart apart ⟨name :: dir, some (.file contents), true, slash⟩ _ _ here rfl
  | case14 links dir slash name rest n₁ n₂ allowed short entry notDirectory notLink found more =>
      rw [FileTree.walk, if_neg n₁, if_neg n₂, if_neg allowed, if_neg short]
      rcases twins (name :: dir) with same | ⟨_, _, other, file, present⟩
      · rw [← same, found]
        simp only [more, ↓reduceIte]
        exact .same
      · simp only [present, more, ↓reduceIte]
        exact .same

private theorem lookup {cwd other : Location} {path : Path} {intent : Intent}
    (origin : path.LeadsAlike cwd other) :
    Meet apart (first.lookup cwd intent path) (second.lookup other intent path) := by
  rw [← origin second intent, FileTree.lookup, FileTree.lookup]
  split
  · exact .same
  · split
    · exact .same
    · exact twins.walk

private theorem insert {location : Location} (named : location ≠ []) (entry : Entry) :
    Twins apart (first.insert location entry) (second.insert location entry) := by
  intro other
  by_cases here : other = location
  · subst here
    left
    rw [get?_insert_self _ named, get?_insert_self _ named]
  · rw [get?_insert_of_ne _ here, get?_insert_of_ne _ here]
    exact twins other

private theorem erase {location : Location} (named : location ≠ []) :
    Twins apart (first.erase location) (second.erase location) := by
  intro other
  by_cases here : other = location
  · subst here
    left
    rw [get?_erase_self _ named, get?_erase_self _ named]
  · rw [get?_erase_of_ne _ here, get?_erase_of_ne _ here]
    exact twins other

/-- The file that stands apart is written anew in one of the trees. -/
theorem insert_apart {location : Location} {contents : Bytes} (here : apart = some location)
    (found : second.get? location = some (.file contents)) (other : Bytes) :
    Twins apart first (second.insert location (.file other)) := by
  have named : location ≠ [] := by
    rintro rfl
    cases found
  intro place
  by_cases same : place = location
  · subst same
    rw [get?_insert_self _ named]
    right
    rcases twins place with equal | ⟨_, stored, _, file, _⟩
    · exact ⟨here, _, _, equal.trans found, rfl⟩
    · exact ⟨here, _, _, file, rfl⟩
  · rw [get?_insert_of_ne _ same]
    exact twins place

end Twins

end FileTree

namespace Storage

/-- Storages whose trees are twins, with the same plan for the coming writes. The path leads to the
same place in both, and not to the file that stands apart, which is there. -/
structure Twins (path : Path) (apart : Option Location) (first second : Storage) : Prop where
  tree : FileTree.Twins apart first.tree second.tree
  origin : path.LeadsAlike first.cwd second.cwd
  plan : second.plan = first.plan
  calm : first.Undisturbed
  stands : ∀ location, apart = some location →
    ∃ entry, first.tree.get? location = some entry ∧ ∀ target, entry ≠ .link target
  elsewhere : ∀ location entry, first.tree.lookupExisting first.cwd path = .ok (location, entry) →
    apart ≠ some location

namespace Twins

variable {path : Path} {apart : Option Location} {first second : Storage}
  (twins : Twins path apart first second)
include twins

/-- **What the path leads to** is the same in both storages. -/
theorem lookupExisting_eq :
    second.tree.lookupExisting second.cwd path = first.tree.lookupExisting first.cwd path := by
  have elsewhere := twins.elsewhere
  have meet := @FileTree.Twins.lookup apart _ _ twins.tree _ _ path ⟨true, false⟩ twins.origin
  rw [FileTree.lookupExisting] at elsewhere
  rw [FileTree.lookupExisting, FileTree.lookupExisting]
  generalize first.tree.lookup first.cwd ⟨true, false⟩ path = here at elsewhere meet
  generalize second.tree.lookup second.cwd ⟨true, false⟩ path = there at meet
  cases meet with
  | same => rfl
  | @apart spot contents other apart found =>
      simp only [bind, Except.bind, found] at elsewhere ⊢
      cases slash : spot.slash with
      | true => rfl
      | false =>
          rw [slash] at elsewhere
          exact absurd apart (elsewhere _ _ rfl)

/-- A file to write to is the same in both storages. -/
theorem lookupOrCreate :
    (∃ e, first.tree.lookupOrCreate first.cwd path = .error e ∧
      second.tree.lookupOrCreate second.cwd path = .error e) ∨
    ∃ tree other location entry,
      first.tree.lookupOrCreate first.cwd path = .ok (tree, location, entry) ∧
      second.tree.lookupOrCreate second.cwd path = .ok (other, location, entry) ∧
      Twins path apart (first.withTree tree) (second.withTree other) := by
  have meet := @FileTree.Twins.lookup apart _ _ twins.tree _ _ path ⟨true, true⟩ twins.origin
  have made := @FileTree.lookupOrCreate_ok first.tree first.cwd path
  have kind := @FileTree.lookup_eq_ok_iff first.tree first.cwd path ⟨true, true⟩
  rw [FileTree.lookupOrCreate] at made
  rw [FileTree.lookupOrCreate, FileTree.lookupOrCreate]
  generalize first.tree.lookup first.cwd ⟨true, true⟩ path = here at made meet kind
  generalize second.tree.lookup second.cwd ⟨true, true⟩ path = there at meet
  cases meet with
  | same =>
      cases here with
      | error e => exact .inl ⟨e, rfl, rfl⟩
      | ok spot =>
          cases found : spot.entry with
          | none =>
              right
              have place := (kind.mp rfl).2.entry_eq
              simp only [bind, Except.bind, found] at made place ⊢
              cases named : spot.named with
              | false => simp [named] at place
              | true =>
                  rw [named, if_pos rfl] at place
                  have new := (made rfl).1
                  have different :
                      ∀ location, apart = some location → location ≠ spot.location := by
                    rintro location here rfl
                    rcases twins.stands _ here with ⟨entry, present, _⟩
                    cases place.2.trans present
                  refine ⟨_, _, _, _, rfl, rfl, twins.tree.insert place.1 _, twins.origin,
                    twins.plan, twins.calm, ?_, ?_⟩
                  · intro location here
                    rcases twins.stands location here with ⟨entry, present, noLink⟩
                    refine ⟨entry, ?_, noLink⟩
                    exact (FileTree.get?_insert_of_ne _ (different location here) _).trans present
                  · intro location entry existing here
                    obtain ⟨rfl, _⟩ := Prod.mk.inj (Except.ok.inj (new.symm.trans existing))
                    exact different _ here rfl
          | some entry =>
              simp only [bind, Except.bind, found]
              cases entry with
              | directory => exact .inl ⟨_, rfl, rfl⟩
              | _ => exact .inr ⟨_, _, _, _, rfl, rfl, twins⟩
  | @apart spot contents other apart found =>
      simp only [bind, Except.bind, found] at made
      exact absurd apart (twins.elsewhere _ _ (made rfl).1)

/-- Twins are twins the other way round. -/
theorem symm : Twins path apart second first where
  tree := twins.tree.symm
  origin := fun tree intent => (twins.origin tree intent).symm
  plan := twins.plan.symm
  calm := fun turn planned => twins.calm turn (twins.plan ▸ planned)
  stands := by
    intro location here
    rcases twins.stands location here with ⟨entry, present, noLink⟩
    rcases twins.tree location with same | ⟨_, _, other, _, found⟩
    · exact ⟨entry, same.symm.trans present, noLink⟩
    · exact ⟨_, found, by simp⟩
  elsewhere := fun location entry found =>
    twins.elsewhere location entry (twins.lookupExisting_eq.symm.trans found)

/-- Something is written to the file that stands apart. -/
theorem extend_apart {location : Location} (here : apart = some location) (data : Bytes) :
    Twins path apart first (second.extend location data) := by
  rw [Storage.extend]
  split
  · rename_i contents found
    exact ⟨twins.tree.insert_apart here found _, twins.origin, twins.plan, twins.calm,
      twins.stands, twins.elsewhere⟩
  · exact twins

/-- One of them is seen from the root. -/
theorem inRoot (origin : path.LeadsAlike first.cwd []) :
    Twins path apart first { second with cwd := [] } :=
  ⟨twins.tree, origin, twins.plan, twins.calm, twins.stands, twins.elsewhere⟩

end Twins

/-- Storages that are twins while something is written to the place that the path leads to. -/
structure TwinsAt (path : Path) (apart : Option Location) (location : Location)
    (first second : Storage) : Prop extends Twins path apart first second where
  opened : ∃ entry, first.tree.lookupExisting first.cwd path = .ok (location, entry) ∧
    entry ≠ .directory

namespace TwinsAt

variable {path : Path} {apart : Option Location} {location : Location} {first second : Storage}
  (twins : TwinsAt path apart location first second)
include twins

private theorem different : apart ≠ some location :=
  twins.opened.elim fun _ opened => twins.elsewhere _ _ opened.1

private theorem get?_eq : second.tree.get? location = first.tree.get? location := by
  rcases twins.tree location with same | ⟨here, _⟩
  · exact same.symm
  · exact absurd here twins.different

/-- A turn of the plan is used up. -/
theorem withPlan {plan : List WriteTurn} (fewer : plan <:+ first.plan) :
    TwinsAt path apart location { first with plan } { second with plan } where
  tree := twins.tree
  origin := twins.origin
  plan := rfl
  calm := twins.calm.of_plan_suffix fewer
  stands := twins.stands
  elsewhere := twins.elsewhere
  opened := twins.opened

private theorem extend (data : Bytes) :
    TwinsAt path apart location (first.extend location data) (second.extend location data) := by
  rw [Storage.extend, Storage.extend, twins.get?_eq]
  split
  · rename_i contents found
    rcases twins.opened with ⟨entry, opened, noDirectory⟩
    have entered := (FileTree.entry_of_lookupExisting opened).resolve_left noDirectory
    obtain rfl := Option.some.inj (entered.1.symm.trans found)
    have named := (FileTree.get?_of_lookupExisting opened).1
    have still := FileTree.lookupExisting_insert opened (contents ++ data)
    refine ⟨⟨twins.tree.insert named _, twins.origin, twins.plan, twins.calm, ?_, ?_⟩, _, still,
      by simp⟩
    · intro place here
      rcases twins.stands place here with ⟨entry, present, noLink⟩
      refine ⟨entry, (FileTree.get?_insert_of_ne _ ?_ _).trans present, noLink⟩
      rintro rfl
      exact twins.different here
    · intro place entry existing
      obtain ⟨rfl, _⟩ := Prod.mk.inj (Except.ok.inj (still.symm.trans existing))
      exact twins.different
  · exact twins

/-- **One write** is answered in the same way. -/
theorem write (data : Bytes) :
    (second.write location data).1 = (first.write location data).1 ∧
      TwinsAt path apart location (first.write location data).2
        (second.write location data).2 := by
  rw [Storage.write, Storage.write, twins.get?_eq, twins.plan]
  split
  · exact ⟨rfl, twins⟩
  · cases planned : first.plan with
    | nil => exact ⟨rfl, twins.extend data⟩
    | cons turn plan =>
        have calm := twins.calm turn (planned ▸ List.mem_cons_self)
        have moved := @withPlan _ _ _ _ _ twins plan (planned ▸ List.suffix_cons turn plan)
        cases turn with
        | whole => exact ⟨rfl, moved.extend data⟩
        | upTo limit => exact ⟨rfl, moved.extend (data.take limit)⟩
        | fail error => exact ⟨rfl, moved⟩
        | wholeThen mishap =>
            cases mishap with
            | removal => exact absurd rfl calm.1
            | directory => exact absurd rfl calm.2
            | crash => exact ⟨rfl, moved.extend data⟩

private theorem writeCalls (data : Bytes) (calls : Nat) :
    (second.writeCalls location data calls).1 = (first.writeCalls location data calls).1 ∧
      TwinsAt path apart location (first.writeCalls location data calls).2
        (second.writeCalls location data calls).2 := by
  induction calls generalizing first second data with
  | zero => exact ⟨rfl, twins⟩
  | succ calls ih =>
      rw [Storage.writeCalls, Storage.writeCalls]
      split
      · exact ⟨rfl, twins⟩
      · have written := twins.write data
        generalize first.write location data = here at written
        generalize second.write location data = there at written
        rcases here with ⟨outcome, first⟩
        rcases there with ⟨same, second⟩
        rcases written with ⟨rfl, twins⟩
        cases same with
        | accepted count =>
            cases count with
            | zero => exact ⟨rfl, twins⟩
            | succ count => exact ih twins _
        | failed error =>
            dsimp only
            split
            · exact ih twins data
            · exact ⟨rfl, twins⟩
        | crashed => exact ⟨rfl, twins⟩

end TwinsAt

end Storage

namespace Storage.Twins

variable {log : SharedLog} {apart : Option Location} {first second : Storage}
  (twins : Twins log.path apart first second)
include twins

/-- **An append** ends in the same way. -/
theorem append (data : Bytes) :
    (log.append data second).1 = (log.append data first).1 ∧
      Twins log.path apart (log.append data first).2 (log.append data second).2 := by
  rw [SharedLog.append, SharedLog.append]
  cases hidden : log.path.contains 0 with
  | true =>
      simp only [onPath, hidden, ↓reduceIte]
      exact ⟨trivial, twins⟩
  | false =>
      rcases twins.lookupOrCreate with ⟨e, failed, failedToo⟩ | ⟨tree, other, location, entry, rest⟩
      · rw [failed, failedToo]
        simp only [onPath, hidden, Bool.false_eq_true, ↓reduceIte, Except.mapError]
        exact ⟨trivial, twins⟩
      · rcases rest with ⟨made, madeToo, created⟩
        have opened : TwinsAt log.path apart location (first.withTree tree)
            (second.withTree other) :=
          ⟨created, entry, (FileTree.lookupOrCreate_ok made).1,
            (FileTree.get?_of_lookupOrCreate made).1⟩
        have written := opened.writeCalls data ((first.withTree tree).plan.length + 1)
        have calls : (second.withTree other).plan.length = (first.withTree tree).plan.length :=
          congrArg List.length twins.plan
        rw [made, madeToo]
        simp only [onPath, hidden, Bool.false_eq_true, ↓reduceIte, Except.mapError, writeAll, calls]
        generalize (first.withTree tree).writeCalls location data _ = here at written
        generalize (second.withTree other).writeCalls location data _ = there at written
        rcases here with ⟨outcome, first⟩
        rcases there with ⟨same, second⟩
        rcases written with ⟨rfl, twins⟩
        cases same <;> exact ⟨rfl, twins.toTwins⟩

/-- An append is answered alike by twins and leaves them twins. -/
theorem appendAsync (data : Bytes) :
    (log.appendAsync data second).1 = (log.appendAsync data first).1 ∧
      Twins log.path apart (log.appendAsync data first).2 (log.appendAsync data second).2 := by
  rcases twins.append data with ⟨same, after⟩
  exact ⟨congrArg log.inBackground same, after⟩

/-- **A snapshot** shows the same. -/
theorem snapshot_eq : log.snapshot second = log.snapshot first := by
  have contents : log.contents second = log.contents first := by
    rw [SharedLog.contents, SharedLog.contents, twins.lookupExisting_eq]
  rw [SharedLog.snapshot, SharedLog.snapshot, SharedLog.readAll, SharedLog.readAll, contents]

/-- What a path names is found there, unless it is a directory or a link. -/
theorem elsewhere_of_named {spot : FileTree.Spot} {entry : Entry}
    (looked : first.tree.lookup first.cwd ⟨false, false⟩ log.path = .ok spot)
    (found : spot.entry = some entry) (noDirectory : entry ≠ .directory)
    (noLink : ∀ target, entry ≠ .link target) (slash : spot.slash = false) :
    apart ≠ some spot.location := by
  rcases FileTree.lookup_eq_ok_iff.mp looked with ⟨fits, leads⟩
  have followed := leads.of_no_link fun target same =>
    noLink target (Option.some.inj (found.symm.trans same))
  apply twins.elsewhere spot.location entry
  rw [FileTree.lookupExisting, FileTree.lookup_eq_ok_iff.mpr ⟨fits, followed⟩]
  simp only [bind, Except.bind, found]
  cases entry with
  | directory => exact absurd rfl noDirectory
  | _ => simp [slash]

/-- The storages stay twins when what the path names is taken away. -/
theorem erase {spot : FileTree.Spot} {entry : Entry}
    (looked : first.tree.lookup first.cwd ⟨false, false⟩ log.path = .ok spot)
    (named : spot.named) (found : spot.entry = some entry) (noDirectory : entry ≠ .directory)
    (slash : spot.slash = false) :
    Twins log.path apart (first.withTree (first.tree.erase spot.location))
      (second.withTree (second.tree.erase spot.location)) := by
  have place := (FileTree.lookup_eq_ok_iff.mp looked).2.entry_eq
  rw [named, if_pos rfl] at place
  have unlinked : first.tree.unlink first.cwd log.path = .ok (first.tree.erase spot.location) := by
    rw [FileTree.unlink, looked]
    simp only [bind, Except.bind, named, Bool.not_true, Bool.false_eq_true, ↓reduceIte, found]
    cases entry with
    | directory => exact absurd rfl noDirectory
    | _ => simp [slash]
  rcases FileTree.unlink_ok unlinked with ⟨_, _, _, _, _, _, nowhere, _⟩
  refine ⟨twins.tree.erase place.1, twins.origin, twins.plan, twins.calm, ?_, ?_⟩
  · intro location here
    rcases twins.stands location here with ⟨other, present, noLink⟩
    refine ⟨other, (FileTree.get?_erase_of_ne _ ?_).trans present, noLink⟩
    rintro rfl
    obtain rfl : entry = other := Option.some.inj (found.symm.trans (place.2.trans present))
    exact twins.elsewhere_of_named looked found noDirectory noLink slash here
  · intro location other existing
    cases nowhere.symm.trans existing

/-- Unlinking takes the same entry away. -/
theorem unlink :
    (∃ e, first.tree.unlink first.cwd log.path = .error e ∧
      second.tree.unlink second.cwd log.path = .error e) ∨
    ∃ tree other, first.tree.unlink first.cwd log.path = .ok tree ∧
      second.tree.unlink second.cwd log.path = .ok other ∧
      Twins log.path apart (first.withTree tree) (second.withTree other) := by
  have meet := @FileTree.Twins.lookup apart _ _ twins.tree _ _ log.path ⟨false, false⟩ twins.origin
  have different := @elsewhere_of_named _ _ _ _ twins
  have erased := @erase _ _ _ _ twins
  rw [FileTree.unlink, FileTree.unlink]
  generalize first.tree.lookup first.cwd ⟨false, false⟩ log.path = here at meet different erased
  generalize second.tree.lookup second.cwd ⟨false, false⟩ log.path = there at meet
  cases meet with
  | same =>
      cases here with
      | error e => exact .inl ⟨e, rfl, rfl⟩
      | ok spot =>
          simp only [bind, Except.bind]
          cases named : spot.named with
          | false => exact .inl ⟨_, rfl, rfl⟩
          | true =>
              cases found : spot.entry with
              | none => exact .inl ⟨_, rfl, rfl⟩
              | some entry =>
                  cases slash : spot.slash with
                  | true => cases entry <;> exact .inl ⟨_, rfl, rfl⟩
                  | false =>
                      have erased := erased rfl named found
                      cases entry with
                      | directory => exact .inl ⟨_, rfl, rfl⟩
                      | _ => exact .inr ⟨_, _, rfl, rfl, erased (by simp) slash⟩
  | @apart spot contents other apart found =>
      cases slash : spot.slash with
      | true =>
          left
          simp only [bind, Except.bind, found, slash, ↓reduceIte]
          split <;> exact ⟨_, rfl, rfl⟩
      | false => exact absurd apart (different rfl found (by simp) (by simp) slash)

/-- **Removing** has the same result. -/
theorem remove :
    (log.remove second).1 = (log.remove first).1 ∧
      Twins log.path apart (log.remove first).2 (log.remove second).2 := by
  rw [SharedLog.remove, SharedLog.remove]
  cases hidden : log.path.contains 0 with
  | true =>
      simp only [onPath, hidden, ↓reduceIte]
      exact ⟨trivial, twins⟩
  | false =>
      rcases twins.unlink with ⟨e, failed, failedToo⟩ | ⟨tree, other, removed, removedToo, after⟩
      · rw [failed, failedToo]
        simp only [onPath, hidden, Bool.false_eq_true, ↓reduceIte, Except.mapError]
        exact ⟨trivial, twins⟩
      · rw [removed, removedToo]
        simp only [onPath, hidden, Bool.false_eq_true, ↓reduceIte, Except.mapError]
        exact ⟨trivial, after⟩

end Storage.Twins

end PacketLog
