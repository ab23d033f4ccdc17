import PacketLog.Proofs.Storage.Appending

/-! # What unlinking takes away

A path names an entry of its own, which is the symbolic link where it ends in one
(`FileTree.entryNamed?`). Unlinking takes away this entry and no other, and afterwards the path
leads nowhere: a walk that follows the same path stops at the missing entry, even if it went through
the entry on its way (`FileTree.unlink_ok`). Where there was nothing to unlink, there is nothing to
find either (`FileTree.unlink_missing`). So a log is absent after it was removed, if that succeeded
(`SharedLog.removes`). -/

namespace PacketLog

namespace FileTree

/-- The entry that a path names. A symbolic link at its end is not followed. -/
def entryNamed? (tree : FileTree) (cwd : Location) (path : Path) : Option (Location × Entry) :=
  match tree.lookup cwd ⟨false, false⟩ path with
  | .ok spot => spot.entry.map (spot.location, ·)
  | .error _ => none

/-- A walk that comes through or to a missing entry. -/
def Misses (tree : FileTree) (intent : Intent) (links : Nat) (dir : Location) (names : List Bytes)
    (slash : Bool) : Prop :=
  tree.walk intent links dir names slash = .error Errno.noEntry ∨
    ∃ spot, tree.walk intent links dir names slash = .ok spot ∧ spot.entry = none

section Walks

variable {tree : FileTree} {links : Nat} {dir : Location} {names : List Bytes} {slash : Bool}

/-- Once the entry that a walk ends with is taken away, the same walk misses it, whether it would
follow a last link or not. -/
theorem Leads.misses_erase {spot : Spot}
    (leads : Leads tree ⟨false, false⟩ links dir names slash spot) (named : spot.named)
    (noDirectory : spot.entry ≠ some .directory) (follow : Bool) :
    Misses (tree.erase spot.location) ⟨follow, false⟩ links dir names slash := by
  induction leads with
  | here => exact absurd rfl noDirectory
  | dot _ ih =>
      have missed := ih named noDirectory
      rw [Misses, walk, if_pos rfl]
      exact missed
  | dotDot _ ih =>
      have missed := ih named noDirectory
      rw [Misses, walk, if_neg (by decide), if_pos rfl]
      exact missed
  | @last _ dir name _ ordinary _ _ =>
      have gone : (tree.erase (name :: dir)).get? (name :: dir) = none :=
        get?_erase_self tree (List.cons_ne_nil _ _)
      rw [Misses, walk, if_neg ordinary.ne_dot, if_neg ordinary.ne_dotDot, if_neg (by simp),
        if_neg ordinary.short]
      simp [gone]
  | @down _ dir name rest _ spot ordinary more found onward ih =>
      have elsewhere : name :: dir ≠ spot.location := by
        intro same
        have kind := onward.entry_eq
        rw [named, if_pos rfl, ← same, found] at kind
        exact noDirectory kind.2
      have found' := (get?_erase_of_ne tree elsewhere).trans found
      have missed := ih named noDirectory
      rw [Misses, walk, if_neg ordinary.ne_dot, if_neg ordinary.ne_dotDot, if_neg (by simp),
        if_neg ordinary.short]
      simp only [found', more, ↓reduceIte]
      exact missed
  | @link _ dir name rest _ target spot ordinary _ followed found onward ih =>
      have more : rest ≠ [] := by
        intro last
        cases followed last
      rw [Misses, walk, if_neg ordinary.ne_dot, if_neg ordinary.ne_dotDot, if_neg (by simp),
        if_neg ordinary.short]
      by_cases here : name :: dir = spot.location
      · -- The link that is taken away also lies on the way to where the path ends.
        have gone : (tree.erase spot.location).get? (name :: dir) = none := by
          rw [← here]
          exact get?_erase_self tree (List.cons_ne_nil _ _)
        simp [gone, more]
      · have found' := (get?_erase_of_ne tree here).trans found
        have missed := ih named noDirectory
        simpa only [found', Misses, more, false_and, ↓reduceIte] using missed

/-- A walk that fails without following a last link fails in the same way when it follows one. -/
theorem walk_error_of_no_follow {create : Bool} {e : Errno}
    (failed : tree.walk ⟨false, create⟩ links dir names slash = .error e) :
    tree.walk ⟨true, create⟩ links dir names slash = .error e := by
  generalize same : (⟨false, create⟩ : Intent) = intent at failed
  fun_induction walk tree intent links dir names slash with
  | case1 => cases failed
  | case2 links dir slash rest ih => rw [walk, if_pos rfl, ih failed]
  | case3 links dir slash rest different ih =>
      rw [walk, if_neg different, if_pos rfl, ih failed]
  | case4 links dir slash name rest n₁ n₂ refused =>
      subst same
      rw [walk, if_neg n₁, if_neg n₂, if_pos refused, failed]
  | case5 links dir slash name rest n₁ n₂ allowed long =>
      subst same
      rw [walk, if_neg n₁, if_neg n₂, if_neg allowed, if_pos long, failed]
  | case6 => cases failed
  | case7 links dir slash name rest n₁ n₂ allowed short absent more =>
      subst same
      rw [walk, if_neg n₁, if_neg n₂, if_neg allowed, if_neg short]
      simp only [absent, more, ↓reduceIte, failed]
  | case8 => cases failed
  | case9 links dir slash name rest n₁ n₂ allowed short found more ih =>
      subst same
      rw [walk, if_neg n₁, if_neg n₂, if_neg allowed, if_neg short]
      simp only [found, more, ↓reduceIte, ih failed]
  | case10 => cases failed
  | case11 dir slash name rest n₁ n₂ allowed short target found goesOn =>
      subst same
      rw [walk, if_neg n₁, if_neg n₂, if_neg allowed, if_neg short]
      simp [found, failed]
  | case12 dir slash name rest n₁ n₂ allowed short target found goesOn links ih =>
      subst same
      rw [walk, if_neg n₁, if_neg n₂, if_neg allowed, if_neg short]
      have onward := ih (by simpa using failed)
      simpa [found] using onward
  | case13 => cases failed
  | case14 links dir slash name rest n₁ n₂ allowed short entry notDirectory notLink found more =>
      subst same
      rw [walk, if_neg n₁, if_neg n₂, if_neg allowed, if_neg short]
      simp only [found, more, ↓reduceIte, failed]

end Walks

section Lookup

variable {tree : FileTree} {cwd : Location} {path : Path}

/-- What is missed is not found. -/
theorem lookupExisting_of_misses (fits : path ≠ [] ∧ path.length < Path.maxPath)
    (missed : Misses tree ⟨true, false⟩ maxLinks (if path.isAbsolute then [] else cwd) path.names
      path.asksDirectory) : tree.lookupExisting cwd path = .error Errno.noEntry := by
  rw [lookupExisting, lookup, if_neg fits.1, if_neg (Nat.not_le.mpr fits.2)]
  obtain failed | ⟨spot, walked, nothing⟩ := missed
  · rw [failed]
    rfl
  · rw [walked]
    simp only [bind, Except.bind, nothing]

private theorem entryNamed?_of_misses
    (missed : Misses tree ⟨false, false⟩ maxLinks (if path.isAbsolute then [] else cwd) path.names
      path.asksDirectory) : tree.entryNamed? cwd path = none := by
  rw [entryNamed?, lookup]
  by_cases empty : path = []
  · simp [empty]
  · by_cases long : Path.maxPath ≤ path.length
    · simp [empty, long]
    · rw [if_neg empty, if_neg long]
      obtain failed | ⟨spot, walked, nothing⟩ := missed
      · simp [failed]
      · simp [walked, nothing]

/-- **What unlinking takes away.** It is the entry that the path names, and no directory. The path
leads nowhere afterwards. -/
theorem unlink_ok {next : FileTree} (removed : tree.unlink cwd path = .ok next) :
    ∃ location entry, tree.entryNamed? cwd path = some (location, entry) ∧
      entry ≠ .directory ∧ next.get? location = none ∧
      (∀ other, other ≠ location → next.get? other = tree.get? other) ∧
      next.lookupExisting cwd path = .error Errno.noEntry ∧ next.entryNamed? cwd path = none := by
  rw [unlink] at removed
  cases looked : tree.lookup cwd ⟨false, false⟩ path with
  | error e => rw [looked] at removed; exact nomatch removed
  | ok spot =>
      obtain ⟨fits, leads⟩ := lookup_eq_ok_iff.mp looked
      have kind := leads.entry_eq
      rw [looked] at removed
      simp only [bind, Except.bind] at removed
      cases named : spot.named with
      | false => simp [named] at removed
      | true =>
          cases there : spot.entry with
          | none => simp [named, there] at removed
          | some entry =>
              rw [named, if_pos rfl] at kind
              have noDirectory : entry ≠ .directory := by
                rintro rfl
                simp [named, there] at removed
              have erased : tree.erase spot.location = next := by
                cases slash : spot.slash <;> cases entry <;>
                  simp [named, there, slash] at removed noDirectory ⊢ <;> exact removed
              subst erased
              have missed := leads.misses_erase named (by simpa [there] using noDirectory)
              refine ⟨spot.location, entry, ?_, noDirectory, get?_erase_self tree kind.1,
                fun other different => get?_erase_of_ne tree different,
                lookupExisting_of_misses fits (missed true), entryNamed?_of_misses (missed false)⟩
              rw [entryNamed?, looked]
              simp [there]

/-- Where there is nothing to unlink, the path names nothing and leads nowhere. -/
theorem unlink_missing (refused : tree.unlink cwd path = .error Errno.noEntry) :
    tree.entryNamed? cwd path = none ∧ tree.lookupExisting cwd path = .error Errno.noEntry := by
  rw [unlink] at refused
  cases looked : tree.lookup cwd ⟨false, false⟩ path with
  | error e =>
      rw [looked] at refused
      obtain rfl := Except.error.inj refused
      refine ⟨by rw [entryNamed?, looked], ?_⟩
      have failed : tree.lookup cwd ⟨true, false⟩ path = .error Errno.noEntry := by
        rw [lookup] at looked ⊢
        split
        · rfl
        · rename_i path
          rw [if_neg path] at looked
          split
          · rename_i long
            rw [if_pos long] at looked
            exact looked
          · rename_i short
            rw [if_neg short] at looked
            exact walk_error_of_no_follow looked
      rw [lookupExisting, failed]
      rfl
  | ok spot =>
      obtain ⟨fits, leads⟩ := lookup_eq_ok_iff.mp looked
      rw [looked] at refused
      simp only [bind, Except.bind] at refused
      have nothing : spot.entry = none := by
        cases named : spot.named with
        | false => simp [named, Errno.isDirectory, Errno.noEntry] at refused
        | true =>
            cases there : spot.entry with
            | none => rfl
            | some entry =>
                cases slash : spot.slash <;> cases entry <;>
                  simp [named, there, slash, Errno.isDirectory, Errno.notDirectory,
                    Errno.noEntry] at refused
      have followed := leads.of_no_link (by simp [nothing])
      refine ⟨by rw [entryNamed?, looked]; simp [nothing], ?_⟩
      rw [lookupExisting, lookup_eq_ok_iff.mpr ⟨fits, followed⟩]
      simp only [bind, Except.bind, nothing]

end Lookup

end FileTree

namespace SharedLog

/-- There is no data file: its path names nothing and leads nowhere. -/
structure Absent (log : SharedLog) (s : Storage) : Prop where
  noZero : log.path.contains 0 = false
  nowhere : s.tree.lookupExisting s.cwd log.path = .error Errno.noEntry
  unnamed : s.tree.entryNamed? s.cwd log.path = none

/-- How removing a log can end: the entry that its path names is taken away and nothing else, there
was none, or nothing changes. -/
inductive Removes (log : SharedLog) (s : Storage) : Except LogError Bool × Storage → Prop
  | unlinked {next : Storage} {location : Location} {entry : Entry}
      (named : s.tree.entryNamed? s.cwd log.path = some (location, entry))
      (taken : next.tree.get? location = none)
      (others : ∀ other, other ≠ location → next.tree.get? other = s.tree.get? other)
      (plan : next.plan = s.plan) (absent : log.Absent next) : Removes log s (.ok true, next)
  | absent (absent : log.Absent s) : Removes log s (.ok false, s)
  | failed {e : IoError} : Removes log s (.error (.remove log.path e), s)

variable {log : SharedLog} {s : Storage}

/-- Nobody finds a log that is absent. -/
theorem Absent.contains_eq (absent : log.Absent s) : s.contains log.path = false := by
  rw [Storage.contains, FileTree.contains, absent.nowhere]
  exact Bool.and_false _

/-- **What removing a log does.** -/
theorem removes : log.Removes s (log.remove s) := by
  rw [remove]
  cases unlinked : Storage.onPath log.path (s.tree.unlink s.cwd log.path) with
  | ok tree =>
      obtain ⟨noZero, unlinked⟩ := Storage.onPath_eq_ok_iff.mp unlinked
      obtain ⟨_, _, named, _, taken, others, nowhere, unnamed⟩ := FileTree.unlink_ok unlinked
      exact .unlinked named taken others rfl ⟨noZero, nowhere, unnamed⟩
  | error e =>
      dsimp only
      rw [undeleted]
      by_cases missing : e.kind = .notFound
      · rw [if_pos missing]
        rw [Storage.onPath] at unlinked
        split at unlinked
        · obtain rfl := Except.error.inj unlinked
          cases missing
        · rename_i noZero
          cases refused : s.tree.unlink s.cwd log.path with
          | ok tree => rw [refused] at unlinked; cases unlinked
          | error errno =>
              rw [refused] at unlinked
              obtain rfl := Except.error.inj unlinked
              obtain rfl := Errno.kind_eq_notFound_iff.mp missing
              obtain ⟨unnamed, nowhere⟩ := FileTree.unlink_missing refused
              exact .absent ⟨by simpa using noZero, nowhere, unnamed⟩
      · rw [if_neg missing]
        exact .failed

end SharedLog

end PacketLog
