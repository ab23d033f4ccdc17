import PacketLog.Proofs.Storage.Lookup

/-! # What others do to a file tree

Whoever has the tree at hand can write files, make links and directories, and take them away. Each
of these does what it says at one place and leaves the others as they are: a file that was written
is read back (`FileTree.writeFile_ok`), a link is where it was made (`FileTree.symlink_ok`), a
directory is found by its path (`FileTree.makeDirectory_ok`), and nothing is left at or below what
was removed (`FileTree.removeTree_ok`).
-/

namespace PacketLog.FileTree

variable {tree next : FileTree} {cwd : Location} {path : Path}

/-- **Writing.** A file that was written is read back with its new contents, and everything else is
left as it was. What is written to a device leaves everything as it was. -/
theorem writeFile_ok {contents : Bytes}
    (written : tree.writeFile cwd path contents = .ok next) :
    (∃ location, next.lookupExisting cwd path = .ok (location, .file contents) ∧
      ∀ other, other ≠ location → next.get? other = tree.get? other) ∨
    ∃ location device, tree.lookupExisting cwd path = .ok (location, .device device) ∧
      next.get? = tree.get? := by
  rw [writeFile] at written
  cases made : tree.lookupOrCreate cwd path with
  | error e =>
      rw [made] at written
      exact nomatch written
  | ok ready =>
      obtain ⟨ready, location, entry⟩ := ready
      obtain ⟨found, others, before⟩ := lookupOrCreate_ok made
      obtain ⟨noDirectory, there, noLink⟩ := get?_of_lookupOrCreate made
      rw [made] at written
      cases entry with
      | file old =>
          obtain rfl := Except.ok.inj written
          refine .inl ⟨location, lookupExisting_insert found contents, fun other different => ?_⟩
          rw [get?_insert_of_ne _ different, others other different]
      | device device =>
          obtain rfl := Except.ok.inj written
          have existing : tree.lookupExisting cwd path = .ok (location, .device device) := by
            split at before
            · rename_i existing found
              rw [found, before.1]
            · exact nomatch before.2
          refine .inr ⟨location, device, existing, funext fun other => ?_⟩
          by_cases here : other = location
          · have kept := (entry_of_lookupExisting existing).resolve_left (by simp)
            rw [here, there, kept.1]
          · exact others other here
      | directory => exact absurd rfl noDirectory
      | link target => exact absurd rfl (noLink target)

/-- **Linking.** A link is where it was made, with its target, and everything else is left as it
was. There was nothing in its place. -/
theorem symlink_ok {target : Path} (made : tree.symlink cwd path target = .ok next) :
    ∃ location, tree.get? location = none ∧ next = tree.insert location (.link target) ∧
      next.lookup cwd ⟨false, false⟩ path = .ok ⟨location, some (.link target), true, false⟩ := by
  rw [symlink] at made
  cases looked : tree.lookup cwd ⟨false, false⟩ path with
  | error e =>
      rw [looked] at made
      exact nomatch made
  | ok spot =>
      obtain ⟨location, entry, named, slash⟩ := spot
      obtain ⟨fits, leads⟩ := lookup_eq_ok_iff.mp looked
      have kind := leads.entry_eq
      rw [looked] at made
      cases entry with
      | some entry => exact nomatch made
      | none =>
          cases named with
          | false => exact nomatch kind
          | true =>
              have free : tree.get? location = none := kind.2.symm
              change (if target = [] ∨ slash = true then _ else _) = _ at made
              split at made
              · exact nomatch made
              · rename_i noSlash
                obtain rfl := Except.ok.inj made
                obtain rfl : slash = false := by simpa using (not_or.mp noSlash).2
                refine ⟨location, free, rfl, lookup_eq_ok_iff.mpr ⟨fits, ?_⟩⟩
                exact leads.congr rfl (by simp [free]) (by simp [free]) _ fun _ _ => rfl

/-! ## Directories -/

/-- **Removing.** Nothing is left at or below a directory that was removed, but for the root itself,
or in the place of a link; everything else is left as it was. -/
theorem removeTree_ok (removed : tree.removeTree cwd path = .ok next) :
    ∃ spot, tree.lookup cwd ⟨false, false⟩ path = .ok spot ∧
      (spot.entry = some .directory ∧ (∀ other, other ≠ [] → next.get? other =
          if spot.location <:+ other then none else tree.get? other) ∨
        (∃ target, spot.entry = some (.link target)) ∧ next.get? spot.location = none ∧
          ∀ other, other ≠ spot.location → next.get? other = tree.get? other) := by
  rw [removeTree] at removed
  cases looked : tree.lookup cwd ⟨false, false⟩ path with
  | error e =>
      rw [looked] at removed
      cases removed
  | ok spot =>
      obtain ⟨location, entry, named, slash⟩ := spot
      have kind := (lookup_eq_ok_iff.mp looked).2.entry_eq
      rw [looked] at removed
      refine ⟨_, rfl, ?_⟩
      cases entry with
      | none => cases removed
      | some entry =>
          cases entry with
          | file contents | device device => cases removed
          | directory =>
              obtain rfl := Except.ok.inj removed
              exact .inl ⟨rfl, fun other named => get?_eraseBelow tree named⟩
          | link target =>
              obtain rfl := Except.ok.inj removed
              have below : location ≠ [] := by
                cases named <;> simp_all
              exact .inr ⟨⟨target, rfl⟩, get?_erase_self tree below,
                fun other different => get?_erase_of_ne tree different⟩

/-- A tree that grew out of another by directories. -/
def GrowsBy (tree next : FileTree) : Prop :=
  ∀ location, next.get? location = tree.get? location ∨
    tree.get? location = none ∧ next.get? location = some .directory

private theorem GrowsBy.trans {between : FileTree} (first : tree.GrowsBy between)
    (later : between.GrowsBy next) : tree.GrowsBy next := by
  intro location
  obtain same | ⟨free, made⟩ := first location
  · exact same ▸ later location
  · obtain kept | ⟨gone, -⟩ := later location
    · exact .inr ⟨free, kept.trans made⟩
    · exact nomatch made.symm.trans gone

/-- A directory that was there or is made is found. -/
private theorem directory_found {spot : Spot}
    (looked : tree.lookup cwd ⟨true, false⟩ path = .ok spot)
    (there : spot.entry = some .directory ∧ next = tree ∨
      spot.entry = none ∧ next = tree.insert spot.location .directory) :
    (∃ spot, spot.entry = some .directory ∧ next.lookup cwd ⟨true, false⟩ path = .ok spot) ∧
      tree.GrowsBy next := by
  obtain ⟨fits, leads⟩ := lookup_eq_ok_iff.mp looked
  have kind := leads.entry_eq
  obtain ⟨found, rfl⟩ | ⟨absent, rfl⟩ := there
  · exact ⟨⟨spot, found, looked⟩, fun _ => .inl rfl⟩
  · have named : spot.named = true := by cases named : spot.named <;> simp_all
    rw [if_pos named, absent] at kind
    have free : tree.get? spot.location = none := kind.2.symm
    have again := leads.congr named (by simp [free]) (by simp [free]) .directory (by simp)
    refine ⟨⟨_, ?_, lookup_eq_ok_iff.mpr ⟨fits, again⟩⟩, fun location => ?_⟩
    · rfl
    · by_cases here : location = spot.location
      · rw [here]
        exact .inr ⟨free, get?_insert_self tree kind.1 _⟩
      · exact .inl (get?_insert_of_ne tree here _)

/-- **Making directories.** The directories on a path are made one after another: the path to the
last leads to a directory, and nothing else changed but that directories were added. -/
theorem makeDirectories_ok {made : Path} {names : List Bytes}
    (grown : tree.makeDirectories cwd made names = .ok next) :
    (names ≠ [] → ∃ spot, spot.entry = some .directory ∧
      next.lookup cwd ⟨true, false⟩ (made ++ [Path.slash].intercalate names) = .ok spot) ∧
      tree.GrowsBy next := by
  induction names generalizing tree made with
  | nil =>
      obtain rfl := Except.ok.inj grown
      exact ⟨fun some_ => absurd rfl some_, fun _ => .inl rfl⟩
  | cons name rest ih =>
      rw [makeDirectories] at grown
      cases looked : tree.lookup cwd ⟨true, false⟩ (made ++ name) with
      | error e =>
          rw [looked] at grown
          exact nomatch grown
      | ok spot =>
          rw [looked] at grown
          obtain ⟨between, there, grown⟩ : ∃ between : FileTree,
              (spot.entry = some .directory ∧ between = tree ∨
                spot.entry = none ∧ between = tree.insert spot.location .directory) ∧
              between.makeDirectories cwd (made ++ name ++ [Path.slash]) rest = .ok next := by
            simp only [bind, Except.bind] at grown
            split at grown
            · exact ⟨_, .inr ⟨‹_›, rfl⟩, grown⟩
            · exact ⟨_, .inl ⟨‹_›, rfl⟩, grown⟩
            · exact nomatch grown
          obtain ⟨found, grew⟩ := directory_found looked there
          obtain ⟨last, grows⟩ := ih grown
          refine ⟨fun _ => ?_, grew.trans grows⟩
          cases rest with
          | nil =>
              obtain rfl := Except.ok.inj grown
              simpa using found
          | cons second rest =>
              obtain ⟨spot, directory, leads⟩ := last (List.cons_ne_nil _ _)
              refine ⟨spot, directory, ?_⟩
              rwa [List.intercalate_cons_cons, ← List.append_assoc, ← List.append_assoc]

/-- A path that names a directory, written plainly. -/
def plainly (path : Path) : Path :=
  (if path.isAbsolute then [Path.slash] else []) ++ [Path.slash].intercalate path.names

/-- **Making a directory.** It is found where the path says, written plainly, and nothing else
changed but that directories were added. -/
theorem makeDirectory_ok (named : path.names ≠ [])
    (grown : tree.makeDirectory cwd path = .ok next) :
    (∃ spot, spot.entry = some .directory ∧
      next.lookup cwd ⟨true, false⟩ (plainly path) = .ok spot) ∧ tree.GrowsBy next := by
  obtain ⟨found, grows⟩ := makeDirectories_ok grown
  exact ⟨found named, grows⟩

/-! ## The tree at the beginning -/

/-- **The tree at the beginning** holds no file, and its directory is there. -/
theorem get?_withDirectory {location : Location}
    (apart : ∀ device, location ≠ [device, "dev".toUTF8.toList]) :
    (withDirectory location).get? location = some .directory ∧
      ∀ other contents, (withDirectory location).get? other ≠ some (.file contents) := by
  constructor
  · cases location with
    | nil => rfl
    | cons name dir =>
        have null := apart "null".toUTF8.toList
        have full := apart "full".toUTF8.toList
        simp only [get?, withDirectory, List.lookup_cons, beq_self_eq_true]
        rw [beq_eq_false_iff_ne.mpr null, beq_eq_false_iff_ne.mpr full]
        split <;> rfl
  · intro other contents found
    cases other with
    | nil => cases found
    | cons name dir =>
        simp only [get?, withDirectory, List.lookup_cons, List.lookup_nil] at found
        repeat' split at found
        all_goals cases found

end PacketLog.FileTree
