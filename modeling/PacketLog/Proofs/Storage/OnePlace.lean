import PacketLog.Proofs.Storage.Lookup

/-! # Writing in one place

A file that is created or written to is a dead end: no walk goes on from there. So every walk takes
the same way before and after (`FileTree.Leads.detour`), and whatever else a path leads to, it leads
there still and finds it as it was (`FileTree.WrittenIn.seen_eq`).
-/

namespace PacketLog

namespace FileTree

/-- No walk goes on from a location: it holds neither a directory nor a link. -/
def DeadEnd (tree : FileTree) (location : Location) : Prop :=
  tree.get? location ≠ some .directory ∧ ∀ target, tree.get? location ≠ some (.link target)

/-- The second tree is what the first became when something was written in one place, if there is
such a place. Nothing else has changed, and the place is a dead end and is not empty any more. -/
def WrittenIn (place : Option Location) (first second : FileTree) : Prop :=
  ∀ location, second.get? location = first.get? location ∨ place = some location ∧
    first.DeadEnd location ∧ second.DeadEnd location ∧ second.get? location ≠ none

/-- What a path leads to from a directory, and what is there, if it leads anywhere. -/
def seen? (tree : FileTree) (directory : Location) (path : Path) : Option (Location × Entry) :=
  (tree.lookupExisting directory path).toOption

variable {first second : FileTree} {place : Option Location} {directory location : Location}
  {path : Path} {entry : Entry}

/-! ## Walks -/

/-- The trees differ in dead ends only. -/
def Akin (first second : FileTree) : Prop :=
  ∀ location, second.get? location = first.get? location ∨
    first.DeadEnd location ∧ second.DeadEnd location

private theorem Akin.symm (akin : Akin first second) : Akin second first :=
  fun location => (akin location).imp Eq.symm And.symm

/-- **A walk takes the same way** through both trees, and finds at its end what is there. -/
theorem Leads.detour {intent : Intent} {links : Nat} {dir : Location} {names : List Bytes}
    {slash : Bool} {spot : Spot} (leads : Leads first intent links dir names slash spot)
    (akin : Akin first second) :
    Leads second intent links dir names slash
      { spot with entry := if spot.named then second.get? spot.location else spot.entry } := by
  induction leads with
  | here => exact .here
  | dot _ ih => exact .dot ih
  | dotDot _ ih => exact .dotDot ih
  | @last _ dir name _ ordinary allowed final =>
      apply Leads.last ordinary allowed
      intro target found
      rcases akin (name :: dir) with same | ⟨_, dead⟩
      · exact final target (same.symm.trans found)
      · exact absurd found (dead.2 target)
  | @down _ dir name _ _ _ ordinary more found _ ih =>
      rcases akin (name :: dir) with same | ⟨dead, _⟩
      · exact .down ordinary more (same.trans found) ih
      · exact absurd found dead.1
  | @link _ dir name _ _ target _ ordinary allowed followed found _ ih =>
      rcases akin (name :: dir) with same | ⟨dead, _⟩
      · exact .link ordinary allowed followed (same.trans found) ih
      · exact absurd found (dead.2 target)

/-- Something is found where a walk ends, unless a slash asks for a directory there. -/
theorem lookupExisting_eq_ok_iff {tree : FileTree} :
    tree.lookupExisting directory path = .ok (location, entry) ↔
      ∃ spot, tree.lookup directory ⟨true, false⟩ path = .ok spot ∧ spot.location = location ∧
        spot.entry = some entry ∧ (entry = .directory ∨ spot.slash = false) := by
  rw [lookupExisting]
  cases tree.lookup directory ⟨true, false⟩ path with
  | error e => simp [bind, Except.bind]
  | ok spot =>
      rcases spot with ⟨place, found, named, slash⟩
      cases found with
      | none => simp [bind, Except.bind]
      | some held => cases held <;> cases slash <;> simp [bind, Except.bind] <;> grind

/-- What is found in one tree is found in the other, unless it is gone. -/
theorem Akin.lookupExisting (akin : Akin first second)
    (found : first.lookupExisting directory path = .ok (location, entry))
    (kept : first.get? location ≠ none → second.get? location ≠ none) :
    ∃ other, second.lookupExisting directory path = .ok (location, other) ∧
      (second.get? location = first.get? location → other = entry) := by
  rcases lookupExisting_eq_ok_iff.mp found with ⟨spot, looked, rfl, held, fits⟩
  rcases lookup_eq_ok_iff.mp looked with ⟨allowed, leads⟩
  have again := lookup_eq_ok_iff.mpr ⟨allowed, leads.detour akin⟩
  have end_eq := leads.entry_eq
  cases named : spot.named with
  | false =>
      rw [named] at again
      exact ⟨entry, lookupExisting_eq_ok_iff.mpr ⟨_, again, rfl, held, fits⟩, fun _ => rfl⟩
  | true =>
      rw [named, if_pos rfl] at end_eq
      have stood : first.get? spot.location = some entry := end_eq.2.symm.trans held
      rw [stood] at kept
      rcases Option.ne_none_iff_exists'.mp (kept (Option.some_ne_none _)) with ⟨other, present⟩
      rw [named, if_pos rfl, present] at again
      refine ⟨other, lookupExisting_eq_ok_iff.mpr ⟨_, again, rfl, rfl, ?_⟩, ?_⟩
      · rcases akin spot.location with same | ⟨dead, _⟩
        · obtain rfl := Option.some.inj (present.symm.trans (same.trans stood))
          exact fits
        · right
          apply fits.resolve_left
          rintro rfl
          exact dead.1 stood
      · intro same
        exact Option.some.inj (present.symm.trans (same.trans stood))

/-! ## What is written -/

namespace WrittenIn

/-- A tree in which nothing was done was written in no place. -/
theorem refl (tree : FileTree) : WrittenIn place tree tree := fun _ => .inl rfl

/-- What is written in one place, one thing after another, is written in that place. -/
theorem trans {third : FileTree} (before : WrittenIn place first second)
    (after : WrittenIn place second third) : WrittenIn place first third := by
  intro location
  rcases before location with same | ⟨here, dead, now, present⟩
  · rw [← same, DeadEnd, ← same]
    exact after location
  · rcases after location with same | ⟨_, _, later, still⟩
    · right
      rw [DeadEnd, DeadEnd, same]
      exact ⟨here, dead, now, present⟩
    · exact .inr ⟨here, dead, later, still⟩

/-- A file is created, or written anew. -/
theorem file (named : location ≠ []) (dead : first.DeadEnd location) (contents : Bytes) :
    WrittenIn (some location) first (first.insert location (.file contents)) := by
  intro other
  by_cases here : other = location
  · subst here
    right
    rw [DeadEnd, DeadEnd, get?_insert_self _ named]
    exact ⟨rfl, dead, ⟨nofun, nofun⟩, nofun⟩
  · exact .inl (get?_insert_of_ne _ here _)

/-- A file that is looked up, and created if there is none, is a place to write in. -/
theorem lookupOrCreate {cwd : Location}
    (made : first.lookupOrCreate cwd path = .ok (second, location, entry)) :
    WrittenIn (some location) first second := by
  rw [FileTree.lookupOrCreate] at made
  cases looked : first.lookup cwd ⟨true, true⟩ path with
  | error e =>
      rw [looked] at made
      cases made
  | ok spot =>
      have end_eq := (lookup_eq_ok_iff.mp looked).2.entry_eq
      rw [looked] at made
      simp only [bind, Except.bind] at made
      cases held : spot.entry with
      | none =>
          rw [held] at made end_eq
          obtain ⟨rfl, rfl, _⟩ : _ ∧ _ ∧ _ := by simpa using made
          cases named : spot.named with
          | false => simp [named] at end_eq
          | true =>
              rw [named, if_pos rfl] at end_eq
              apply WrittenIn.file end_eq.1
              rw [DeadEnd, ← end_eq.2]
              simp
      | some old =>
          rw [held] at made
          have same : first = second := by cases old <;> simp_all
          rw [same]
          exact refl second

variable (written : WrittenIn place first second)
include written

private theorem akin : Akin first second := fun location =>
  (written location).imp id fun ⟨_, dead, now, _⟩ => ⟨dead, now⟩

private theorem present (there : first.get? location ≠ none) : second.get? location ≠ none := by
  rcases written location with same | ⟨_, _, _, still⟩
  · rw [same]
    exact there
  · exact still

private theorem get?_eq (apart : place ≠ some location) :
    second.get? location = first.get? location :=
  (written location).resolve_right fun ⟨here, _⟩ => apart here

/-- A path that does not lead to the place did not lead there before, if something was there. -/
theorem apart_of_present (there : ∀ location, place = some location → first.get? location ≠ none)
    (apart : ∀ location entry, first.lookupExisting directory path = .ok (location, entry) →
      place ≠ some location)
    (found : second.lookupExisting directory path = .ok (location, entry)) :
    place ≠ some location := by
  intro here
  rcases written.akin.symm.lookupExisting found fun _ => there location here with ⟨_, before, _⟩
  exact apart _ _ before here

/-- **What is apart from the place is seen as before.** -/
theorem seen_eq
    (apart : ∀ location entry, second.lookupExisting directory path = .ok (location, entry) →
      place ≠ some location) : second.seen? directory path = first.seen? directory path := by
  rw [seen?, seen?]
  cases after : second.lookupExisting directory path with
  | ok found =>
      rcases found with ⟨location, entry⟩
      have same := (written.get?_eq (apart _ _ after)).symm
      rcases written.akin.symm.lookupExisting after fun there => same ▸ there with
        ⟨other, before, unchanged⟩
      rw [before, unchanged same]
  | error e =>
      cases before : first.lookupExisting directory path with
      | error e => rfl
      | ok found =>
          rcases written.akin.lookupExisting before written.present with ⟨_, still, _⟩
          exact nomatch after.symm.trans still

end WrittenIn

end FileTree

end PacketLog
