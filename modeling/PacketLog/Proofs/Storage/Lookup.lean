import PacketLog.Storage.FileTree

/-! # Where a path leads

`FileTree.Leads` says step by step how a walk gets from a directory to the spot it ends in, and a
walk succeeds exactly where it leads (`FileTree.walk_eq_ok_iff`). A walk looks at directories and
links on its way and at one more location at its end, so that putting something in this last place,
or in the place of the file that is there, changes nothing but what is found
(`FileTree.Leads.congr`).
-/

namespace PacketLog

/-- A name that is looked up in a directory. -/
structure Path.IsOrdinary (name : Bytes) : Prop where
  ne_dot : name ≠ Path.dot
  ne_dotDot : name ≠ Path.dotDot
  short : ¬ Path.maxName < name.length

namespace FileTree

/-! ## Entries -/

private theorem lookup_filter (kept : Location → Bool) (entries : List (Location × Entry))
    (other : Location) :
    (entries.filter (kept ·.1)).lookup other =
      if kept other then entries.lookup other else none := by
  induction entries with
  | nil => simp
  | cons head rest ih =>
      obtain ⟨place, entry⟩ := head
      cases keeps : kept place with
      | true =>
          rw [List.filter_cons_of_pos (by simpa using keeps), List.lookup_cons, List.lookup_cons,
            ih]
          cases same : other == place with
          | false => rfl
          | true => simp [eq_of_beq same, keeps]
      | false =>
          rw [List.filter_cons_of_neg (by simp [keeps]), ih, List.lookup_cons]
          cases same : other == place with
          | false => rfl
          | true => simp [eq_of_beq same, keeps]

/-- What is put at a location is there. -/
theorem get?_insert_self (tree : FileTree) {location : Location} (named : location ≠ [])
    (entry : Entry) : (tree.insert location entry).get? location = some entry := by
  cases location with
  | nil => exact absurd rfl named
  | cons name dir => simp [get?, insert]

/-- Nothing else changes when something is put at a location. -/
theorem get?_insert_of_ne (tree : FileTree) {location other : Location}
    (different : other ≠ location) (entry : Entry) :
    (tree.insert location entry).get? other = tree.get? other := by
  cases other with
  | nil => rfl
  | cons name dir =>
      have missed : (name :: dir == location) = false := by simpa using different
      simp only [get?, insert, List.lookup_cons, missed]
      rw [lookup_filter (· != location), if_pos (by simpa using different)]

/-- What is taken away is gone. -/
theorem get?_erase_self (tree : FileTree) {location : Location} (named : location ≠ []) :
    (tree.erase location).get? location = none := by
  cases location with
  | nil => exact absurd rfl named
  | cons name dir =>
      change (tree.entries.filter (·.1 != name :: dir)).lookup (name :: dir) = none
      rw [lookup_filter (· != name :: dir), if_neg (by simp)]

/-- Nothing else changes when something is taken away. -/
theorem get?_erase_of_ne (tree : FileTree) {location other : Location}
    (different : other ≠ location) : (tree.erase location).get? other = tree.get? other := by
  cases other with
  | nil => rfl
  | cons name dir =>
      change (tree.entries.filter (·.1 != location)).lookup (name :: dir) = _
      rw [lookup_filter (· != location), if_pos (by simpa using different)]
      rfl

/-- What is taken away with everything below it is gone, and nothing else. -/
theorem get?_eraseBelow (tree : FileTree) {location other : Location} (named : other ≠ []) :
    (tree.eraseBelow location).get? other =
      if location <:+ other then none else tree.get? other := by
  cases other with
  | nil => exact absurd rfl named
  | cons name dir =>
      change (tree.entries.filter (!location.isSuffixOf ·.1)).lookup (name :: dir) = _
      rw [lookup_filter (!location.isSuffixOf ·)]
      by_cases below : location <:+ name :: dir
      · rw [if_pos below, if_neg (by simp [List.isSuffixOf_iff_suffix.mpr below])]
      · rw [if_neg below, if_pos (by simpa [← List.isSuffixOf_iff_suffix] using below)]
        rfl

/-! ## Walks -/

/-- How a walk gets from the directory at `dir` to a spot. -/
inductive Leads (tree : FileTree) (intent : Intent) :
    (links : Nat) → (dir : Location) → (names : List Bytes) → (slash : Bool) → Spot → Prop
  | here {links : Nat} {dir : Location} {slash : Bool} :
      Leads tree intent links dir [] slash ⟨dir, some .directory, false, slash⟩
  | dot {links : Nat} {dir : Location} {rest : List Bytes} {slash : Bool} {spot : Spot}
      (onward : Leads tree intent links dir rest slash spot) :
      Leads tree intent links dir (Path.dot :: rest) slash spot
  | dotDot {links : Nat} {dir : Location} {rest : List Bytes} {slash : Bool} {spot : Spot}
      (onward : Leads tree intent links dir.tail rest slash spot) :
      Leads tree intent links dir (Path.dotDot :: rest) slash spot
  | last {links : Nat} {dir : Location} {name : Bytes} {slash : Bool}
      (ordinary : Path.IsOrdinary name) (allowed : ¬ (intent.create ∧ slash))
      (final : ∀ target, tree.get? (name :: dir) = some (.link target) → intent.follow = false) :
      Leads tree intent links dir [name] slash ⟨name :: dir, tree.get? (name :: dir), true, slash⟩
  | down {links : Nat} {dir : Location} {name : Bytes} {rest : List Bytes} {slash : Bool}
      {spot : Spot} (ordinary : Path.IsOrdinary name) (more : rest ≠ [])
      (found : tree.get? (name :: dir) = some .directory)
      (onward : Leads tree intent links (name :: dir) rest slash spot) :
      Leads tree intent links dir (name :: rest) slash spot
  | link {links : Nat} {dir : Location} {name : Bytes} {rest : List Bytes} {slash : Bool}
      {target : Path} {spot : Spot} (ordinary : Path.IsOrdinary name)
      (allowed : ¬ (intent.create ∧ slash ∧ rest = [])) (followed : rest = [] → intent.follow)
      (found : tree.get? (name :: dir) = some (.link target))
      (onward : Leads tree intent links (if target.isAbsolute then [] else dir)
        (target.names ++ rest) (if rest = [] then slash || target.asksDirectory else slash) spot) :
      Leads tree intent (links + 1) dir (name :: rest) slash spot

/-- A walk succeeds exactly where it leads. -/
theorem walk_eq_ok_iff {tree : FileTree} {intent : Intent} {links : Nat} {dir : Location}
    {names : List Bytes} {slash : Bool} {spot : Spot} :
    tree.walk intent links dir names slash = .ok spot ↔
      Leads tree intent links dir names slash spot := by
  constructor
  · intro walked
    fun_induction walk tree intent links dir names slash with
    | case1 =>
        obtain rfl := Except.ok.inj walked
        exact .here
    | case2 links dir slash rest ih => exact .dot (ih walked)
    | case3 links dir slash rest _ ih => exact .dotDot (ih walked)
    | case4 => exact nomatch walked
    | case5 => exact nomatch walked
    | case6 links dir slash name n₁ n₂ short absent allowed =>
        obtain rfl := Except.ok.inj walked
        rw [← absent]
        exact .last ⟨n₁, n₂, short⟩ (by simpa using allowed) (by simp [absent])
    | case7 => exact nomatch walked
    | case8 links dir slash name n₁ n₂ short found allowed =>
        obtain rfl := Except.ok.inj walked
        rw [← found]
        exact .last ⟨n₁, n₂, short⟩ (by simpa using allowed) (by simp [found])
    | case9 links dir slash name rest n₁ n₂ _ short found more ih =>
        exact .down ⟨n₁, n₂, short⟩ more found (ih walked)
    | case10 links dir slash name rest n₁ n₂ allowed short target found final =>
        obtain ⟨rfl, refused⟩ := final
        obtain rfl := Except.ok.inj walked
        rw [← found]
        exact .last ⟨n₁, n₂, short⟩ (by simpa using allowed) fun _ _ => by simpa using refused
    | case11 => exact nomatch walked
    | case12 dir slash name rest n₁ n₂ allowed short target found goesOn links ih =>
        exact .link ⟨n₁, n₂, short⟩ allowed (by simpa using goesOn) found (ih walked)
    | case13 links dir slash name n₁ n₂ short entry _ notLink found allowed =>
        obtain rfl := Except.ok.inj walked
        rw [← found]
        refine .last ⟨n₁, n₂, short⟩ (by simpa using allowed) fun target same => ?_
        exact (notLink target (Option.some.inj (found.symm.trans same))).elim
    | case14 => exact nomatch walked
  · intro leads
    induction leads with
    | here => rw [walk]
    | dot _ ih => rw [walk, if_pos rfl, ih]
    | dotDot _ ih => rw [walk, if_neg (by decide), if_pos rfl, ih]
    | @last _ dir name slash ordinary allowed final =>
        rw [walk, if_neg ordinary.ne_dot, if_neg ordinary.ne_dotDot,
          if_neg (by simpa using allowed), if_neg ordinary.short]
        split
        · rename_i found; rw [if_pos rfl, found]
        · rename_i found; rw [if_pos rfl, found]
        · rename_i target found
          rw [if_pos (by simpa using final target found), found]
        · rename_i found; rw [if_pos rfl, found]
    | @down _ dir name rest slash _ ordinary more found _ ih =>
        rw [walk, if_neg ordinary.ne_dot, if_neg ordinary.ne_dotDot, if_neg (by simp [more]),
          if_neg ordinary.short]
        simp only [found, more, ↓reduceIte, ih]
    | @link _ dir name rest slash target _ ordinary allowed followed found _ ih =>
        have goesOn : ¬ (rest = [] ∧ (!intent.follow) = true) := by simpa using followed
        rw [walk, if_neg ordinary.ne_dot, if_neg ordinary.ne_dotDot, if_neg allowed,
          if_neg ordinary.short]
        simp only [found, goesOn, ↓reduceIte, ih]

namespace Leads

variable {tree : FileTree} {intent : Intent} {links : Nat} {dir : Location} {names : List Bytes}
  {slash : Bool} {spot : Spot}

/-- What a walk finds is a directory it stands in, or whatever its last name stands for. -/
theorem entry_eq (leads : Leads tree intent links dir names slash spot) :
    if spot.named then spot.location ≠ [] ∧ spot.entry = tree.get? spot.location
    else spot.entry = some .directory := by
  induction leads with
  | here => rfl
  | dot _ ih => exact ih
  | dotDot _ ih => exact ih
  | last _ _ _ => exact ⟨List.cons_ne_nil _ _, rfl⟩
  | down _ _ _ _ ih => exact ih
  | link _ _ _ _ _ ih => exact ih

/-- A walk that follows links does not end in one. -/
theorem not_link (leads : Leads tree intent links dir names slash spot) (follows : intent.follow)
    (target : Path) : spot.entry ≠ some (.link target) := by
  induction leads with
  | here => exact fun found => nomatch found
  | dot _ ih => exact ih
  | dotDot _ ih => exact ih
  | last _ _ final =>
      intro found
      exact absurd (final target found) (by simp [follows])
  | down _ _ _ _ ih => exact ih
  | link _ _ _ _ _ ih => exact ih

/-- A walk that does not follow a last link and does not end in one gets where one that does gets.
-/
theorem of_no_link {create : Bool}
    (leads : Leads tree ⟨false, create⟩ links dir names slash spot)
    (noLink : ∀ target, spot.entry ≠ some (.link target)) :
    Leads tree ⟨true, create⟩ links dir names slash spot := by
  induction leads with
  | here => exact .here
  | dot _ ih => exact .dot (ih noLink)
  | dotDot _ ih => exact .dotDot (ih noLink)
  | last ordinary allowed _ =>
      exact .last ordinary allowed fun target found => absurd found (noLink target)
  | down ordinary more found _ ih => exact .down ordinary more found (ih noLink)
  | link ordinary allowed followed found _ ih =>
      exact .link ordinary allowed (fun _ => rfl) found (ih noLink)

/-- A slash at the end of a path is not lost on the way. -/
theorem slash_of_slash (leads : Leads tree intent links dir names slash spot)
    (asked : slash = true) : spot.slash = true := by
  induction leads with
  | here => exact asked
  | dot _ ih => exact ih asked
  | dotDot _ ih => exact ih asked
  | last _ _ _ => exact asked
  | down _ _ _ _ ih => exact ih asked
  | link _ _ _ _ _ ih => exact ih (by split <;> simp [asked])

/-- A walk that gets somewhere without a slash may create a file there. -/
theorem create {follow : Bool} (leads : Leads tree ⟨follow, false⟩ links dir names slash spot)
    (noSlash : spot.slash = false) : Leads tree ⟨follow, true⟩ links dir names slash spot := by
  induction leads with
  | here => exact .here
  | dot _ ih => exact .dot (ih noSlash)
  | dotDot _ ih => exact .dotDot (ih noSlash)
  | last ordinary _ final => exact .last ordinary (by simpa using noSlash) final
  | down ordinary more found _ ih => exact .down ordinary more found (ih noSlash)
  | link ordinary _ followed found onward ih =>
      refine .link ordinary ?_ followed found (ih noSlash)
      rintro ⟨_, asked, last⟩
      exact absurd (onward.slash_of_slash (by simp [last, asked])) (by simp [noSlash])

/-- A walk that may create a file gets where one that may not gets, and there without a slash. -/
theorem of_create {follow : Bool} (leads : Leads tree ⟨follow, true⟩ links dir names slash spot) :
    Leads tree ⟨follow, false⟩ links dir names slash spot ∧ (spot.named → spot.slash = false) := by
  induction leads with
  | here => exact ⟨.here, fun named => nomatch named⟩
  | dot _ ih => exact ⟨.dot ih.1, ih.2⟩
  | dotDot _ ih => exact ⟨.dotDot ih.1, ih.2⟩
  | last ordinary allowed final =>
      exact ⟨.last ordinary (by simp) final, fun _ => by simpa using allowed⟩
  | down ordinary more found _ ih => exact ⟨.down ordinary more found ih.1, ih.2⟩
  | link ordinary _ followed found _ ih =>
      exact ⟨.link ordinary (by simp) followed found ih.1, ih.2⟩

/-- What is put where a walk ends, in the place of nothing it goes through, is found there by the
same walk, as long as the walk would not go on from there. -/
theorem congr (leads : Leads tree intent links dir names slash spot) (named : spot.named)
    (noDirectory : tree.get? spot.location ≠ some .directory)
    (noLink : ∀ target, tree.get? spot.location ≠ some (.link target)) (entry : Entry)
    (final : ∀ target, entry = .link target → intent.follow = false) :
    Leads (tree.insert spot.location entry) intent links dir names slash
      { spot with entry := some entry } := by
  induction leads with
  | here => exact nomatch named
  | dot _ ih => exact .dot (ih named noDirectory noLink)
  | dotDot _ ih => exact .dotDot (ih named noDirectory noLink)
  | @last links dir name slash ordinary allowed _ =>
      have found : (tree.insert (name :: dir) entry).get? (name :: dir) = some entry :=
        get?_insert_self tree (List.cons_ne_nil _ _) _
      have leads : Leads (tree.insert (name :: dir) entry) intent links dir [name] slash _ :=
        .last ordinary allowed fun target same =>
          final target (Option.some.inj (found.symm.trans same))
      rwa [found] at leads
  | @down _ dir name _ _ spot ordinary more found _ ih =>
      have elsewhere : name :: dir ≠ spot.location := by
        rintro same
        exact noDirectory (same ▸ found)
      rw [← get?_insert_of_ne tree elsewhere entry] at found
      exact .down ordinary more found (ih named noDirectory noLink)
  | @link _ dir name _ _ target spot ordinary allowed followed found _ ih =>
      have elsewhere : name :: dir ≠ spot.location := by
        rintro same
        exact noLink target (same ▸ found)
      rw [← get?_insert_of_ne tree elsewhere entry] at found
      exact .link ordinary allowed followed found (ih named noDirectory noLink)

end Leads

/-! ## Looking up files -/

section Lookup

variable {tree : FileTree} {cwd : Location} {path : Path}

/-- A path that is neither empty nor too long is found exactly where its names lead. -/
theorem lookup_eq_ok_iff {intent : Intent} {spot : Spot} :
    tree.lookup cwd intent path = .ok spot ↔ (path ≠ [] ∧ path.length < Path.maxPath) ∧
      Leads tree intent maxLinks (if path.isAbsolute then [] else cwd) path.names
        path.asksDirectory spot := by
  rw [lookup]
  by_cases empty : path = []
  · simp [empty]
  · rw [if_neg empty]
    by_cases long : Path.maxPath ≤ path.length
    · simp [long, Nat.not_lt.mpr long]
    · rw [if_neg long, walk_eq_ok_iff]
      simp [empty, Nat.lt_of_not_le long]

/-- A file is found where a walk ends with its name. -/
theorem lookupExisting_eq_file_iff {location : Location} {contents : Bytes} :
    tree.lookupExisting cwd path = .ok (location, .file contents) ↔
      tree.lookup cwd ⟨true, false⟩ path = .ok ⟨location, some (.file contents), true, false⟩ := by
  constructor
  · intro found
    rw [lookupExisting] at found
    cases looked : tree.lookup cwd ⟨true, false⟩ path with
    | error e => rw [looked] at found; exact nomatch found
    | ok spot =>
        have kind := (lookup_eq_ok_iff.mp looked).2.entry_eq
        obtain ⟨place, entry, named, slash⟩ := spot
        rw [looked] at found
        simp only [bind, Except.bind] at found
        cases entry with
        | none => exact nomatch found
        | some entry =>
            cases entry with
            | directory => simp at found
            | file stored => cases slash <;> cases named <;> simp_all
            | link target => cases slash <;> simp at found
            | device device => cases slash <;> simp at found
  · intro looked
    rw [lookupExisting, looked]
    rfl

/-- A file that is found stands at its location. -/
theorem get?_of_lookupExisting {location : Location} {contents : Bytes}
    (found : tree.lookupExisting cwd path = .ok (location, .file contents)) :
    location ≠ [] ∧ tree.get? location = some (.file contents) := by
  have kind := (lookup_eq_ok_iff.mp (lookupExisting_eq_file_iff.mp found)).2.entry_eq
  exact ⟨kind.1, kind.2.symm⟩

/-- Writing a file anew does not change where it is found. -/
theorem lookupExisting_insert {location : Location} {old : Bytes}
    (found : tree.lookupExisting cwd path = .ok (location, .file old)) (contents : Bytes) :
    (tree.insert location (.file contents)).lookupExisting cwd path =
      .ok (location, .file contents) := by
  have stored := (get?_of_lookupExisting found).2
  obtain ⟨fits, leads⟩ := lookup_eq_ok_iff.mp (lookupExisting_eq_file_iff.mp found)
  rw [lookupExisting_eq_file_iff, lookup_eq_ok_iff]
  exact ⟨fits, leads.congr rfl (by simp [stored]) (by simp [stored]) _ (by simp)⟩

/-- What is found is a directory, or whatever but a link stands at the location. -/
theorem entry_of_lookupExisting {location : Location} {entry : Entry}
    (found : tree.lookupExisting cwd path = .ok (location, entry)) :
    entry = .directory ∨
      tree.get? location = some entry ∧ ∀ target, entry ≠ .link target := by
  rw [lookupExisting] at found
  cases looked : tree.lookup cwd ⟨true, false⟩ path with
  | error e => rw [looked] at found; exact nomatch found
  | ok spot =>
      have leads := (lookup_eq_ok_iff.mp looked).2
      have kind := leads.entry_eq
      have noLink := leads.not_link rfl
      rw [looked] at found
      simp only [bind, Except.bind] at found
      cases there : spot.entry with
      | none => rw [there] at found; exact nomatch found
      | some held =>
          rw [there] at found kind noLink
          by_cases directory : held = .directory
          · rw [directory] at found
            exact .inl (Prod.mk.inj (Except.ok.inj found)).2.symm
          · have same : spot.location = location ∧ held = entry := by
              cases slash : spot.slash <;> cases held <;> simp_all
            obtain ⟨rfl, rfl⟩ := same
            right
            refine ⟨?_, fun target same => noLink target (congrArg some same)⟩
            cases named : spot.named with
            | false => simp_all
            | true =>
                simp only [named, ↓reduceIte] at kind
                exact kind.2.symm

/-- A path that leads to a file can be written to as it is. -/
theorem lookupOrCreate_of_file {location : Location} {contents : Bytes}
    (found : tree.lookupExisting cwd path = .ok (location, .file contents)) :
    tree.lookupOrCreate cwd path = .ok (tree, location, .file contents) := by
  obtain ⟨fits, leads⟩ := lookup_eq_ok_iff.mp (lookupExisting_eq_file_iff.mp found)
  rw [lookupOrCreate, lookup_eq_ok_iff.mpr ⟨fits, leads.create rfl⟩]
  rfl

/-- A file to write to is the one that is found, or a new one where there was no entry. -/
theorem lookupOrCreate_ok {next : FileTree} {location : Location} {entry : Entry}
    (made : tree.lookupOrCreate cwd path = .ok (next, location, entry)) :
    next.lookupExisting cwd path = .ok (location, entry) ∧
      (∀ other, other ≠ location → next.get? other = tree.get? other) ∧
      match tree.lookupExisting cwd path with
      | .ok existing => existing = (location, entry) ∧ entry ≠ .directory
      | .error e => e = Errno.noEntry ∧ entry = .file [] := by
  rw [lookupOrCreate] at made
  cases looked : tree.lookup cwd ⟨true, true⟩ path with
  | error e => rw [looked] at made; exact nomatch made
  | ok spot =>
      obtain ⟨fits, creating⟩ := lookup_eq_ok_iff.mp looked
      obtain ⟨leads, slash⟩ := creating.of_create
      have same := lookup_eq_ok_iff.mpr ⟨fits, leads⟩
      have kind := leads.entry_eq
      rw [looked] at made
      simp only [bind, Except.bind] at made
      cases found : spot.entry with
      | none =>
          rw [found] at made kind
          simp only [Except.ok.injEq, Prod.mk.injEq] at made
          obtain ⟨rfl, rfl, rfl⟩ := made
          cases named : spot.named with
          | false => simp [named] at kind
          | true =>
              simp only [named, ↓reduceIte] at kind
              have new := leads.congr named (by simp [← kind.2]) (by simp [← kind.2]) (.file [])
                (by simp)
              rw [named, slash named] at new
              rw [lookupExisting_eq_file_iff]
              refine ⟨lookup_eq_ok_iff.mpr ⟨fits, new⟩, ?_, ?_⟩
              · intro other different
                exact get?_insert_of_ne tree different _
              · simp [lookupExisting, same, found, bind, Except.bind]
      | some old =>
          rw [found] at made
          by_cases directory : old = .directory
          · rw [directory] at made
            exact nomatch made
          · have kept : tree = next ∧ spot.location = location ∧ old = entry := by
              cases old <;> simp_all
            obtain ⟨rfl, rfl, rfl⟩ := kept
            have named : spot.named := by
              cases named : spot.named with
              | false => simp_all
              | true => rfl
            have existing : tree.lookupExisting cwd path = .ok (spot.location, old) := by
              rw [lookupExisting, same]
              simp only [bind, Except.bind, found, slash named]
              cases old <;> rfl
            rw [existing]
            exact ⟨rfl, fun _ _ => rfl, rfl, directory⟩

/-- A file to write to is there, and neither a directory nor a link. -/
theorem get?_of_lookupOrCreate {next : FileTree} {location : Location} {entry : Entry}
    (made : tree.lookupOrCreate cwd path = .ok (next, location, entry)) :
    entry ≠ .directory ∧ next.get? location = some entry ∧ ∀ target, entry ≠ .link target := by
  rcases lookupOrCreate_ok made with ⟨found, _, before⟩
  have noDirectory : entry ≠ .directory := by
    split at before
    · exact before.2
    · exact before.2 ▸ nofun
  exact ⟨noDirectory, (entry_of_lookupExisting found).resolve_left noDirectory⟩

end Lookup

end FileTree

end PacketLog
