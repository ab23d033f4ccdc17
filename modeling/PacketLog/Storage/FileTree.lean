import PacketLog.Storage.Path
import PacketLog.Failure.Errno

/-! # File trees and path lookup

A `FileTree` gives every location its entry: a directory, a regular file with its contents, a
symbolic link with its target, or one of two devices. `FileTree.lookup` walks a path name by name
from a directory, following symbolic links, and answers the location it leads to together with what
is there, if anything. At most forty links are followed, so that loops end.
-/

namespace PacketLog

/-- The names that lead to an entry, innermost first; the root is the empty list. -/
abbrev Location := List Bytes

/-- A device: one that swallows everything and is always empty, and one that is always full. -/
inductive Device
  | null
  | full
  deriving DecidableEq, Repr

/-- What a location can hold. -/
inductive Entry
  | directory
  | file (contents : Bytes)
  | link (target : Path)
  | device (device : Device)
  deriving DecidableEq, Repr

/-- The entries of a file system below its root. -/
structure FileTree where
  entries : List (Location × Entry)
  deriving Repr

namespace FileTree

/-- The entry at a location; the root is always a directory. -/
def get? (tree : FileTree) : Location → Option Entry
  | [] => some .directory
  | location => tree.entries.lookup location

/-- Puts an entry at a location in place of whatever was there. -/
def insert (tree : FileTree) (location : Location) (entry : Entry) : FileTree :=
  ⟨(location, entry) :: tree.entries.filter (·.1 != location)⟩

/-- Takes the entry at a location away. -/
def erase (tree : FileTree) (location : Location) : FileTree :=
  ⟨tree.entries.filter (·.1 != location)⟩

/-- Takes a location and everything below it away. -/
def eraseBelow (tree : FileTree) (location : Location) : FileTree :=
  ⟨tree.entries.filter (!location.isSuffixOf ·.1)⟩

/-- The most symbolic links followed in one lookup. -/
def maxLinks : Nat := 40

/-- How a lookup treats the end of its path: `follow` a symbolic link there, and whether a file may
be created (`create`), which refuses a trailing slash before looking. -/
structure Intent where
  follow : Bool
  create : Bool

/-- Where a lookup ended. `named` tells that its last step was an ordinary name, and `slash` that a
slash followed it. -/
structure Spot where
  location : Location
  entry : Option Entry
  named : Bool
  slash : Bool

/-- Walks the names of a path from the directory at `dir`, with `links` symbolic links still
allowed. `slash` tells that the path ends in a slash. Without a name left the walk ends in the
directory it stands in. -/
def walk (tree : FileTree) (intent : Intent) (links : Nat) (dir : Location) (names : List Bytes)
    (slash : Bool) : Except Errno Spot :=
  match names with
  | [] => .ok ⟨dir, some .directory, false, slash⟩
  | name :: rest =>
      if name = Path.dot then walk tree intent links dir rest slash
      else if name = Path.dotDot then walk tree intent links dir.tail rest slash
      else if intent.create ∧ slash ∧ rest = [] then .error Errno.isDirectory
      else if Path.maxName < name.length then .error Errno.nameTooLong
      else
        match tree.get? (name :: dir) with
        | none =>
            if rest = [] then .ok ⟨name :: dir, none, true, slash⟩ else .error Errno.noEntry
        | some .directory =>
            if rest = [] then .ok ⟨name :: dir, some .directory, true, slash⟩
            else walk tree intent links (name :: dir) rest slash
        | some (.link target) =>
            if rest = [] ∧ !intent.follow then .ok ⟨name :: dir, some (.link target), true, slash⟩
            else
              match links with
              | 0 => .error Errno.tooManyLinks
              | links + 1 =>
                  walk tree intent links (if target.isAbsolute then [] else dir)
                    (target.names ++ rest)
                    (if rest = [] then slash || target.asksDirectory else slash)
        | some entry =>
            if rest = [] then .ok ⟨name :: dir, some entry, true, slash⟩
            else .error Errno.notDirectory
termination_by (links, names.length)

/-- Looks a path up from a directory. -/
def lookup (tree : FileTree) (cwd : Location) (intent : Intent) (path : Path) :
    Except Errno Spot :=
  if path = [] then .error Errno.noEntry
  else if Path.maxPath ≤ path.length then .error Errno.nameTooLong
  else tree.walk intent maxLinks (if path.isAbsolute then [] else cwd) path.names path.asksDirectory

/-- Looks up what is to be read: links are followed, and a trailing slash wants a directory. -/
def lookupExisting (tree : FileTree) (cwd : Location) (path : Path) :
    Except Errno (Location × Entry) := do
  let spot ← tree.lookup cwd ⟨true, false⟩ path
  match spot.entry with
  | none => .error Errno.noEntry
  | some .directory => .ok (spot.location, .directory)
  | some entry => if spot.slash then .error Errno.notDirectory else .ok (spot.location, entry)

/-- Looks up a file to write to, creating an empty one where there is none. -/
def lookupOrCreate (tree : FileTree) (cwd : Location) (path : Path) :
    Except Errno (FileTree × Location × Entry) := do
  let spot ← tree.lookup cwd ⟨true, true⟩ path
  match spot.entry with
  | none => .ok (tree.insert spot.location (.file []), spot.location, .file [])
  | some .directory => .error Errno.isDirectory
  | some entry => .ok (tree, spot.location, entry)

/-- Removes the entry a path names, a symbolic link rather than what it points to. -/
def unlink (tree : FileTree) (cwd : Location) (path : Path) : Except Errno FileTree := do
  let spot ← tree.lookup cwd ⟨false, false⟩ path
  if !spot.named then .error Errno.isDirectory
  else
    match spot.entry with
    | none => .error Errno.noEntry
    | some .directory => .error Errno.isDirectory
    | some _ => if spot.slash then .error Errno.notDirectory else .ok (tree.erase spot.location)

/-- Whether a path leads to anything. -/
def contains (tree : FileTree) (cwd : Location) (path : Path) : Bool :=
  (tree.lookupExisting cwd path).isOk

/-- The contents of the regular file a path leads to. -/
def fileAt? (tree : FileTree) (cwd : Location) (path : Path) : Option Bytes :=
  match tree.lookupExisting cwd path with
  | .ok (_, .file contents) => some contents
  | _ => none

/-- Creates a file with the given contents, or replaces those of an existing one. -/
def writeFile (tree : FileTree) (cwd : Location) (path : Path) (contents : Bytes) :
    Except Errno FileTree := do
  match ← tree.lookupOrCreate cwd path with
  | (tree, location, .file _) => .ok (tree.insert location (.file contents))
  | (tree, _, _) => .ok tree

/-- Creates a symbolic link. -/
def symlink (tree : FileTree) (cwd : Location) (path target : Path) : Except Errno FileTree := do
  let spot ← tree.lookup cwd ⟨false, false⟩ path
  match spot.entry with
  | some _ => .error Errno.exists_
  | none =>
      if target = [] ∨ spot.slash then .error Errno.noEntry
      else .ok (tree.insert spot.location (.link target))

/-- Creates the directories of a path one after another, from the directory at `cwd`. -/
def makeDirectories (tree : FileTree) (cwd : Location) (made : Path) :
    List Bytes → Except Errno FileTree
  | [] => .ok tree
  | name :: rest => do
      let path := made ++ name
      let spot ← tree.lookup cwd ⟨true, false⟩ path
      let tree ← match spot.entry with
        | none => Except.ok (tree.insert spot.location .directory)
        | some .directory => Except.ok tree
        | some _ => Except.error Errno.exists_
      tree.makeDirectories cwd (path ++ [Path.slash]) rest

/-- Creates the directory a path names, and those it lies in. -/
def makeDirectory (tree : FileTree) (cwd : Location) (path : Path) : Except Errno FileTree :=
  tree.makeDirectories cwd (if path.isAbsolute then [Path.slash] else []) path.names

/-- Removes a directory with everything in it, or a symbolic link. -/
def removeTree (tree : FileTree) (cwd : Location) (path : Path) : Except Errno FileTree := do
  let spot ← tree.lookup cwd ⟨false, false⟩ path
  match spot.entry with
  | none => .error Errno.noEntry
  | some .directory => .ok (tree.eraseBelow spot.location)
  | some (.link _) => .ok (tree.erase spot.location)
  | some _ => .error Errno.notDirectory

/-- A file system with the two devices and nothing else but one empty directory. -/
def withDirectory (location : Location) : FileTree :=
  ⟨[("dev".toUTF8.toList :: [], .directory),
    (["null".toUTF8.toList, "dev".toUTF8.toList], .device .null),
    (["full".toUTF8.toList, "dev".toUTF8.toList], .device .full),
    (location, .directory)]⟩

end FileTree

end PacketLog
