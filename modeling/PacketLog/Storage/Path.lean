import PacketLog.Text.Bytes

/-! # Path names

A path is a byte string. Slashes separate its names, empty names count for nothing, a leading slash
starts at the root and a trailing one asks for a directory.
-/

namespace PacketLog

/-- A path as its user wrote it. -/
abbrev Path := Bytes

namespace Path

/-- The byte that separates names. -/
def slash : UInt8 := 47

/-- The name of a directory in itself. -/
def dot : Bytes := [46]

/-- The name of a directory's parent in it. -/
def dotDot : Bytes := [46, 46]

/-- Splits at every slash, with the names in reverse of how they were met in `acc`. -/
def namesFrom (acc : List Bytes) (name : Bytes) : Bytes → List Bytes
  | [] => (if name.isEmpty then acc else name.reverse :: acc).reverse
  | b :: rest =>
      if b = slash then namesFrom (if name.isEmpty then acc else name.reverse :: acc) [] rest
      else namesFrom acc (b :: name) rest

/-- The names on a path, outermost first. -/
def names (path : Path) : List Bytes := namesFrom [] [] path

/-- Whether a path starts at the root. -/
def isAbsolute (path : Path) : Bool := path.head? == some slash

/-- Whether a path ends in a slash. -/
def asksDirectory (path : Path) : Bool := path.getLast? == some slash

/-- The longest name a directory can hold. -/
def maxName : Nat := 255

/-- The longest path that can be looked up, with room for a closing zero byte. -/
def maxPath : Nat := 4096

end Path

end PacketLog
