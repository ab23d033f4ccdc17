/-! # Byte strings

Packets, file contents and path names are plain sequences of bytes: the service never asks them to
be text. They are lists, so that every law about them is a law about lists.
-/

namespace PacketLog

/-- A byte string. -/
abbrev Bytes := List UInt8

/-- The byte that ends a packet. -/
def newline : UInt8 := 10

/-- The UTF-8 encoding of a text. -/
def Bytes.ofString (s : String) : Bytes := s.toUTF8.toList

end PacketLog
