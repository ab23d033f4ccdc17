import PacketLog.Text.Digits
import PacketLog.Text.Reader

/-! # Internet addresses

Addresses of both versions, their text, and how the text is read. The text of a version 6 address
leaves out its longest row of zero groups, the first of several, unless that row is a single group;
an address that stands for one of version 4 ends in that address.
-/

namespace PacketLog

/-- Takes a number of at most `most` digits (any number of them for `none`) that does not exceed
`limit`. A zero in front of other digits can be forbidden. -/
def takeNumber (base : Nat) (most : Option Nat) (zeroFirst : Bool) (limit : Nat) : Reader Nat :=
  fun text =>
    let digits := text.takeWhile (isDigitIn base)
    let value := digitsValue base digits
    if digits = [] ∨ most.any (· < digits.length) ∨ limit < value ∨
        (zeroFirst = false ∧ 1 < digits.length ∧ digits.head? = some '0') then none
    else some (value, text.drop digits.length)

/-- An address of version 4: four bytes. -/
structure Ipv4 where
  first : UInt8
  second : UInt8
  third : UInt8
  fourth : UInt8
  deriving DecidableEq, Repr

/-- An address of version 6: eight groups of 16 bits. -/
structure Ipv6 where
  groups : List Nat
  deriving DecidableEq, Repr

namespace Ipv4

/-- The text of an address. -/
def text (ip : Ipv4) : List Char :=
  ['.'].intercalate ([ip.first, ip.second, ip.third, ip.fourth].map fun b => decimal b.toNat)

/-- Takes one byte of an address. -/
def takeOctet : Reader UInt8 := fun text => do
  let (value, text) ← takeNumber 10 (some 3) false 255 text
  some (value.toUInt8, text)

/-- Takes an address. -/
def take : Reader Ipv4 := fun text => do
  let (a, text) ← takeOctet text
  let (_, text) ← takeChar '.' text
  let (b, text) ← takeOctet text
  let (_, text) ← takeChar '.' text
  let (c, text) ← takeOctet text
  let (_, text) ← takeChar '.' text
  let (d, text) ← takeOctet text
  some (⟨a, b, c, d⟩, text)

end Ipv4

namespace Ipv6

/-- How many groups at the front are zero. -/
def zeroRun (groups : List Nat) : Nat := (groups.takeWhile (· == 0)).length

/-- The place and the length of the longest row of zero groups, the first of several, among the
groups from place `place` on. -/
def longestRun (place : Nat) : List Nat → Nat × Nat
  | [] => (place, 0)
  | group :: rest =>
      let here := zeroRun (group :: rest)
      let later := longestRun (place + 1) rest
      if later.2 ≤ here then (place, here) else later

/-- The text of a row of groups. -/
def groupsText (groups : List Nat) : List Char :=
  [':'].intercalate (groups.map (Nat.toDigits 16))

/-- The address of version 4 that an address stands for. -/
def mapped? (ip : Ipv6) : Option Ipv4 :=
  match ip.groups with
  | [0, 0, 0, 0, 0, 0xFFFF, high, low] =>
      some ⟨(high / 256).toUInt8, high.toUInt8, (low / 256).toUInt8, low.toUInt8⟩
  | _ => none

/-- The text of an address. -/
def text (ip : Ipv6) : List Char :=
  match ip.mapped? with
  | some v4 => "::ffff:".toList ++ v4.text
  | none =>
      let (place, length) := longestRun 0 ip.groups
      if length < 2 then groupsText ip.groups
      else groupsText (ip.groups.take place) ++ [':', ':'] ++
        groupsText (ip.groups.drop (place + length))

/-- Takes a separator unless the group is the first. -/
def takeSeparator (isFirst : Bool) : Reader Unit := fun text =>
  if isFirst then some ((), text) else takeChar ':' text

/-- Takes up to `room` groups, the last two of which can be written as an address of version 4.
Answers also whether they were. -/
def takeGroups (isFirst : Bool) : (room : Nat) → List Char → List Nat × Bool × List Char
  | 0, text => ([], false, text)
  | room + 1, text =>
      let embedded := do
        if room = 0 then none
        let (_, text) ← takeSeparator isFirst text
        Ipv4.take text
      match embedded with
      | some (ip, text) =>
          ([ip.first.toNat * 256 + ip.second.toNat, ip.third.toNat * 256 + ip.fourth.toNat], true,
            text)
      | none =>
          match takeSeparator isFirst text >>= fun (_, text) =>
            takeNumber 16 (some 4) true 0xFFFF text with
          | some (group, text) =>
              let (groups, embedded, text) := takeGroups false room text
              (group :: groups, embedded, text)
          | none => ([], false, text)

/-- Takes an address. -/
def take : Reader Ipv6 := fun text =>
  let (head, embedded, text) := takeGroups true 8 text
  if head.length = 8 then some (⟨head⟩, text)
  else if embedded then none
  else do
    let (_, text) ← takeChar ':' text
    let (_, text) ← takeChar ':' text
    let (tail, _, text) := takeGroups true (7 - head.length) text
    some (⟨head ++ List.replicate (8 - head.length - tail.length) 0 ++ tail⟩, text)

end Ipv6

/-- The address of a socket. -/
inductive SocketAddress
  | v4 (ip : Ipv4) (port : Nat)
  | v6 (ip : Ipv6) (scope port : Nat)
  deriving DecidableEq, Repr

namespace SocketAddress

/-- The port of an address. -/
def port : SocketAddress → Nat
  | v4 _ port => port
  | v6 _ _ port => port

/-- The address of the host itself, on a port. -/
def loopback (port : Nat) : SocketAddress := .v4 ⟨127, 0, 0, 1⟩ port

/-- The text of an address. -/
def text (address : SocketAddress) : String :=
  String.ofList <| match address with
    | v4 ip port => ip.text ++ [':'] ++ decimal port
    | v6 ip scope port =>
        ['['] ++ ip.text ++ (if scope = 0 then [] else '%' :: decimal scope) ++ [']', ':'] ++
          decimal port

/-- Takes a port and the colon before it. -/
def takePort : Reader Nat := fun text => do
  let (_, text) ← takeChar ':' text
  takeNumber 10 none true 0xFFFF text

/-- Takes a scope and the mark before it, if there is one. -/
def takeScope (text : List Char) : Nat × List Char :=
  let scope := do
    let (_, text) ← takeChar '%' text
    takeNumber 10 none true 0xFFFFFFFF text
  scope.getD (0, text)

/-- Takes an address of version 4. -/
def takeV4 : Reader SocketAddress := fun text => do
  let (ip, text) ← Ipv4.take text
  let (port, text) ← takePort text
  some (.v4 ip port, text)

/-- Takes an address of version 6. -/
def takeV6 : Reader SocketAddress := fun text => do
  let (_, text) ← takeChar '[' text
  let (ip, text) ← Ipv6.take text
  let (scope, text) := takeScope text
  let (_, text) ← takeChar ']' text
  let (port, text) ← takePort text
  some (.v6 ip scope port, text)

/-- Reads an address that makes up the whole text. -/
def parse? (text : String) : Option SocketAddress :=
  match takeV4 text.toList <|> takeV6 text.toList with
  | some (address, []) => some address
  | _ => none

end SocketAddress

end PacketLog
