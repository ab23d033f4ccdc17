import PacketLog.Failure.IoError
import PacketLog.Net.Address

/-! # A host without a network

On a host whose only interface is down, and for a user without privileges, hardly any address can be
bound and none can be reached: version 4 addresses bind as long as their port is free to use, of
version 6 only the unspecified address and those that stand for one of version 4 do.
-/

namespace PacketLog

namespace Ipv6

/-- Whether an address stands for every address of the host. -/
def isUnspecified (ip : Ipv6) : Bool := ip.groups.all (· == 0)

/-- Whether an address names a group of hosts. -/
def isMulticast (ip : Ipv6) : Bool := ip.groups.head?.any fun group => group / 0x100 == 0xFF

/-- Whether an address has a meaning on one link only, so that it needs a scope. -/
def isLinkLocal (ip : Ipv6) : Bool := ip.groups.head?.any fun group => group / 0x40 == 0xFE80 / 0x40

end Ipv6

namespace Isolation

/-- The first port that does not take privileges; port 0 asks for any such port. -/
def firstFreePort : Nat := 1024

/-- The number of the host's only interface. -/
def onlyInterface : Nat := 1

/-- The failure of binding a version 6 address. -/
def bindErrorV6? (ip : Ipv6) (scope : Nat) : Option Errno :=
  if ip.isUnspecified || ip.mapped?.isSome then none
  else if ip.isLinkLocal && scope == 0 then some Errno.invalidArgument
  else if ip.isLinkLocal && scope != onlyInterface then some Errno.noDevice
  else some Errno.addressNotAvailable

/-- The failure of binding an address to a stream socket. Groups are refused first, then ports that
take privileges. -/
def bindError? (address : SocketAddress) : Option Errno :=
  let isGroup := match address with
    | .v4 .. => false
    | .v6 ip .. => ip.isMulticast
  if isGroup then some Errno.invalidArgument
  else if 0 < address.port ∧ address.port < firstFreePort then some Errno.accessDenied
  else match address with
    | .v4 .. => none
    | .v6 ip scope _ => bindErrorV6? ip scope

/-- The port that is bound when any port will do. -/
def anyPort : Nat := 32768

/-- The address that is bound when one is asked for. -/
def bound : SocketAddress → SocketAddress
  | .v4 ip 0 => .v4 ip anyPort
  | .v6 ip scope 0 => .v6 ip scope anyPort
  | address => address

/-- Binds an address to a stream socket. -/
def bind (address : SocketAddress) : Except IoError SocketAddress :=
  match bindError? address with
  | some e => .error (.os e)
  | none => .ok (bound address)

/-- The failure of binding an address that is listened on already. -/
def rebindError : Errno := Errno.addressInUse

/-- The failure of connecting to any address. -/
def connectError : Errno := Errno.networkUnreachable

/-- The failure of accepting on a listener that was shut down. -/
def brokenListener : Errno := Errno.invalidArgument

end Isolation

end PacketLog
