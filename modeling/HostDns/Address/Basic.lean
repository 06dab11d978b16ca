/-!
IP addresses and the sockets that name servers are reached at.
-/

namespace HostDns

/-- An IPv4 address, most significant byte first. -/
structure Ipv4 where
  a : UInt8
  b : UInt8
  c : UInt8
  d : UInt8
  deriving DecidableEq, Repr, Inhabited

/-- An IPv6 address as its eight groups of 16 bits, most significant first. -/
structure Ipv6 where
  groups : Vector UInt16 8
  deriving DecidableEq, Repr, Inhabited

/-- An address of either family. -/
inductive Ip where
  | v4 (address : Ipv4)
  | v6 (address : Ipv6)
  deriving DecidableEq, Repr, Inhabited

/-- An address with a port. IPv6 sockets also carry flow information and the scope that the address
belongs to. -/
inductive Socket where
  | v4 (address : Ipv4) (port : UInt16)
  | v6 (address : Ipv6) (port : UInt16) (flowInfo : UInt32) (scope : UInt32)
  deriving DecidableEq, Repr, Inhabited

namespace Ipv6

/-- Site-local addresses are those of `fec0::/10`. -/
def isSiteLocal (address : Ipv6) : Bool :=
  address.groups[0] &&& 0xFFC0 == 0xFEC0

/-- The IPv4 address that an address of `::ffff:0:0/96` carries. -/
def mappedIpv4? (address : Ipv6) : Option Ipv4 :=
  match address.groups.toList with
  | [0, 0, 0, 0, 0, 0xFFFF, high, low] =>
    some ⟨(high >>> 8).toUInt8, high.toUInt8, (low >>> 8).toUInt8, low.toUInt8⟩
  | _ => none

end Ipv6

namespace Socket

/-- A socket of either family without flow information or scope. -/
def ofIp : Ip → UInt16 → Socket
  | .v4 address, port => .v4 address port
  | .v6 address, port => .v6 address port 0 0

/-- The address of a socket. -/
def ip : Socket → Ip
  | .v4 address _ => .v4 address
  | .v6 address .. => .v6 address

/-- The port of a socket. -/
def port : Socket → UInt16
  | .v4 _ port => port
  | .v6 _ port _ _ => port

/-- Whether the socket has an IPv4 address. -/
def isIpv4 : Socket → Bool
  | .v4 .. => true
  | .v6 .. => false

/-- Whether the socket has an IPv6 address. -/
def isIpv6 (s : Socket) : Bool := !s.isIpv4

/-- The socket with its flow information cleared, which is all that its text shows. -/
def withoutFlowInfo : Socket → Socket
  | .v4 address port => .v4 address port
  | .v6 address port _ scope => .v6 address port 0 scope

end Socket

end HostDns
