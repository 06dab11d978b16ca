import HostDns.Adapter.Identifier
import HostDns.Adapter.Kind
import HostDns.Address.Basic

/-!
Network adapters as records that own all they hold.
-/

namespace HostDns

/-- A unicast address of an adapter, with where it comes from and how long it lasts. -/
structure UnicastAddress where
  address : Socket
  flags : UInt32 := 0
  prefixOrigin : Int32 := 0
  suffixOrigin : Int32 := 0
  dadState : Int32 := 0
  validLifetime : UInt32 := 0
  preferredLifetime : UInt32 := 0
  leaseLifetime : UInt32 := 0
  onLinkPrefixLength : UInt8 := 0
  deriving DecidableEq

/-- An address prefix of an adapter. -/
structure AddressPrefix where
  address : Socket
  prefixLength : UInt32 := 0
  deriving DecidableEq

/-- An adapter. What is left out is zero, empty or absent, and the state is up. -/
structure Adapter where
  ifIndex : UInt32
  adapterName : String := ""
  friendlyName : String
  description : String := ""
  dnsSuffix : String := ""
  kind : AdapterKind
  ifType : UInt32 := 0
  operStatus : OperStatus := .up
  physicalAddress : PhysicalAddress := default
  flags : AdapterFlags := ⟨0⟩
  mtu : UInt32 := 0
  ipv6IfIndex : UInt32 := 0
  zoneIndices : Vector UInt32 16 := Vector.replicate 16 0
  transmitLinkSpeed : UInt64 := 0
  receiveLinkSpeed : UInt64 := 0
  ipv4Metric : UInt32 := 0
  ipv6Metric : UInt32 := 0
  luid : Luid := ⟨0⟩
  compartmentId : UInt32 := 0
  networkGuid : Guid := ⟨0, 0, 0, Vector.replicate 8 0⟩
  connectionType : Int32 := 0
  tunnelType : Int32 := 0
  dhcpv4Server : Option Socket := none
  dhcpv6Server : Option Socket := none
  dhcpv6ClientDuid : Duid := default
  dhcpv6Iaid : UInt32 := 0
  unicast : List UnicastAddress := []
  anycast : List Socket := []
  multicast : List Socket := []
  dnsServers : List Socket := []
  prefixes : List AddressPrefix := []
  winsServers : List Socket := []
  gateways : List Socket := []
  dnsSuffixes : List String := []
  deriving DecidableEq

namespace Adapter

/-- The adapter of an index, a name and a sort about which nothing else is known. -/
def named (ifIndex : UInt32) (friendlyName : String) (kind : AdapterKind) : Adapter :=
  { ifIndex, friendlyName, kind }

/-- The unicast addresses of a version, in order. -/
def unicastIps (a : Adapter) (version : IpVersion) : List Ip :=
  (a.unicast.map (·.address)).filterMap fun s =>
    if (if s.isIpv4 then version.includesV4 else version.includesV6) then some s.ip else none

/-- Whether there is a unicast address. -/
def hasAddresses (a : Adapter) : Bool := !a.unicast.isEmpty

end Adapter

end HostDns
