/-!
The native structures of a 64-bit little-endian system: which members they have and where each stands.

A member stands at the first offset behind the one before it that its alignment divides. A structure
is aligned as its members ask for, or as it is declared to be, and its size is a multiple of that.
-/

namespace HostDns.Native

/-- A member of a structure. -/
structure Member where
  name : String
  size : Nat
  align : Nat

namespace Member

/-- An unsigned or signed number of so many bytes. -/
def number (name : String) (size : Nat) : Member := ⟨name, size, size⟩

/-- A pointer. -/
def pointer (name : String) : Member := ⟨name, 8, 8⟩

/-- An array of numbers of `size` bytes each. -/
def array (name : String) (size count : Nat) : Member := ⟨name, size * count, size⟩

/-- A pointer to a socket address with the length of that. -/
def socketAddress (name : String) : Member := ⟨name, 16, 8⟩

end Member

/-- A structure: its members in order and the least alignment that it is declared with. -/
structure Layout where
  members : List Member
  declaredAlign : Nat := 1

namespace Layout

/-- The first multiple of an alignment from an offset on. -/
def roundUp (offset align : Nat) : Nat := (offset + align - 1) / align * align

/-- Where members stand that follow an offset. -/
def placeFrom : Nat → List Member → List (String × Nat)
  | _, [] => []
  | offset, m :: rest =>
    (m.name, roundUp offset m.align) :: placeFrom (roundUp offset m.align + m.size) rest

/-- The first offset behind members that follow an offset. -/
def endFrom : Nat → List Member → Nat
  | offset, [] => offset
  | offset, m :: rest => endFrom (roundUp offset m.align + m.size) rest

/-- The members with their offsets. -/
def offsets (l : Layout) : List (String × Nat) := placeFrom 0 l.members

/-- The offset of a member. -/
def offset (l : Layout) (name : String) : Nat := (l.offsets.lookup name).getD 0

/-- The alignment of the structure. -/
def align (l : Layout) : Nat := l.members.foldl (fun a m => max a m.align) l.declaredAlign

/-- The size of the structure. -/
def size (l : Layout) : Nat := roundUp (endFrom 0 l.members) l.align

end Layout

/-- How many bytes a hardware address can have. -/
def physicalAddressCapacity : Nat := 8

/-- How many bytes a DHCP unique identifier can have. -/
def duidCapacity : Nat := 130

/-- How many units a DNS suffix can have. -/
def suffixCapacity : Nat := 256

/-- The address family of both kinds of address. -/
def familyUnspecified : UInt16 := 0

/-- The address family of IPv4. -/
def familyIpv4 : UInt16 := 2

/-- The address family of IPv6. -/
def familyIpv6 : UInt16 := 23

/-- A node with an address that comes after its length, a number and a link. -/
def addressNode (second : String) (more : List Member := []) : Layout :=
  ⟨[.number "length" 4, .number second 4, .pointer "next", .socketAddress "address"] ++ more, 8⟩

/-- A node of the adapter list. -/
def adapterNode : Layout := ⟨[
  .number "length" 4, .number "if_index" 4, .pointer "next", .pointer "adapter_name",
  .pointer "first_unicast_address", .pointer "first_anycast_address",
  .pointer "first_multicast_address", .pointer "first_dns_server_address", .pointer "dns_suffix",
  .pointer "description", .pointer "friendly_name",
  .array "physical_address" 1 physicalAddressCapacity, .number "physical_address_length" 4,
  .number "flags" 4, .number "mtu" 4, .number "if_type" 4, .number "oper_status" 4,
  .number "ipv6_if_index" 4, .array "zone_indices" 4 16, .pointer "first_prefix",
  .number "transmit_link_speed" 8, .number "receive_link_speed" 8,
  .pointer "first_wins_server_address", .pointer "first_gateway_address",
  .number "ipv4_metric" 4, .number "ipv6_metric" 4, .number "luid" 8,
  .socketAddress "dhcpv4_server", .number "compartment_id" 4, ⟨"network_guid", 16, 4⟩,
  .number "connection_type" 4, .number "tunnel_type" 4, .socketAddress "dhcpv6_server",
  .array "dhcpv6_client_duid" 1 duidCapacity, .number "dhcpv6_client_duid_length" 4,
  .number "dhcpv6_iaid" 4, .pointer "first_dns_suffix"], 8⟩

/-- A node of a unicast list. -/
def unicastNode : Layout := addressNode "flags" [
  .number "prefix_origin" 4, .number "suffix_origin" 4, .number "dad_state" 4,
  .number "valid_lifetime" 4, .number "preferred_lifetime" 4, .number "lease_lifetime" 4,
  .number "on_link_prefix_length" 1]

/-- A node of a prefix list. -/
def prefixNode : Layout := addressNode "flags" [.number "prefix_length" 4]

/-- A node of a suffix list. -/
def suffixNode : Layout := ⟨[.pointer "next", .array "string" 2 suffixCapacity], 1⟩

/-- A socket address of any family. -/
def socketAny : Layout := ⟨[.number "sa_family" 2, .array "sa_data" 1 14], 1⟩

/-- A socket address of IPv4. -/
def socketIpv4 : Layout := ⟨[.number "sin_family" 2, .number "sin_port" 2, .array "sin_addr" 1 4,
  .array "sin_zero" 1 8], 1⟩

/-- A socket address of IPv6. -/
def socketIpv6 : Layout := ⟨[.number "sin6_family" 2, .number "sin6_port" 2,
  .number "sin6_flowinfo" 4, .array "sin6_addr" 1 16, .number "sin6_scope_id" 4], 1⟩

/-- A pointer to a socket address with its length. -/
def socketPointer : Layout := ⟨[.pointer "sockaddr", .number "sockaddr_length" 4], 1⟩

/-- A locally unique identifier. -/
def luidLayout : Layout := ⟨[.number "value" 8], 1⟩

/-- A globally unique identifier. -/
def guidLayout : Layout := ⟨[.number "data1" 4, .number "data2" 2, .number "data3" 2,
  .array "data4" 1 8], 1⟩

end HostDns.Native
