import HostDns.Adapter.Basic
import HostDns.Native.Chain
import HostDns.Native.Layout
import HostDns.Native.Memory

/-!
Reading the adapters of a block of native memory into records.

Every read takes what a node states: fixed buffers up to the stated length or their capacity, texts up
to their NUL, sockets only where their length covers the structure of their family. Nodes whose socket
cannot be read, and suffixes without text, are left out of their list.
-/

namespace HostDns

namespace Native.Memory

/-- The socket of an address and its stated length: none without an address, for an unknown family,
or for a length that does not cover the structure of the family. -/
def socket (m : Memory) (address : Option Nat) (length : Int32) : Option Socket := do
  let a ← address
  guard (socketAny.offset "sa_data" ≤ length.toInt)
  let family := m.u16 (a + socketAny.offset "sa_family")
  if family = familyIpv4 ∧ socketIpv4.size ≤ length.toInt then
    let bytes := m.bytes (a + socketIpv4.offset "sin_addr") 4
    let port := bigEndian (m.bytes (a + socketIpv4.offset "sin_port") 2)
    match bytes with
    | [b0, b1, b2, b3] => some (.v4 ⟨b0, b1, b2, b3⟩ (UInt16.ofNat port))
    | _ => none
  else if family = familyIpv6 ∧ socketIpv6.size ≤ length.toInt then
    let groups := Vector.ofFn fun i : Fin 8 =>
      UInt16.ofNat (bigEndian (m.bytes (a + socketIpv6.offset "sin6_addr" + 2 * i.val) 2))
    let port := bigEndian (m.bytes (a + socketIpv6.offset "sin6_port") 2)
    let flowInfo := bigEndian (m.bytes (a + socketIpv6.offset "sin6_flowinfo") 4)
    let scope := m.u32 (a + socketIpv6.offset "sin6_scope_id")
    some (.v6 ⟨groups⟩ (UInt16.ofNat port) (UInt32.ofNat flowInfo) scope)
  else none

/-- The socket that a pointer with a length leads to. -/
def socketAt (m : Memory) (address : Nat) : Option Socket :=
  m.socket (m.pointer (address + socketPointer.offset "sockaddr"))
    (m.i32 (address + socketPointer.offset "sockaddr_length"))

/-- The first bytes of a fixed buffer: as many as are stated and the buffer has. -/
def octetsAt {capacity : UInt8} (m : Memory) (address : Nat) (stated : UInt32) : Octets capacity :=
  .ofBytes (m.bytes address (min stated.toNat capacity.toNat))

/-- The nodes of a list in order, or the cycle it runs into. The link of a node stands at `offset`
within it. A walk visits each address below the extent once and ends at any other. -/
def nodeAnswers (m : Memory) (offset : Nat) (list : String) (head : Option Nat) :
    List (Except Cycle Nat) :=
  Walk.items (fun address => m.pointer (address + offset)) list (m.extent + 2) (.start head)

/-- What the nodes of a list are read to, in order, without those that are left out. -/
def collect {α : Type} (m : Memory) (layout : Layout) (list : String) (head : Option Nat)
    (read : Nat → Option α) : Except Cycle (List α) := do
  let nodes ← (m.nodeAnswers (layout.offset "next") list head).mapM id
  return nodes.filterMap read

/-- The sockets of a list of address nodes. -/
def sockets (m : Memory) (second : String) (list : String) (head : Option Nat) :
    Except Cycle (List Socket) :=
  m.collect (addressNode second) list head fun node =>
    m.socketAt (node + (addressNode second).offset "address")

/-- A unicast address. -/
def unicast (m : Memory) (node : Nat) : Option UnicastAddress := do
  let field (name : String) := node + unicastNode.offset name
  let address ← m.socketAt (field "address")
  return {
    address
    flags := m.u32 (field "flags")
    prefixOrigin := m.i32 (field "prefix_origin")
    suffixOrigin := m.i32 (field "suffix_origin")
    dadState := m.i32 (field "dad_state")
    validLifetime := m.u32 (field "valid_lifetime")
    preferredLifetime := m.u32 (field "preferred_lifetime")
    leaseLifetime := m.u32 (field "lease_lifetime")
    onLinkPrefixLength := m.byte (field "on_link_prefix_length") }

/-- An address prefix. -/
def addressPrefix (m : Memory) (node : Nat) : Option AddressPrefix := do
  let address ← m.socketAt (node + prefixNode.offset "address")
  return ⟨address, m.u32 (node + prefixNode.offset "prefix_length")⟩

/-- A suffix, which has a text. -/
def suffix (m : Memory) (node : Nat) : Option String :=
  let text := m.bufferText (node + suffixNode.offset "string") suffixCapacity
  if text = "" then none else some text

/-- A globally unique identifier. -/
def guid (m : Memory) (address : Nat) : Guid where
  data1 := m.u32 (address + guidLayout.offset "data1")
  data2 := m.u16 (address + guidLayout.offset "data2")
  data3 := m.u16 (address + guidLayout.offset "data3")
  data4 := Vector.ofFn fun i : Fin 8 => m.byte (address + guidLayout.offset "data4" + i.val)

/-- The adapter of a node as far as the node tells without its lists, which are left empty. -/
def adapterAlone (m : Memory) (node : Nat) : Adapter :=
  let field (name : String) := node + adapterNode.offset name
  let ifType := m.u32 (field "if_type")
  { ifIndex := m.u32 (field "if_index")
    adapterName := m.byteText (m.pointer (field "adapter_name"))
    friendlyName := m.wideText (m.pointer (field "friendly_name"))
    description := m.wideText (m.pointer (field "description"))
    dnsSuffix := m.wideText (m.pointer (field "dns_suffix"))
    kind := .ofIfType ifType
    ifType
    operStatus := .ofCode (m.u32 (field "oper_status"))
    physicalAddress := m.octetsAt (field "physical_address") (m.u32 (field "physical_address_length"))
    flags := ⟨m.u32 (field "flags")⟩
    mtu := m.u32 (field "mtu")
    ipv6IfIndex := m.u32 (field "ipv6_if_index")
    zoneIndices := Vector.ofFn fun i : Fin 16 => m.u32 (field "zone_indices" + 4 * i.val)
    transmitLinkSpeed := m.u64 (field "transmit_link_speed")
    receiveLinkSpeed := m.u64 (field "receive_link_speed")
    ipv4Metric := m.u32 (field "ipv4_metric")
    ipv6Metric := m.u32 (field "ipv6_metric")
    luid := ⟨m.u64 (field "luid" + luidLayout.offset "value")⟩
    compartmentId := m.u32 (field "compartment_id")
    networkGuid := m.guid (field "network_guid")
    connectionType := m.i32 (field "connection_type")
    tunnelType := m.i32 (field "tunnel_type")
    dhcpv4Server := m.socketAt (field "dhcpv4_server")
    dhcpv6Server := m.socketAt (field "dhcpv6_server")
    dhcpv6ClientDuid :=
      m.octetsAt (field "dhcpv6_client_duid") (m.u32 (field "dhcpv6_client_duid_length"))
    dhcpv6Iaid := m.u32 (field "dhcpv6_iaid") }

/-- The adapter of a node with all its lists, or the first cycle among them in the order unicast,
anycast, multicast, DNS server, prefix, WINS server, gateway, DNS suffix. -/
def adapter (m : Memory) (node : Nat) : Except Cycle Adapter := do
  let first (name : String) := m.pointer (node + adapterNode.offset name)
  let unicast ← m.collect unicastNode "unicast" (first "first_unicast_address") m.unicast
  let anycast ← m.sockets "flags" "anycast" (first "first_anycast_address")
  let multicast ← m.sockets "flags" "multicast" (first "first_multicast_address")
  let dnsServers ← m.sockets "reserved" "dns server" (first "first_dns_server_address")
  let prefixes ← m.collect prefixNode "prefix" (first "first_prefix") m.addressPrefix
  let winsServers ← m.sockets "reserved" "wins server" (first "first_wins_server_address")
  let gateways ← m.sockets "reserved" "gateway" (first "first_gateway_address")
  let dnsSuffixes ← m.collect suffixNode "dns suffix" (first "first_dns_suffix") m.suffix
  return { m.adapterAlone node with
    unicast, anycast, multicast, dnsServers, prefixes, winsServers, gateways, dnsSuffixes }

/-- The adapters of the list that starts at `head`, in order, or the first cycle that is met. Each
adapter is read with all its lists before the walk goes on to the next one. -/
def adapters (m : Memory) (head : Option Nat) : Except Cycle (List Adapter) :=
  (m.nodeAnswers (adapterNode.offset "next") "adapter" head).mapM fun answer => do
    m.adapter (← answer)

end Native.Memory

end HostDns
