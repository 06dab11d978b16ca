import HostDns.Adapter.Basic
import HostDns.Address.Printer
import HostDns.NameServers

/-!
Adapters and their parts as documents: every field by name, in the order of the record.
-/

namespace HostDns

/-- A socket as a document: its text. -/
def Socket.json (s : Socket) : Json := .str s.text

/-- A list of sockets as a document. -/
def Socket.jsonList (sockets : List Socket) : Json := .arr (sockets.map Socket.json)

/-- A unicast address as a document. -/
def UnicastAddress.json (u : UnicastAddress) : Json :=
  .obj [
    ("address", u.address.json),
    ("flags", .nat u.flags.toNat),
    ("prefix_origin", .int u.prefixOrigin.toInt),
    ("suffix_origin", .int u.suffixOrigin.toInt),
    ("dad_state", .int u.dadState.toInt),
    ("valid_lifetime", .nat u.validLifetime.toNat),
    ("preferred_lifetime", .nat u.preferredLifetime.toNat),
    ("lease_lifetime", .nat u.leaseLifetime.toNat),
    ("on_link_prefix_length", .nat u.onLinkPrefixLength.toNat)]

/-- An address prefix as a document. -/
def AddressPrefix.json (p : AddressPrefix) : Json :=
  .obj [("address", p.address.json), ("prefix_length", .nat p.prefixLength.toNat)]

/-- An adapter as a document. -/
def Adapter.json (a : Adapter) : Json :=
  .obj [
    ("if_index", .nat a.ifIndex.toNat),
    ("adapter_name", .str a.adapterName),
    ("friendly_name", .str a.friendlyName),
    ("description", .str a.description),
    ("dns_suffix", .str a.dnsSuffix),
    ("kind", a.kind.json),
    ("if_type", .nat a.ifType.toNat),
    ("oper_status", a.operStatus.json),
    ("physical_address", .str a.physicalAddress.text),
    ("flags", .nat a.flags.bits.toNat),
    ("mtu", .nat a.mtu.toNat),
    ("ipv6_if_index", .nat a.ipv6IfIndex.toNat),
    ("zone_indices", .arr (a.zoneIndices.toList.map fun z => .nat z.toNat)),
    ("transmit_link_speed", .nat a.transmitLinkSpeed.toNat),
    ("receive_link_speed", .nat a.receiveLinkSpeed.toNat),
    ("ipv4_metric", .nat a.ipv4Metric.toNat),
    ("ipv6_metric", .nat a.ipv6Metric.toNat),
    ("luid", .nat a.luid.value.toNat),
    ("compartment_id", .nat a.compartmentId.toNat),
    ("network_guid", .str a.networkGuid.text),
    ("connection_type", .int a.connectionType.toInt),
    ("tunnel_type", .int a.tunnelType.toInt),
    ("dhcpv4_server", .orNull (a.dhcpv4Server.map Socket.json)),
    ("dhcpv6_server", .orNull (a.dhcpv6Server.map Socket.json)),
    ("dhcpv6_client_duid", .str (Duid.text a.dhcpv6ClientDuid)),
    ("dhcpv6_iaid", .nat a.dhcpv6Iaid.toNat),
    ("unicast", .arr (a.unicast.map UnicastAddress.json)),
    ("anycast", Socket.jsonList a.anycast),
    ("multicast", Socket.jsonList a.multicast),
    ("dns_servers", Socket.jsonList a.dnsServers),
    ("prefixes", .arr (a.prefixes.map AddressPrefix.json)),
    ("wins_servers", Socket.jsonList a.winsServers),
    ("gateways", Socket.jsonList a.gateways),
    ("dns_suffixes", .arr (a.dnsSuffixes.map .str))]

/-- Name servers as a document: each domain with its servers, in order. -/
def NameServers.json (s : NameServers) : Json :=
  .obj (s.domains.map fun (domain, servers) => (domain, Socket.jsonList servers))

end HostDns
