import HostDns.Proofs.Native.Outcome
import HostDns.Proofs.Native.Values

/-!
Memory that holds adapters, and that they are read back from it.

Where every member stands is written out here in numbers, and what a node need not tell is left open:
members that no record has, unused bytes of a structure, and everything behind the end of a text, of a
buffer's content or of a socket address. Nodes, texts and socket addresses may stand anywhere, also
within one another as long as each holds what it has to.
-/

namespace HostDns

/-- The number of a state. -/
def OperStatus.code : OperStatus → UInt32
  | .up => 1
  | .down => 2
  | .testing => 3
  | .unknown => 4
  | .dormant => 5
  | .notPresent => 6
  | .lowerLayerDown => 7
  | .other code => code

/-- A state that a number stands for is the state of its own number. -/
theorem OperStatus.ofCode_code (code : UInt32) : ofCode (ofCode code).code = ofCode code := by
  cases h : ofCode code with
  | other c =>
    obtain rfl : c = code := by
      simp only [ofCode] at h
      split_ifs at h
      exact (other.inj h).symm
    exact h
  | _ => rfl

/-- A record that native memory can tell: its sort and state follow from numbers, its texts are free
of NUL, and its suffixes are texts that fit into their buffer. -/
structure Adapter.Representable (r : Adapter) : Prop where
  kind : r.kind = .ofIfType r.ifType
  operStatus : ∃ code, r.operStatus = .ofCode code
  adapterName : '\x00' ∉ r.adapterName.toList
  friendlyName : '\x00' ∉ r.friendlyName.toList
  description : '\x00' ∉ r.description.toList
  dnsSuffix : '\x00' ∉ r.dnsSuffix.toList
  dnsSuffixes : ∀ s ∈ r.dnsSuffixes, s ≠ "" ∧ '\x00' ∉ s.toList ∧
    (Text.Utf16.encode s.toList).length ≤ 256

namespace Native

namespace Memory

/-! ### Nodes -/

/-- A node of a list of sockets. -/
def HoldsAddress (m : Memory) (node : Nat) (s : Socket) : Prop := m.HoldsSocket (node + 16) s

/-- A node of a unicast list. -/
structure HoldsUnicast (m : Memory) (node : Nat) (u : UnicastAddress) : Prop where
  flags : m.Holds (node + 4) (leBytes 4 u.flags.toNat)
  address : m.HoldsSocket (node + 16) u.address
  prefixOrigin : m.Holds (node + 32) (leBytes 4 u.prefixOrigin.toUInt32.toNat)
  suffixOrigin : m.Holds (node + 36) (leBytes 4 u.suffixOrigin.toUInt32.toNat)
  dadState : m.Holds (node + 40) (leBytes 4 u.dadState.toUInt32.toNat)
  validLifetime : m.Holds (node + 44) (leBytes 4 u.validLifetime.toNat)
  preferredLifetime : m.Holds (node + 48) (leBytes 4 u.preferredLifetime.toNat)
  leaseLifetime : m.Holds (node + 52) (leBytes 4 u.leaseLifetime.toNat)
  onLinkPrefixLength : m.Holds (node + 56) [u.onLinkPrefixLength]

/-- A node of a prefix list. -/
structure HoldsPrefix (m : Memory) (node : Nat) (p : AddressPrefix) : Prop where
  address : m.HoldsSocket (node + 16) p.address
  prefixLength : m.Holds (node + 32) (leBytes 4 p.prefixLength.toNat)

/-- A node of a suffix list. -/
def HoldsSuffix (m : Memory) (node : Nat) (s : String) : Prop :=
  m.Holds (node + 8) (bufferBytes 256 s)

/-- Nodes that hold values, each with a pointer to the next node `link` bytes within it. -/
structure HoldsNodes {β : Type} (m : Memory) (link : Nat) (holds : Nat → β → Prop)
    (nodes : List Nat) (values : List β) : Prop where
  nodup : nodes.Nodup
  isAddress : ∀ node ∈ nodes, IsAddress node
  linked : ∀ i (hi : i < nodes.length), m.HoldsPointer (nodes[i] + link) nodes[i + 1]?
  values : List.Forall₂ holds nodes values

/-- The pointer at an address leads to nodes that hold values. -/
def HoldsList {β : Type} (m : Memory) (link : Nat) (holds : Nat → β → Prop) (address : Nat)
    (values : List β) : Prop :=
  ∃ nodes : List Nat, m.HoldsPointer address nodes.head? ∧ m.HoldsNodes link holds nodes values

/-- A node of the adapters' list, with all that its pointers lead to. -/
structure HoldsAdapter (m : Memory) (node : Nat) (r : Adapter) : Prop where
  ifIndex : m.Holds (node + 4) (leBytes 4 r.ifIndex.toNat)
  adapterName : m.HoldsText (node + 16) r.adapterName (narrowBytes r.adapterName)
  unicast : m.HoldsList 8 m.HoldsUnicast (node + 24) r.unicast
  anycast : m.HoldsList 8 m.HoldsAddress (node + 32) r.anycast
  multicast : m.HoldsList 8 m.HoldsAddress (node + 40) r.multicast
  dnsServers : m.HoldsList 8 m.HoldsAddress (node + 48) r.dnsServers
  dnsSuffix : m.HoldsText (node + 56) r.dnsSuffix (wideBytes r.dnsSuffix)
  description : m.HoldsText (node + 64) r.description (wideBytes r.description)
  friendlyName : m.HoldsText (node + 72) r.friendlyName (wideBytes r.friendlyName)
  physicalAddress : m.Holds (node + 80) r.physicalAddress.bytes
  physicalAddressLength : m.Holds (node + 88) (leBytes 4 r.physicalAddress.bytes.length)
  flags : m.Holds (node + 92) (leBytes 4 r.flags.bits.toNat)
  mtu : m.Holds (node + 96) (leBytes 4 r.mtu.toNat)
  ifType : m.Holds (node + 100) (leBytes 4 r.ifType.toNat)
  operStatus : m.Holds (node + 104) (leBytes 4 r.operStatus.code.toNat)
  ipv6IfIndex : m.Holds (node + 108) (leBytes 4 r.ipv6IfIndex.toNat)
  zoneIndices : m.Holds (node + 112) (r.zoneIndices.toList.flatMap fun z => leBytes 4 z.toNat)
  prefixes : m.HoldsList 8 m.HoldsPrefix (node + 176) r.prefixes
  transmitLinkSpeed : m.Holds (node + 184) (leBytes 8 r.transmitLinkSpeed.toNat)
  receiveLinkSpeed : m.Holds (node + 192) (leBytes 8 r.receiveLinkSpeed.toNat)
  winsServers : m.HoldsList 8 m.HoldsAddress (node + 200) r.winsServers
  gateways : m.HoldsList 8 m.HoldsAddress (node + 208) r.gateways
  ipv4Metric : m.Holds (node + 216) (leBytes 4 r.ipv4Metric.toNat)
  ipv6Metric : m.Holds (node + 220) (leBytes 4 r.ipv6Metric.toNat)
  luid : m.Holds (node + 224) (leBytes 8 r.luid.value.toNat)
  dhcpv4Server : m.HoldsServer (node + 232) r.dhcpv4Server
  compartmentId : m.Holds (node + 248) (leBytes 4 r.compartmentId.toNat)
  networkGuid : m.Holds (node + 252) (guidBytes r.networkGuid)
  connectionType : m.Holds (node + 268) (leBytes 4 r.connectionType.toUInt32.toNat)
  tunnelType : m.Holds (node + 272) (leBytes 4 r.tunnelType.toUInt32.toNat)
  dhcpv6Server : m.HoldsServer (node + 280) r.dhcpv6Server
  dhcpv6ClientDuid : m.Holds (node + 296) r.dhcpv6ClientDuid.bytes
  dhcpv6ClientDuidLength : m.Holds (node + 428) (leBytes 4 r.dhcpv6ClientDuid.bytes.length)
  dhcpv6Iaid : m.Holds (node + 432) (leBytes 4 r.dhcpv6Iaid.toNat)
  dnsSuffixes : m.HoldsList 0 m.HoldsSuffix (node + 440) r.dnsSuffixes

/-- The list that starts at `head` holds adapters. -/
def HoldsBlock (m : Memory) (head : Option Nat) (records : List Adapter) : Prop :=
  ∃ nodes : List Nat, head = nodes.head? ∧ m.HoldsNodes 8 m.HoldsAdapter nodes records

/-! ### Lists -/

section Lists

variable {m : Memory} {β : Type} {link : Nat} {holds : Nat → β → Prop} {nodes : List Nat}
  {values : List β}

/-- The links lead through the nodes. -/
theorem HoldsNodes.lists (h : m.HoldsNodes link holds nodes values) (layout : Layout)
    (hlink : layout.offset "next" = link) : Lists (m.links layout) nodes.head? nodes := by
  refine ⟨h.nodup, fun i => ?_⟩
  induction i with
  | zero => exact fun _ => List.head?_eq_getElem?
  | succ i ih =>
    intro hi
    have htarget : ∀ t ∈ nodes[i + 1]?, IsAddress t := fun t ht =>
      h.isAddress t (List.mem_of_getElem? ht)
    rw [follow, ih (by omega), List.getElem?_eq_getElem hi, Option.bind_some, links, hlink,
      (h.linked i hi).pointer htarget]

/-- A list that ends is answered as its nodes. -/
theorem nodeAnswers_of_lists {layout : Layout} {name : String} {head : Option Nat}
    (h : Lists (m.links layout) head nodes) :
    m.nodeAnswers (layout.offset "next") name head = nodes.map .ok := by
  obtain ⟨nodes', hv, hlen⟩ := m.exists_hasNodes ⟨name, layout, head⟩
  obtain rfl : nodes = nodes' := h.visits.unique hv
  exact Walk.items_of_ends hv h.ends (by omega)

theorem HoldsNodes.forall₂ (h : m.HoldsNodes link holds nodes values) {P : Nat → β → Prop}
    (hP : ∀ node, ∀ v ∈ values, holds node v → P node v) : List.Forall₂ P nodes values := by
  obtain ⟨hlen, hget⟩ := List.forall₂_iff_get.mp h.values
  exact List.forall₂_iff_get.mpr
    ⟨hlen, fun i hi hi' => hP _ _ (List.get_mem values ⟨i, hi'⟩) (hget i hi hi')⟩

/-- Nodes that can all be read are read to their values. -/
theorem filterMap_of_forall₂ {read : Nat → Option β} {nodes : List Nat} {values : List β}
    (h : List.Forall₂ (fun node v => read node = some v) nodes values) :
    nodes.filterMap read = values := by
  induction h with
  | nil => rfl
  | cons hv _ ih => rw [List.filterMap_cons, hv, ih]

/-- Nodes that are answered and read one after the other give their values. -/
theorem mapM_of_forall₂ {f : Nat → Except Cycle β} {nodes : List Nat} {values : List β}
    (h : List.Forall₂ (fun node v => f node = .ok v) nodes values) :
    (nodes.map Except.ok).mapM (· >>= f) = .ok values := by
  induction h with
  | nil => rfl
  | cons hv _ ih =>
    rw [List.map_cons, List.mapM_cons, ih]
    simp only [bind, Except.bind, hv]
    rfl

theorem HoldsList.nil {address : Nat} (h : m.HoldsPointer address none) :
    m.HoldsList link holds address [] :=
  ⟨[], h, .nil, by simp, by simp, .nil⟩

/-- A list is read where its nodes are held. -/
theorem HoldsList.collect {address : Nat} (h : m.HoldsList link holds address values)
    (layout : Layout) (hlink : layout.offset "next" = link) {read : Nat → Option β}
    (hread : ∀ node, ∀ v ∈ values, holds node v → read node = some v) (name : String) :
    m.collect layout name (m.pointer address) read = .ok values := by
  obtain ⟨nodes, hp, h⟩ := h
  have hhead : m.pointer address = nodes.head? :=
    hp.pointer fun t ht => h.isAddress t (List.mem_of_head? ht)
  have hnodes : (nodes.map Except.ok).mapM id = (.ok nodes : Except Cycle (List Nat)) := by
    have hpure : (nodes.map Except.ok).mapM (· >>= pure) = (.ok nodes : Except Cycle (List Nat)) :=
      mapM_of_forall₂ (List.forall₂_same.mpr fun _ _ => rfl)
    simp only [bind_pure] at hpure
    exact hpure
  rw [Memory.collect, hhead, nodeAnswers_of_lists (h.lists layout hlink), hnodes,
    ← filterMap_of_forall₂ (h.forall₂ hread)]
  rfl

theorem HoldsList.sockets {address : Nat} {values : List Socket}
    (h : m.HoldsList 8 m.HoldsAddress address values) (second : String)
    (hlink : (addressNode second).offset "next" = 8)
    (haddress : (addressNode second).offset "address" = 16) (name : String) :
    m.sockets second name (m.pointer address) = .ok values := by
  refine h.collect (addressNode second) hlink (fun node s _ hs => ?_) name
  rw [haddress]
  exact HoldsSocket.socketAt hs

end Lists

/-! ### Nodes are read where they are held -/

section Read

variable {m : Memory} {node : Nat}

theorem unicastNode_offsets : unicastNode.offsets =
    [("length", 0), ("flags", 4), ("next", 8), ("address", 16), ("prefix_origin", 32),
      ("suffix_origin", 36), ("dad_state", 40), ("valid_lifetime", 44), ("preferred_lifetime", 48),
      ("lease_lifetime", 52), ("on_link_prefix_length", 56)] := rfl

theorem HoldsUnicast.unicast {u : UnicastAddress} (h : m.HoldsUnicast node u) :
    m.unicast node = some u := by
  have hbyte : m.byte (node + 56) = u.onLinkPrefixLength := (holds_cons.mp h.onLinkPrefixLength).1
  simp [Memory.unicast, Layout.offset, unicastNode_offsets, List.lookup_cons, h.address.socketAt,
    h.flags.u32, h.prefixOrigin.i32, h.suffixOrigin.i32, h.dadState.i32, h.validLifetime.u32,
    h.preferredLifetime.u32, h.leaseLifetime.u32, hbyte]

theorem HoldsPrefix.addressPrefix {p : AddressPrefix} (h : m.HoldsPrefix node p) :
    m.addressPrefix node = some p := by
  rw [Memory.addressPrefix, show prefixNode.offset "address" = 16 from rfl, h.address.socketAt,
    show prefixNode.offset "prefix_length" = 32 from rfl, h.prefixLength.u32]
  rfl

theorem HoldsSuffix.suffix {s : String} (h : m.HoldsSuffix node s) (hne : s ≠ "")
    (hs : '\x00' ∉ s.toList) (hlen : (Text.Utf16.encode s.toList).length ≤ 256) :
    m.suffix node = some s := by
  have htext : m.bufferText (node + suffixNode.offset "string") suffixCapacity = s :=
    Holds.bufferText h hlen hs
  rw [Memory.suffix, htext, if_neg hne]

/-- The members of a node of the adapters' list. -/
theorem adapterNode_offsets : adapterNode.offsets =
    [("length", 0), ("if_index", 4), ("next", 8), ("adapter_name", 16),
      ("first_unicast_address", 24), ("first_anycast_address", 32),
      ("first_multicast_address", 40), ("first_dns_server_address", 48), ("dns_suffix", 56),
      ("description", 64), ("friendly_name", 72), ("physical_address", 80),
      ("physical_address_length", 88), ("flags", 92), ("mtu", 96), ("if_type", 100),
      ("oper_status", 104), ("ipv6_if_index", 108), ("zone_indices", 112), ("first_prefix", 176),
      ("transmit_link_speed", 184), ("receive_link_speed", 192),
      ("first_wins_server_address", 200), ("first_gateway_address", 208), ("ipv4_metric", 216),
      ("ipv6_metric", 220), ("luid", 224), ("dhcpv4_server", 232), ("compartment_id", 248),
      ("network_guid", 252), ("connection_type", 268), ("tunnel_type", 272),
      ("dhcpv6_server", 280), ("dhcpv6_client_duid", 296), ("dhcpv6_client_duid_length", 428),
      ("dhcpv6_iaid", 432), ("first_dns_suffix", 440)] := rfl

theorem Holds.zoneIndices {address : Nat} {zones : Vector UInt32 16}
    (h : m.Holds address (zones.toList.flatMap fun z => leBytes 4 z.toNat)) :
    (Vector.ofFn fun i : Fin 16 => m.u32 (address + 4 * i.val)) = zones := by
  ext i hi
  have hzone := h.flatMap (fun _ => length_leBytes ..) i (by simpa using hi)
  rw [Vector.getElem_ofFn, hzone.u32, Vector.getElem_toList]

/-- A node of the adapters' list without its lists. -/
theorem HoldsAdapter.adapterAlone {r : Adapter} (h : m.HoldsAdapter node r)
    (hr : r.Representable) : m.adapterAlone node = r.withoutLists := by
  obtain ⟨code, hcode⟩ := hr.operStatus
  have hstatus : OperStatus.ofCode r.operStatus.code = r.operStatus := by
    rw [hcode, OperStatus.ofCode_code]
  have hphysical : m.octetsAt (node + 80) (m.u32 (node + 88)) = r.physicalAddress :=
    h.physicalAddress.octetsAt (h.physicalAddressLength.toNat_u32
      (r.physicalAddress.length_bytes_le.trans_lt (by decide)))
  have hduid : m.octetsAt (node + 296) (m.u32 (node + 428)) = r.dhcpv6ClientDuid :=
    h.dhcpv6ClientDuid.octetsAt (h.dhcpv6ClientDuidLength.toNat_u32
      (r.dhcpv6ClientDuid.length_bytes_le.trans_lt (by decide)))
  have hluid : m.u64 (node + 224 + luidLayout.offset "value") = r.luid.value := h.luid.u64
  simp only [Layout.offset] at hluid
  simp [Memory.adapterAlone, Adapter.withoutLists, Layout.offset, adapterNode_offsets,
    List.lookup_cons, h.ifIndex.u32, h.adapterName.byteText hr.adapterName,
    h.friendlyName.wideText hr.friendlyName, h.description.wideText hr.description,
    h.dnsSuffix.wideText hr.dnsSuffix, hr.kind, hstatus,
    h.ifType.u32, h.operStatus.u32, hphysical, h.flags.u32, h.mtu.u32, h.ipv6IfIndex.u32,
    h.zoneIndices.zoneIndices, h.transmitLinkSpeed.u64, h.receiveLinkSpeed.u64, h.ipv4Metric.u32,
    h.ipv6Metric.u32, hluid, h.compartmentId.u32, h.networkGuid.guid, h.connectionType.i32,
    h.tunnelType.i32, h.dhcpv4Server.socketAt, h.dhcpv6Server.socketAt, hduid, h.dhcpv6Iaid.u32]

/-- A node of the adapters' list with all its lists. -/
theorem HoldsAdapter.adapter {r : Adapter} (h : m.HoldsAdapter node r) (hr : r.Representable) :
    m.adapter node = .ok r := by
  have hunicast := h.unicast.collect unicastNode rfl
    (fun _ _ _ hu => HoldsUnicast.unicast hu) "unicast"
  have hprefixes := h.prefixes.collect prefixNode rfl
    (fun _ _ _ hp => HoldsPrefix.addressPrefix hp) "prefix"
  have hsuffixes := h.dnsSuffixes.collect suffixNode rfl
    (fun _ s hs hheld =>
      let ⟨hne, hnul, hlen⟩ := hr.dnsSuffixes s hs
      HoldsSuffix.suffix hheld hne hnul hlen) "dns suffix"
  have hanycast := h.anycast.sockets "flags" rfl rfl "anycast"
  have hmulticast := h.multicast.sockets "flags" rfl rfl "multicast"
  have hdns := h.dnsServers.sockets "reserved" rfl rfl "dns server"
  have hwins := h.winsServers.sockets "reserved" rfl rfl "wins server"
  have hgateways := h.gateways.sockets "reserved" rfl rfl "gateway"
  simp only [Memory.adapter, Layout.offset, adapterNode_offsets]
  simp [List.lookup_cons, hunicast, hprefixes, hsuffixes, hanycast, hmulticast, hdns, hwins,
    hgateways, h.adapterAlone hr]
  rfl

end Read

/-- Reading undoes the native encoding: a memory that holds representable records in a list of
adapters is read to exactly these records in their order. -/
theorem adapters_of_holds (m : Memory) (head : Option Nat) (records : List Adapter)
    (hrecords : ∀ r ∈ records, r.Representable) (h : m.HoldsBlock head records) :
    m.adapters head = .ok records := by
  obtain ⟨nodes, rfl, h⟩ := h
  rw [adapters, nodeAnswers_of_lists (h.lists adapterNode rfl)]
  exact mapM_of_forall₂ (h.forall₂ fun _ r hr hheld => hheld.adapter (hrecords r hr))

/-- An adapter with two addresses, a server and a suffix. -/
def sampleAdapter : Adapter where
  ifIndex := 7
  adapterName := "é"
  friendlyName := ""
  kind := .wireless
  ifType := 71
  operStatus := .other 9
  unicast := [{ address := .v4 ⟨10, 0, 0, 1⟩ 53, onLinkPrefixLength := 24 },
    { address := .v4 ⟨10, 0, 0, 1⟩ 53, flags := 1, dadState := -1 }]
  dnsServers := [.v6 ⟨#v[0xFE80, 0, 0, 0, 0, 0, 0, 1]⟩ 53 0x01020304 7]
  dnsSuffixes := ["a"]

/-- The adapter in memory. Its unicast nodes share their socket address, and the second one stands
before the first. -/
def sampleMemory : Memory := .ofPieces [
  (4096, leBytes 4 448 ++ leBytes 4 7),
  (4112, leBytes 8 4544 ++ leBytes 8 4616),
  (4144, leBytes 8 4696),
  (4196, leBytes 4 71 ++ leBytes 4 9),
  (4536, leBytes 8 4760),
  (4544, narrowBytes "é"),
  (4552, leBytes 4 64 ++ leBytes 4 1),
  (4568, leBytes 8 4680 ++ leBytes 4 16),
  (4592, leBytes 4 0xFFFFFFFF),
  (4616, leBytes 4 64),
  (4624, leBytes 8 4552 ++ leBytes 8 4680 ++ leBytes 4 16),
  (4672, [24]),
  (4680, socketBytes (.v4 ⟨10, 0, 0, 1⟩ 53)),
  (4696, leBytes 4 32),
  (4712, leBytes 8 4728 ++ leBytes 4 28),
  (4728, socketBytes (.v6 ⟨#v[0xFE80, 0, 0, 0, 0, 0, 0, 1]⟩ 53 0x01020304 7)),
  (4768, leBytes 2 97)]

/-- The adapter is read from its memory. -/
theorem adapters_of_holds_sample : (∀ r ∈ [sampleAdapter], r.Representable) ∧
    sampleMemory.HoldsBlock (some 4096) [sampleAdapter] ∧
    sampleMemory.adapters (some 4096) = .ok [sampleAdapter] := by
  have hrecords : ∀ r ∈ [sampleAdapter], r.Representable := by
    rintro r hr
    obtain rfl := List.mem_singleton.mp hr
    exact {
      kind := rfl
      operStatus := ⟨9, rfl⟩
      adapterName := by decide
      friendlyName := by decide
      description := by decide
      dnsSuffix := by decide
      dnsSuffixes := by decide }
  have hv4 : sampleMemory.Holds 4680 (socketBytes (.v4 ⟨10, 0, 0, 1⟩ 53)) := by decide +kernel
  have hunicast : sampleMemory.HoldsList 8 sampleMemory.HoldsUnicast 4120 sampleAdapter.unicast := by
    refine ⟨[4616, 4552], by decide +kernel, by decide, by decide, by decide +kernel,
      .cons ?_ (.cons ?_ .nil)⟩
    all_goals
      constructor
      case address =>
        exact ⟨4680, 16, by decide, by decide +kernel, by decide +kernel, by decide, hv4⟩
      all_goals decide +kernel
  have hservers : sampleMemory.HoldsList 8 sampleMemory.HoldsAddress 4144 sampleAdapter.dnsServers :=
    ⟨[4696], by decide +kernel, by decide, by decide, by decide +kernel,
      .cons ⟨4728, 28, by decide, by decide +kernel, by decide +kernel, by decide,
        by decide +kernel⟩ .nil⟩
  have hsuffixes : sampleMemory.HoldsList 0 sampleMemory.HoldsSuffix 4536 sampleAdapter.dnsSuffixes :=
    ⟨[4760], by decide +kernel, by decide, by decide, by decide +kernel,
      .cons (show Holds _ _ _ by decide +kernel) .nil⟩
  have hadapter : sampleMemory.HoldsAdapter 4096 sampleAdapter := by
    constructor
    case adapterName => exact Or.inr ⟨4544, by decide, by decide +kernel, by decide +kernel⟩
    case unicast => exact hunicast
    case dnsServers => exact hservers
    case dnsSuffixes => exact hsuffixes
    case anycast | multicast | prefixes | winsServers | gateways => exact .nil (by decide +kernel)
    case dnsSuffix | description | friendlyName => exact Or.inl ⟨rfl, by decide +kernel⟩
    case dhcpv4Server | dhcpv6Server => exact (show HoldsPointer _ _ _ by decide +kernel)
    all_goals decide +kernel
  have h : sampleMemory.HoldsBlock (some 4096) [sampleAdapter] :=
    ⟨[4096], rfl, by decide, by decide, by decide +kernel, .cons hadapter .nil⟩
  exact ⟨hrecords, h, adapters_of_holds _ _ _ hrecords h⟩

end Memory

end Native

end HostDns
