import HostDns.Proofs.Native.RoundTrip

/-!
Which bytes of a block count.

Two memories have the same content if they agree on these, wherever they stand: the members of the
adapters that are reached and of the nodes of their lists, a fixed buffer up to its stated length or
its capacity, a text up to its NUL, and a socket address as far as its length and its family cover
it. All other bytes may differ, and where the memories end does not matter.

What of a block counts is told by the first memory alone; what tells how far the content goes is
itself a part of it. Values and nodes of the same content are read to the same.
-/

namespace HostDns

namespace Native

/-- The nodes that a reading comes to from a head, where it goes on behind some nodes only. -/
inductive Meets {α : Type} (link : α → Option α) (goesOn : α → Prop) : Option α → α → Prop
  | here (a : α) : Meets link goesOn (some a) a
  | later {a b : α} (hon : goesOn a) (hrest : Meets link goesOn (link a) b) :
      Meets link goesOn (some a) b

namespace Memory

/-! ### The same content -/

/-- So many bytes from an address on are the same in both memories. -/
def Same (m m' : Memory) (address count : Nat) : Prop :=
  ∀ i < count, m'.byte (address + i) = m.byte (address + i)

instance (m m' : Memory) (address count : Nat) : Decidable (m.Same m' address count) :=
  inferInstanceAs (Decidable (∀ i < count, _))

/-- The bytes up to a NUL, with that. -/
def SameBytesToNul (m m' : Memory) (address : Nat) : Prop :=
  ∃ n, m.byte (address + n) = 0 ∧ m.Same m' address (n + 1)

/-- The units up to a NUL, with that. -/
def SameUnitsToNul (m m' : Memory) (address : Nat) : Prop :=
  ∃ n, m.u16 (address + 2 * n) = 0 ∧ m.Same m' address (2 * n + 2)

/-- The units of a buffer: all of them, or those up to a NUL, with that. -/
def SameBuffer (m m' : Memory) (address capacity : Nat) : Prop :=
  m.Same m' address (2 * capacity) ∨
    ∃ n < capacity, m.u16 (address + 2 * n) = 0 ∧ m.Same m' address (2 * n + 2)

/-- A pointer, and the text that it leads to. -/
def SameText (m m' : Memory) (address : Nat) (text : Nat → Prop) : Prop :=
  m.Same m' address 8 ∧ ∀ target ∈ m.pointer address, text target

/-- A socket address of a stated length: the family if the length covers it, and the rest only for a
known family whose structure the length covers. An IPv4 one ends with eight unused bytes. -/
structure SameSocket (m m' : Memory) (target : Nat) (length : Int) : Prop where
  family : 2 ≤ length → m.Same m' target 2
  ipv4 : 16 ≤ length → m.u16 target = 2 → m.Same m' (target + 2) 6
  ipv6 : 28 ≤ length → m.u16 target = 23 → m.Same m' (target + 2) 26

instance (m m' : Memory) (target : Nat) (length : Int) :
    Decidable (m.SameSocket m' target length) :=
  decidable_of_iff ((2 ≤ length → m.Same m' target 2) ∧
      (16 ≤ length → m.u16 target = 2 → m.Same m' (target + 2) 6) ∧
      (28 ≤ length → m.u16 target = 23 → m.Same m' (target + 2) 26))
    ⟨fun ⟨h, h4, h6⟩ => ⟨h, h4, h6⟩, fun ⟨h, h4, h6⟩ => ⟨h, h4, h6⟩⟩

/-- A pointer to a socket address and, unless it is null, the stated length and what that and the
family cover. -/
structure SameSocketAt (m m' : Memory) (address : Nat) : Prop where
  pointer : m.Same m' address 8
  target : ∀ t ∈ m.pointer address,
    m.Same m' (address + 8) 4 ∧ m.SameSocket m' t (m.i32 (address + 8)).toInt

instance (m m' : Memory) (address : Nat) : Decidable (m.SameSocketAt m' address) :=
  decidable_of_iff (m.Same m' address 8 ∧ ∀ t ∈ m.pointer address,
      m.Same m' (address + 8) 4 ∧ m.SameSocket m' t (m.i32 (address + 8)).toInt)
    ⟨fun ⟨hp, ht⟩ => ⟨hp, ht⟩, fun ⟨hp, ht⟩ => ⟨hp, ht⟩⟩

/-- A node of a list of sockets: its link and its socket. -/
structure SameAddress (m m' : Memory) (node : Nat) : Prop where
  next : m.Same m' (node + 8) 8
  address : m.SameSocketAt m' (node + 16)

/-- A node of a unicast list. -/
structure SameUnicast (m m' : Memory) (node : Nat) : Prop extends m.SameAddress m' node where
  flags : m.Same m' (node + 4) 4
  /-- From the origin of the prefix to the length of the prefix on the link. -/
  state : m.Same m' (node + 32) 25

/-- A node of a prefix list. -/
structure SamePrefix (m m' : Memory) (node : Nat) : Prop extends m.SameAddress m' node where
  prefixLength : m.Same m' (node + 32) 4

/-- A node of a suffix list. -/
structure SameSuffix (m m' : Memory) (node : Nat) : Prop where
  next : m.Same m' node 8
  text : m.SameBuffer m' (node + 8) 256

/-- A pointer, and the nodes of the list that it leads to. -/
def SameList (m m' : Memory) (layout : Layout) (address : Nat) (node : Nat → Prop) : Prop :=
  m.Same m' address 8 ∧
    ∀ n, Meets (m.links layout) (fun _ => True) (m.pointer address) n → node n

/-- The first lists of an adapter end, as many as are counted. -/
def ListsEnd (m : Memory) (node count : Nat) : Prop :=
  ∀ l ∈ (m.listsOf node).take count, ¬ m.IsCyclic l

/-- A node of the adapters' list, with its texts and sockets and with the lists that are walked: one
that runs into itself is the last one. -/
structure SameAdapter (m m' : Memory) (node : Nat) : Prop where
  ifIndex : m.Same m' (node + 4) 4
  next : m.Same m' (node + 8) 8
  adapterName : m.SameText m' (node + 16) (m.SameBytesToNul m')
  dnsSuffix : m.SameText m' (node + 56) (m.SameUnitsToNul m')
  description : m.SameText m' (node + 64) (m.SameUnitsToNul m')
  friendlyName : m.SameText m' (node + 72) (m.SameUnitsToNul m')
  physicalAddress : m.Same m' (node + 80) (min (m.u32 (node + 88)).toNat 8)
  /-- From the length of the physical address to the zone indices. -/
  state : m.Same m' (node + 88) 88
  linkSpeeds : m.Same m' (node + 184) 16
  metricsAndLuid : m.Same m' (node + 216) 16
  dhcpv4Server : m.SameSocketAt m' (node + 232)
  /-- From the compartment to the tunnel type. -/
  network : m.Same m' (node + 248) 28
  dhcpv6Server : m.SameSocketAt m' (node + 280)
  dhcpv6ClientDuid : m.Same m' (node + 296) (min (m.u32 (node + 428)).toNat 130)
  duidLengthAndIaid : m.Same m' (node + 428) 8
  unicast : m.SameList m' unicastNode (node + 24) (m.SameUnicast m')
  anycast : m.ListsEnd node 1 →
    m.SameList m' (addressNode "flags") (node + 32) (m.SameAddress m')
  multicast : m.ListsEnd node 2 →
    m.SameList m' (addressNode "flags") (node + 40) (m.SameAddress m')
  dnsServers : m.ListsEnd node 3 →
    m.SameList m' (addressNode "reserved") (node + 48) (m.SameAddress m')
  prefixes : m.ListsEnd node 4 → m.SameList m' prefixNode (node + 176) (m.SamePrefix m')
  winsServers : m.ListsEnd node 5 →
    m.SameList m' (addressNode "reserved") (node + 200) (m.SameAddress m')
  gateways : m.ListsEnd node 6 →
    m.SameList m' (addressNode "reserved") (node + 208) (m.SameAddress m')
  dnsSuffixes : m.ListsEnd node 7 → m.SameList m' suffixNode (node + 440) (m.SameSuffix m')

/-- The adapters that are reached from a head: all up to the first one with a list that runs into
itself. -/
def SameBlock (m m' : Memory) (head : Option Nat) : Prop :=
  ∀ node, Meets (m.links adapterNode) (fun a => ∀ l ∈ m.listsOf a, ¬ m.IsCyclic l) head node →
    m.SameAdapter m' node

/-! ### Values are read the same -/

section Values

variable {m m' : Memory} {address count : Nat}

theorem Same.part (h : m.Same m' address count) {a k : Nat} (ha : address ≤ a)
    (hk : a + k ≤ address + count) : m.Same m' a k := by
  intro i hi
  have hbyte := h (a - address + i) (by omega)
  rwa [show address + (a - address + i) = a + i by omega] at hbyte

theorem Same.byte (h : m.Same m' address 1) : m'.byte address = m.byte address := h 0 Nat.one_pos

theorem Same.bytes (h : m.Same m' address count) :
    m'.bytes address count = m.bytes address count :=
  List.map_congr_left fun i hi => h i (List.mem_range.mp hi)

theorem Same.u16 (h : m.Same m' address 2) : m'.u16 address = m.u16 address := by
  rw [Memory.u16, Memory.u16, h.bytes]

theorem Same.u32 (h : m.Same m' address 4) : m'.u32 address = m.u32 address := by
  rw [Memory.u32, Memory.u32, h.bytes]

theorem Same.u64 (h : m.Same m' address 8) : m'.u64 address = m.u64 address := by
  rw [Memory.u64, Memory.u64, h.bytes]

theorem Same.i32 (h : m.Same m' address 4) : m'.i32 address = m.i32 address := by
  rw [Memory.i32, Memory.i32, h.u32]

theorem Same.pointer (h : m.Same m' address 8) : m'.pointer address = m.pointer address := by
  rw [Memory.pointer, Memory.pointer, h.bytes]

theorem Same.units (h : m.Same m' address (2 * count)) :
    m'.units address count = m.units address count := by
  refine List.map_congr_left fun i hi => Same.u16 (h.part (by omega) ?_)
  have := List.mem_range.mp hi
  omega

theorem SameBytesToNul.bytesToNul (h : m.SameBytesToNul m' address) :
    m'.bytesToNul address = m.bytesToNul address := by
  obtain ⟨n, hnul, h⟩ := h
  have hnul' : m'.byte (address + n) = 0 := (h n (Nat.lt_succ_self n)).trans hnul
  rw [bytesToNul_eq hnul', bytesToNul_eq hnul, h.bytes]

theorem SameUnitsToNul.unitsToNul (h : m.SameUnitsToNul m' address) :
    m'.unitsToNul address = m.unitsToNul address := by
  obtain ⟨n, hnul, h⟩ := h
  have hnul' : m'.u16 (address + 2 * n) = 0 := (h.part (by omega) (by omega)).u16.trans hnul
  have hunits : m'.units address (n + 1) = m.units address (n + 1) := Same.units h
  rw [unitsToNul_eq hnul', unitsToNul_eq hnul, hunits]

/-- The text of a buffer with a NUL ends there. -/
theorem takeWhile_units_of_nul {capacity n : Nat} (hn : n < capacity)
    (hnul : m.u16 (address + 2 * n) = 0) :
    (m.units address capacity).takeWhile (· ≠ 0) = (m.units address (n + 1)).takeWhile (· ≠ 0) := by
  obtain ⟨k, rfl⟩ := Nat.exists_eq_add_of_le (Nat.succ_le_of_lt hn)
  have hzero : (m.u16 (address + 2 * n)) ∈ m.units address (n + 1) :=
    List.mem_map.mpr ⟨n, List.mem_range.mpr (Nat.lt_succ_self n), rfl⟩
  have hshort : ((m.units address (n + 1)).takeWhile (· ≠ 0)).length ≠
      (m.units address (n + 1)).length := by
    intro hlen
    have hall := List.takeWhile_eq_self_iff.mp ((List.takeWhile_prefix _).eq_of_length hlen)
    exact absurd hnul (by simpa using hall _ hzero)
  rw [Memory.units, List.range_add, List.map_append, ← Memory.units, List.takeWhile_append,
    if_neg hshort]

/-- The text of a buffer does not depend on what follows a NUL. -/
theorem SameBuffer.bufferText {capacity : Nat} (h : m.SameBuffer m' address capacity) :
    m'.bufferText address capacity = m.bufferText address capacity := by
  rw [Memory.bufferText, Memory.bufferText]
  rcases h with hall | ⟨n, hn, hnul, h⟩
  · rw [hall.units]
  · have hnul' : m'.u16 (address + 2 * n) = 0 :=
      (h.part (by omega) (by omega)).u16.trans hnul
    have hunits : m'.units address (n + 1) = m.units address (n + 1) := Same.units h
    rw [takeWhile_units_of_nul hn hnul', takeWhile_units_of_nul hn hnul, hunits]

/-- A reader of texts reads the same text if it does so from what the pointer leads to. -/
theorem SameText.read {content : Nat → Prop} {text text' : Option Nat → String}
    (h : m.SameText m' address content) (hnull : text' none = text none)
    (hcontent : ∀ target, content target → text' (some target) = text (some target)) :
    text' (m'.pointer address) = text (m.pointer address) := by
  obtain ⟨hpointer, htext⟩ := h
  rw [hpointer.pointer]
  rcases hp : m.pointer address with _ | target
  · exact hnull
  · exact hcontent target (htext target hp)

theorem SameText.byteText (h : m.SameText m' address (m.SameBytesToNul m')) :
    m'.byteText (m'.pointer address) = m.byteText (m.pointer address) :=
  h.read rfl fun _ htext => by rw [Memory.byteText, Memory.byteText, htext.bytesToNul]

theorem SameText.wideText (h : m.SameText m' address (m.SameUnitsToNul m')) :
    m'.wideText (m'.pointer address) = m.wideText (m.pointer address) :=
  h.read rfl fun _ htext => by rw [Memory.wideText, Memory.wideText, htext.unitsToNul]

theorem Same.octetsAt {capacity : UInt8} {stated : UInt32}
    (h : m.Same m' address (min stated.toNat capacity.toNat)) :
    (m'.octetsAt address stated : Octets capacity) = m.octetsAt address stated := by
  rw [Memory.octetsAt, Memory.octetsAt, h.bytes]

theorem socket_of_length_lt {length : Int32} (h : length.toInt < 2) (target : Option Nat) :
    m.socket target length = none := by
  have hguard : ¬ (socketAny.offset "sa_data" : Int) ≤ length.toInt := by
    rw [show socketAny.offset "sa_data" = 2 from rfl]
    omega
  rcases target with _ | t
  · rfl
  · simp [Memory.socket, hguard]

/-- Only what the family and the stated length cover counts. -/
theorem SameSocket.socket {target : Nat} {length : Int32}
    (h : m.SameSocket m' target length.toInt) :
    m'.socket (some target) length = m.socket (some target) length := by
  by_cases hlength : 2 ≤ length.toInt
  · have hfamily := (h.family hlength).u16
    have hguard : (socketAny.offset "sa_data" : Int) ≤ length.toInt := hlength
    have hfamily : m'.u16 (target + socketAny.offset "sa_family") =
        m.u16 (target + socketAny.offset "sa_family") := hfamily
    simp only [Memory.socket, bind, Option.bind, guard, if_pos hguard, hfamily, pure]
    split_ifs with h4 h6
    · have hsame : m.Same m' (target + 2) 6 := h.ipv4 h4.2 h4.1
      have hport : m'.bytes (target + socketIpv4.offset "sin_port") 2 =
          m.bytes (target + socketIpv4.offset "sin_port") 2 := (hsame.part le_rfl (by omega)).bytes
      have haddress : m'.bytes (target + socketIpv4.offset "sin_addr") 4 =
          m.bytes (target + socketIpv4.offset "sin_addr") 4 :=
        Same.bytes (show m.Same m' (target + 4) 4 from hsame.part (by omega) (by omega))
      rw [hport, haddress]
    · have hsame : m.Same m' (target + 2) 26 := h.ipv6 h6.2 h6.1
      have hport : m'.bytes (target + socketIpv6.offset "sin6_port") 2 =
          m.bytes (target + socketIpv6.offset "sin6_port") 2 := (hsame.part le_rfl (by omega)).bytes
      have hflow : m'.bytes (target + socketIpv6.offset "sin6_flowinfo") 4 =
          m.bytes (target + socketIpv6.offset "sin6_flowinfo") 4 :=
        Same.bytes (show m.Same m' (target + 4) 4 from hsame.part (by omega) (by omega))
      have hgroups : ∀ i : Fin 8, m'.bytes (target + socketIpv6.offset "sin6_addr" + 2 * i.val) 2 =
          m.bytes (target + socketIpv6.offset "sin6_addr" + 2 * i.val) 2 := fun i =>
        Same.bytes (show m.Same m' (target + 8 + 2 * i.val) 2 from
          hsame.part (by omega) (by omega))
      have hscope : m'.u32 (target + socketIpv6.offset "sin6_scope_id") =
          m.u32 (target + socketIpv6.offset "sin6_scope_id") :=
        Same.u32 (show m.Same m' (target + 24) 4 from hsame.part (by omega) (by omega))
      simp only [hport, hflow, hgroups, hscope]
    · rfl
  · rw [socket_of_length_lt (by omega), socket_of_length_lt (by omega)]

theorem SameSocketAt.socketAt (h : m.SameSocketAt m' address) :
    m'.socketAt address = m.socketAt address := by
  rw [Memory.socketAt, Memory.socketAt, show socketPointer.offset "sockaddr" = 0 from rfl,
    show socketPointer.offset "sockaddr_length" = 8 from rfl, Nat.add_zero, h.pointer.pointer]
  rcases hp : m.pointer address with _ | target
  · rfl
  · obtain ⟨hlength, hsocket⟩ := h.target target hp
    rw [hlength.i32, hsocket.socket]

end Values

/-! ### Nodes are read the same -/

section Nodes

variable {m m' : Memory} {node : Nat}

theorem SameAddress.socketAt (h : m.SameAddress m' node) (second : String)
    (hoffset : (addressNode second).offset "address" = 16) :
    m'.socketAt (node + (addressNode second).offset "address") =
      m.socketAt (node + (addressNode second).offset "address") := by
  rw [hoffset]
  exact h.address.socketAt

/-- A node of a unicast list is read the same. -/
theorem SameUnicast.unicast (h : m.SameUnicast m' node) : m'.unicast node = m.unicast node := by
  have hnumber : ∀ a, node + 32 ≤ a → a ≤ node + 52 → m'.u32 a = m.u32 a := fun a hle hge =>
    Same.u32 (h.state.part hle (by omega))
  have hsigned : ∀ a, node + 32 ≤ a → a ≤ node + 52 → m'.i32 a = m.i32 a := fun a hle hge =>
    Same.i32 (h.state.part hle (by omega))
  have hbyte : m'.byte (node + 56) = m.byte (node + 56) :=
    Same.byte (h.state.part (by omega) (by omega))
  simp [Memory.unicast, Layout.offset, unicastNode_offsets, List.lookup_cons, h.address.socketAt,
    h.flags.u32, hsigned, hnumber, hbyte]

theorem SamePrefix.addressPrefix (h : m.SamePrefix m' node) :
    m'.addressPrefix node = m.addressPrefix node := by
  rw [Memory.addressPrefix, Memory.addressPrefix, show prefixNode.offset "address" = 16 from rfl,
    show prefixNode.offset "prefix_length" = 32 from rfl, h.address.socketAt, h.prefixLength.u32]

theorem SameSuffix.suffix (h : m.SameSuffix m' node) : m'.suffix node = m.suffix node := by
  have htext : m'.bufferText (node + suffixNode.offset "string") suffixCapacity =
      m.bufferText (node + suffixNode.offset "string") suffixCapacity := h.text.bufferText
  rw [Memory.suffix, Memory.suffix, htext]

/-- A globally unique identifier is read the same. -/
theorem Same.guid {address : Nat} (h : m.Same m' address 16) :
    m'.guid address = m.guid address := by
  have hdata4 : ∀ i : Fin 8, m'.byte (address + 8 + i.val) = m.byte (address + 8 + i.val) :=
    fun i => Same.byte (h.part (by omega) (by omega))
  have hdata1 : m'.u32 address = m.u32 address := Same.u32 (h.part (by omega) (by omega))
  have hdata2 : m'.u16 (address + 4) = m.u16 (address + 4) :=
    Same.u16 (h.part (by omega) (by omega))
  have hdata3 : m'.u16 (address + 6) = m.u16 (address + 6) :=
    Same.u16 (h.part (by omega) (by omega))
  simp [Memory.guid, Layout.offset, guidLayout_offsets, List.lookup_cons, hdata1, hdata2, hdata3,
    hdata4]

/-- An adapter is read the same as far as its node tells without its lists. -/
theorem SameAdapter.adapterAlone (h : m.SameAdapter m' node) :
    m'.adapterAlone node = m.adapterAlone node := by
  have hnumber : ∀ a, node + 88 ≤ a → a ≤ node + 172 → m'.u32 a = m.u32 a := fun a hle hge =>
    Same.u32 (h.state.part hle (by omega))
  have hzones : ∀ i : Fin 16, m'.u32 (node + 112 + 4 * i.val) = m.u32 (node + 112 + 4 * i.val) :=
    fun i => hnumber _ (by omega) (by omega)
  have hspeed : ∀ a, node + 184 ≤ a → a ≤ node + 192 → m'.u64 a = m.u64 a := fun a hle hge =>
    Same.u64 (h.linkSpeeds.part hle (by omega))
  have hmetric : ∀ a, node + 216 ≤ a → a ≤ node + 220 → m'.u32 a = m.u32 a := fun a hle hge =>
    Same.u32 (h.metricsAndLuid.part hle (by omega))
  have hluid : m'.u64 (node + 224 + luidLayout.offset "value") =
      m.u64 (node + 224 + luidLayout.offset "value") :=
    Same.u64 (show m.Same m' (node + 224) 8 from h.metricsAndLuid.part (by omega) (by omega))
  have hcompartment : m'.u32 (node + 248) = m.u32 (node + 248) :=
    Same.u32 (h.network.part (by omega) (by omega))
  have hguid : m'.guid (node + 252) = m.guid (node + 252) :=
    Same.guid (h.network.part (by omega) (by omega))
  have hconnection : m'.i32 (node + 268) = m.i32 (node + 268) :=
    Same.i32 (h.network.part (by omega) (by omega))
  have htunnel : m'.i32 (node + 272) = m.i32 (node + 272) :=
    Same.i32 (h.network.part (by omega) (by omega))
  have hduidLength : m'.u32 (node + 428) = m.u32 (node + 428) :=
    Same.u32 (h.duidLengthAndIaid.part (by omega) (by omega))
  have hiaid : m'.u32 (node + 432) = m.u32 (node + 432) :=
    Same.u32 (h.duidLengthAndIaid.part (by omega) (by omega))
  have hphysical : (m'.octetsAt (node + 80) (m.u32 (node + 88)) : PhysicalAddress) =
      m.octetsAt (node + 80) (m.u32 (node + 88)) := h.physicalAddress.octetsAt
  have hduid : (m'.octetsAt (node + 296) (m.u32 (node + 428)) : Duid) =
      m.octetsAt (node + 296) (m.u32 (node + 428)) := h.dhcpv6ClientDuid.octetsAt
  simp only [Layout.offset] at hluid
  simp [Memory.adapterAlone, Layout.offset, adapterNode_offsets, List.lookup_cons, h.ifIndex.u32,
    h.adapterName.byteText, h.friendlyName.wideText, h.description.wideText, h.dnsSuffix.wideText,
    hnumber, hzones, hspeed, hmetric, hluid, hcompartment, hguid, hconnection, htunnel, hduidLength,
    hiaid, hphysical, hduid, h.dhcpv4Server.socketAt, h.dhcpv6Server.socketAt]

end Nodes

end Memory

end Native

end HostDns
