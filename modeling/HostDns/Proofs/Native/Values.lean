import HostDns.Native.Block
import HostDns.Proofs.Adapter.Identifier
import HostDns.Proofs.Native.Bytes
import HostDns.Proofs.Text.Utf16
import HostDns.Proofs.Text.Utf8
import Mathlib.Data.List.TakeWhile

/-!
Texts, socket addresses, fixed buffers and identifiers as the bytes that a little-endian system keeps
of them, and that they are read where these are held.

A text ends at its NUL, wherever that stands, and in a fixed buffer also at the end of that. A socket
address is as long as the structure of its family or longer.
-/

namespace HostDns

namespace Native

/-- The bytes of units, one unit after the other. -/
def unitBytes (units : List UInt16) : List UInt8 := units.flatMap fun u => leBytes 2 u.toNat

/-- A text as UTF-16 with a NUL behind it. -/
def wideBytes (s : String) : List UInt8 := unitBytes (Text.Utf16.encode s.toList ++ [0])

/-- A text as UTF-8 with a NUL behind it. -/
def narrowBytes (s : String) : List UInt8 := Text.Utf8.encode s.toList ++ [0]

/-- A text as UTF-16 in a buffer, with a NUL behind it unless it fills the buffer. -/
def bufferBytes (capacity : Nat) (s : String) : List UInt8 :=
  unitBytes ((Text.Utf16.encode s.toList ++ [0]).take capacity)

/-- The structure of a socket address: the family, the port, and the address with what belongs to it.
Ports, addresses and flow information stand with their highest byte first. -/
def socketBytes : Socket → List UInt8
  | .v4 ⟨a, b, c, d⟩ port => leBytes 2 2 ++ beBytes 2 port.toNat ++ [a, b, c, d]
  | .v6 address port flowInfo scope =>
    leBytes 2 23 ++ beBytes 2 port.toNat ++ beBytes 4 flowInfo.toNat ++
      address.groups.toList.flatMap (fun group => beBytes 2 group.toNat) ++ leBytes 4 scope.toNat

/-- The size of the structure of a socket address, which may end with unused bytes. -/
def socketSize : Socket → Int
  | .v4 .. => 16
  | .v6 .. => 28

/-- A globally unique identifier. -/
def guidBytes (g : Guid) : List UInt8 :=
  leBytes 4 g.data1.toNat ++ leBytes 2 g.data2.toNat ++ leBytes 2 g.data3.toNat ++ g.data4.toList

namespace Memory

/-- The pointer at an address leads to the content of a text, or is null where the text is empty. -/
def HoldsText (m : Memory) (address : Nat) (s : String) (content : List UInt8) : Prop :=
  (s = "" ∧ m.HoldsPointer address none) ∨
    ∃ target, IsAddress target ∧ m.HoldsPointer address (some target) ∧ m.Holds target content

/-- The pointer at an address leads to a socket address, and a length that covers it is stated behind
the pointer. -/
def HoldsSocket (m : Memory) (address : Nat) (s : Socket) : Prop :=
  ∃ target, ∃ length : Int32, IsAddress target ∧ m.HoldsPointer address (some target) ∧
    m.Holds (address + 8) (leBytes 4 length.toUInt32.toNat) ∧ socketSize s ≤ length.toInt ∧
    m.Holds target (socketBytes s)

/-- The pointer at an address leads to a socket address, or is null without one. -/
def HoldsServer (m : Memory) (address : Nat) : Option Socket → Prop
  | none => m.HoldsPointer address none
  | some s => m.HoldsSocket address s

variable {m : Memory} {address : Nat}

/-! ### Texts -/

/-- The units that are held. -/
theorem Holds.units {us : List UInt16} (h : m.Holds address (unitBytes us)) :
    m.units address us.length = us := by
  refine List.ext_getElem (by simp [Memory.units]) fun i _ hi => ?_
  simp only [Memory.units, List.getElem_map, List.getElem_range]
  exact (Holds.flatMap (fun _ => length_leBytes ..) h i hi).u16

theorem Holds.bytesToNul {bs : List UInt8} (hne : ∀ b ∈ bs, b ≠ 0)
    (h : m.Holds address (bs ++ [0])) : m.bytesToNul address = bs := by
  have hnul : m.byte (address + bs.length) = 0 := by simp [h.byte]
  rw [Holds, List.length_append, List.length_singleton] at h
  rw [bytesToNul_eq hnul, h, takeWhile_concat_zero hne]

theorem Holds.unitsToNul {us : List UInt16} (hne : ∀ u ∈ us, u ≠ 0)
    (h : m.Holds address (unitBytes (us ++ [0]))) : m.unitsToNul address = us := by
  have hunits := h.units
  rw [List.length_append, List.length_singleton] at hunits
  have hnul : m.u16 (address + 2 * us.length) = 0 := by
    have hlast := congrArg (·[us.length]?) hunits
    simpa [Memory.units] using hlast
  rw [unitsToNul_eq hnul, hunits, takeWhile_concat_zero hne]

/-- A reader of texts, to which a null pointer is the empty one, reads a text that it reads from its
content. -/
theorem HoldsText.read {s : String} {content : List UInt8} {text : Option Nat → String}
    (h : m.HoldsText address s content) (hnull : text none = "")
    (hcontent : ∀ target, m.Holds target content → text (some target) = s) :
    text (m.pointer address) = s := by
  rcases h with ⟨rfl, hpointer⟩ | ⟨target, htarget, hpointer, htext⟩
  · rw [hpointer.pointer (by simp), hnull]
  · rw [hpointer.pointer (by simpa using htarget), hcontent target htext]

theorem HoldsText.byteText {s : String} (h : m.HoldsText address s (narrowBytes s))
    (hs : '\x00' ∉ s.toList) : m.byteText (m.pointer address) = s :=
  h.read rfl fun target htext => by
    rw [Memory.byteText, htext.bytesToNul fun _ hb => Text.Utf8.ne_zero_of_mem_encode hs hb,
      Text.Utf8.decode_encode, String.ofList_toList]

theorem HoldsText.wideText {s : String} (h : m.HoldsText address s (wideBytes s))
    (hs : '\x00' ∉ s.toList) : m.wideText (m.pointer address) = s :=
  h.read rfl fun target htext => by
    rw [Memory.wideText, htext.unitsToNul fun _ hu => Text.Utf16.ne_zero_of_mem_encode hs hu,
      Text.Utf16.decode_encode, String.ofList_toList]

/-- The units of a buffer up to its first NUL or its end. -/
theorem Holds.takeWhile_units {capacity : Nat} {us : List UInt16} (hlen : us.length ≤ capacity)
    (hne : ∀ u ∈ us, u ≠ 0) (h : m.Holds address (unitBytes ((us ++ [0]).take capacity))) :
    (m.units address capacity).takeWhile (· ≠ 0) = us := by
  rcases Nat.eq_or_lt_of_le hlen with rfl | hlt
  · rw [List.take_left] at h
    rw [h.units, List.takeWhile_eq_self_iff]
    simpa using hne
  · -- the NUL is within the buffer, and what follows it does not matter
    have hfits : (us ++ [0]).length ≤ capacity := by
      rw [List.length_append]
      exact hlt
    rw [List.take_of_length_le hfits] at h
    have hunits := h.units
    obtain ⟨k, rfl⟩ := Nat.exists_eq_add_of_le hfits
    rw [Memory.units, List.range_add, List.map_append, ← Memory.units, hunits, List.append_assoc,
      List.takeWhile_append_of_pos (by simpa using hne)]
    simp

/-- A text of a buffer is read where it is held. -/
theorem Holds.bufferText {capacity : Nat} {s : String} (h : m.Holds address (bufferBytes capacity s))
    (hlen : (Text.Utf16.encode s.toList).length ≤ capacity) (hs : '\x00' ∉ s.toList) :
    m.bufferText address capacity = s := by
  rw [Memory.bufferText, h.takeWhile_units hlen fun _ hu => Text.Utf16.ne_zero_of_mem_encode hs hu,
    Text.Utf16.decode_encode, String.ofList_toList]

/-! ### Buffers and identifiers -/

theorem Holds.octetsAt {capacity : UInt8} {o : Octets capacity} (h : m.Holds address o.bytes)
    {stated : UInt32} (hstated : stated.toNat = o.bytes.length) :
    m.octetsAt address stated = o := by
  rw [Memory.octetsAt, hstated, Nat.min_eq_left o.length_bytes_le, h, Octets.ofBytes_bytes]

theorem guidLayout_offsets :
    guidLayout.offsets = [("data1", 0), ("data2", 4), ("data3", 6), ("data4", 8)] := rfl

theorem Holds.guid {g : Guid} (h : m.Holds address (guidBytes g)) : m.guid address = g := by
  simp only [guidBytes, holds_append, List.length_append, length_leBytes] at h
  obtain ⟨⟨⟨h1, h2⟩, h3⟩, h4⟩ := h
  have hdata4 : (Vector.ofFn fun i : Fin 8 => m.byte (address + 8 + i.val)) = g.data4 := by
    ext i hi
    rw [Vector.getElem_ofFn, h4.byte (by simpa using hi), Vector.getElem_toList]
  simp [Memory.guid, Layout.offset, guidLayout_offsets, List.lookup_cons, h1.u32, h2.u16, h3.u16,
    hdata4]

/-! ### Socket addresses -/

theorem socketAny_offsets : socketAny.offsets = [("sa_family", 0), ("sa_data", 2)] := rfl

theorem socketIpv4_offsets : socketIpv4.offsets =
    [("sin_family", 0), ("sin_port", 2), ("sin_addr", 4), ("sin_zero", 8)] := rfl

theorem socketIpv6_offsets : socketIpv6.offsets =
    [("sin6_family", 0), ("sin6_port", 2), ("sin6_flowinfo", 4), ("sin6_addr", 8),
      ("sin6_scope_id", 24)] := rfl

/-- An IPv4 socket address is read where it is held. -/
theorem Holds.socket_v4 {a : Ipv4} {port : UInt16} (h : m.Holds address (socketBytes (.v4 a port)))
    {length : Int32} (hlength : 16 ≤ length.toInt) :
    m.socket (some address) length = some (.v4 a port) := by
  simp only [socketBytes, holds_append, List.length_append, length_leBytes, length_beBytes] at h
  obtain ⟨⟨hfamily, hport⟩, haddress⟩ := h
  have hfamily : m.u16 address = familyIpv4 := hfamily.u16 (v := 2)
  have hport : m.bytes (address + 2) 2 = beBytes 2 port.toNat := hport
  have haddress : m.bytes (address + 4) 4 = [a.a, a.b, a.c, a.d] := haddress
  have hguard : 2 ≤ length.toInt := by omega
  have hsize : socketIpv4.size ≤ length.toInt := hlength
  simp [socket, Layout.offset, socketAny_offsets, socketIpv4_offsets, List.lookup_cons, hguard,
    hfamily, hsize, hport, haddress, ofNat_bigEndian_two]

theorem length_groupBytes (a : Ipv6) :
    (a.groups.toList.flatMap fun group => beBytes 2 group.toNat).length = 16 := by
  simp [List.length_flatMap]

theorem Holds.groups {a : Ipv6}
    (h : m.Holds address (a.groups.toList.flatMap fun group => beBytes 2 group.toNat)) :
    (Vector.ofFn fun i : Fin 8 => UInt16.ofNat (bigEndian (m.bytes (address + 2 * i.val) 2))) =
      a.groups := by
  ext i hi
  have hgroup := h.flatMap (fun _ => length_beBytes ..) i (by simpa using hi)
  rw [Holds, length_beBytes, Vector.getElem_toList] at hgroup
  rw [Vector.getElem_ofFn, hgroup, ofNat_bigEndian_two]

/-- An IPv6 socket address is read where it is held. -/
theorem Holds.socket_v6 {a : Ipv6} {port : UInt16} {flowInfo scope : UInt32}
    (h : m.Holds address (socketBytes (.v6 a port flowInfo scope)))
    {length : Int32} (hlength : 28 ≤ length.toInt) :
    m.socket (some address) length = some (.v6 a port flowInfo scope) := by
  simp only [socketBytes, holds_append, List.length_append, length_leBytes, length_beBytes,
    length_groupBytes] at h
  obtain ⟨⟨⟨⟨hfamily, hport⟩, hflow⟩, hgroups⟩, hscope⟩ := h
  have hfamily : m.u16 address = familyIpv6 := hfamily.u16 (v := 23)
  have hother : familyIpv6 ≠ familyIpv4 := by decide
  have hport : m.bytes (address + 2) 2 = beBytes 2 port.toNat := hport
  have hflow : m.bytes (address + 4) 4 = beBytes 4 flowInfo.toNat := hflow
  have hscope : m.u32 (address + 24) = scope := hscope.u32
  have hguard : 2 ≤ length.toInt := by omega
  have hsize : socketIpv6.size ≤ length.toInt := hlength
  simp [socket, Layout.offset, socketAny_offsets, socketIpv6_offsets, List.lookup_cons, hguard,
    hfamily, hother, hsize, hport, hflow, hscope, hgroups.groups, ofNat_bigEndian_two,
    ofNat_bigEndian_four]

/-- A socket address is read where it is held with a length that covers it. -/
theorem Holds.socket {s : Socket} (h : m.Holds address (socketBytes s)) {length : Int32}
    (hlength : socketSize s ≤ length.toInt) : m.socket (some address) length = some s := by
  cases s with
  | v4 a port => exact h.socket_v4 hlength
  | v6 a port flowInfo scope => exact h.socket_v6 hlength

theorem HoldsSocket.socketAt {s : Socket} (h : m.HoldsSocket address s) :
    m.socketAt address = some s := by
  obtain ⟨target, length, htarget, hp, hl, hlength, hs⟩ := h
  rw [Memory.socketAt, show socketPointer.offset "sockaddr" = 0 from rfl,
    show socketPointer.offset "sockaddr_length" = 8 from rfl, Nat.add_zero,
    hp.pointer (by simpa using htarget), hl.i32]
  exact hs.socket hlength

theorem HoldsServer.socketAt {s : Option Socket} (h : m.HoldsServer address s) :
    m.socketAt address = s := by
  cases s with
  | none =>
    have hnull : m.pointer address = none := HoldsPointer.pointer h (by simp)
    rw [Memory.socketAt, show socketPointer.offset "sockaddr" = 0 from rfl, Nat.add_zero, hnull]
    rfl
  | some s => exact HoldsSocket.socketAt h

end Memory

end Native

end HostDns
