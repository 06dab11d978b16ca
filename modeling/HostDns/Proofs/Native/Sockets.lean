import HostDns.Proofs.Native.Values

/-!
When a socket address is read, and which.

A socket is read exactly where its structure is held and the stated length covers it. Any bytes behind
the number of a family are those of a socket of that family, so the family and the length alone decide
whether there is a socket. The structure may stand at any address.
-/

namespace HostDns

namespace Native

/-- The number of the family of a socket address. -/
def socketFamily : Socket → Nat
  | .v4 .. => 2
  | .v6 .. => 23

namespace Memory

/-- Whether a structure of a family is given: there is an address, the stated length covers the size
of the structure, and the family stands in front. -/
def Covers (m : Memory) (address : Option Nat) (length : Int32) (family : Nat) (size : Int) : Prop :=
  ∃ target, address = some target ∧ size ≤ length.toInt ∧ littleEndian (m.bytes target 2) = family

variable {m : Memory} {address : Option Nat} {length : Int32}

/-! ### Sockets in any bytes -/

/-- Where a socket address is held, its family stands in front. -/
theorem Holds.family {target : Nat} {s : Socket} (h : m.Holds target (socketBytes s)) :
    Native.littleEndian (m.bytes target 2) = socketFamily s := by
  cases s with
  | v4 a port =>
    simp only [socketBytes, holds_append] at h
    exact h.1.1.littleEndian (by decide)
  | v6 a port flowInfo scope =>
    simp only [socketBytes, holds_append] at h
    exact h.1.1.1.1.littleEndian (by decide)

/-- Any bytes are those of groups. -/
theorem exists_holds_groups (m : Memory) : ∀ count address : Nat, ∃ groups : List UInt16,
    groups.length = count ∧ m.Holds address (groups.flatMap fun group => beBytes 2 group.toNat)
  | 0, _ => ⟨[], rfl, rfl⟩
  | count + 1, address => by
    obtain ⟨group, hgroup⟩ := exists_holds_two m address
    obtain ⟨groups, hcount, hgroups⟩ := exists_holds_groups m count (address + 2)
    refine ⟨group :: groups, by rw [List.length_cons, hcount], ?_⟩
    rw [List.flatMap_cons, holds_append, length_beBytes]
    exact ⟨hgroup, hgroups⟩

theorem exists_holds_v4 {target : Nat} (hfamily : littleEndian (m.bytes target 2) = 2) :
    ∃ a port, m.Holds target (socketBytes (.v4 a port)) := by
  obtain ⟨port, hport⟩ := exists_holds_two m (target + 2)
  refine ⟨⟨m.byte (target + 4), m.byte (target + 5), m.byte (target + 6), m.byte (target + 7)⟩,
    port, ?_⟩
  simp only [socketBytes, holds_append, List.length_append, length_leBytes, length_beBytes]
  exact ⟨⟨(holds_leBytes_iff (by decide)).mpr hfamily, hport⟩, rfl⟩

/-- Any bytes behind the family of IPv6 are those of an IPv6 socket. -/
theorem exists_holds_v6 {target : Nat} (hfamily : littleEndian (m.bytes target 2) = 23) :
    ∃ a port flowInfo scope, m.Holds target (socketBytes (.v6 a port flowInfo scope)) := by
  obtain ⟨port, hport⟩ := exists_holds_two m (target + 2)
  obtain ⟨flowInfo, hflow⟩ := exists_holds_four m (target + 4)
  obtain ⟨groups, hcount, hgroups⟩ := exists_holds_groups m 8 (target + 8)
  obtain ⟨a, rfl⟩ : ∃ a : Ipv6, a.groups.toList = groups := ⟨⟨⟨groups.toArray, hcount⟩⟩, rfl⟩
  have hscope : m.Holds (target + 24) (leBytes 4 (m.u32 (target + 24)).toNat) :=
    (holds_leBytes_iff (m.u32 _).toNat_lt).mpr (m.toNat_u32 _).symm
  refine ⟨a, port, flowInfo, m.u32 (target + 24), ?_⟩
  simp only [socketBytes, holds_append, List.length_append, length_leBytes, length_beBytes,
    length_groupBytes]
  exact ⟨⟨⟨⟨(holds_leBytes_iff (by decide)).mpr hfamily, hport⟩, hflow⟩, hgroups⟩, hscope⟩

/-! ### What is read -/

theorem Covers.exists_v4 (h : m.Covers address length 2 16) :
    ∃ a port, m.socket address length = some (.v4 a port) := by
  obtain ⟨target, rfl, hlength, hfamily⟩ := h
  obtain ⟨a, port, hheld⟩ := exists_holds_v4 hfamily
  exact ⟨a, port, hheld.socket hlength⟩

theorem Covers.exists_v6 (h : m.Covers address length 23 28) :
    ∃ a port flowInfo scope, m.socket address length = some (.v6 a port flowInfo scope) := by
  obtain ⟨target, rfl, hlength, hfamily⟩ := h
  obtain ⟨a, port, flowInfo, scope, hheld⟩ := exists_holds_v6 hfamily
  exact ⟨a, port, flowInfo, scope, hheld.socket hlength⟩

/-- Nothing is read where a structure of neither family is given. -/
theorem socket_eq_none (h4 : ¬m.Covers address length 2 16) (h6 : ¬m.Covers address length 23 28) :
    m.socket address length = none := by
  rcases address with _ | target
  · rfl
  have hv4 : ¬(m.u16 (target + socketAny.offset "sa_family") = familyIpv4 ∧
      (socketIpv4.size : Int) ≤ length.toInt) := fun ⟨hfamily, hsize⟩ =>
    h4 ⟨target, rfl, hsize, by rw [← toNat_u16]; exact congrArg UInt16.toNat hfamily⟩
  have hv6 : ¬(m.u16 (target + socketAny.offset "sa_family") = familyIpv6 ∧
      (socketIpv6.size : Int) ≤ length.toInt) := fun ⟨hfamily, hsize⟩ =>
    h6 ⟨target, rfl, hsize, by rw [← toNat_u16]; exact congrArg UInt16.toNat hfamily⟩
  simp [Memory.socket, hv4, hv6]

/-- A socket is read exactly where it is held with a length that covers it. -/
theorem socket_eq_some_iff {s : Socket} : m.socket address length = some s ↔
    ∃ target, address = some target ∧ socketSize s ≤ length.toInt ∧
      m.Holds target (socketBytes s) := by
  constructor
  · intro h
    have hcovers : m.Covers address length 2 16 ∨ m.Covers address length 23 28 := by
      by_contra hnone
      rw [not_or] at hnone
      rw [socket_eq_none hnone.1 hnone.2] at h
      cases h
    -- some socket is held there, and it is the one that is read
    obtain ⟨target, s', htarget, hlength, hheld⟩ : ∃ target s', address = some target ∧
        socketSize s' ≤ length.toInt ∧ m.Holds target (socketBytes s') := by
      rcases hcovers with ⟨target, htarget, hlength, hfamily⟩ | ⟨target, htarget, hlength, hfamily⟩
      · obtain ⟨a, port, hheld⟩ := exists_holds_v4 hfamily
        exact ⟨target, .v4 a port, htarget, hlength, hheld⟩
      · obtain ⟨a, port, flowInfo, scope, hheld⟩ := exists_holds_v6 hfamily
        exact ⟨target, .v6 a port flowInfo scope, htarget, hlength, hheld⟩
    rw [htarget, hheld.socket hlength, Option.some.injEq] at h
    exact ⟨target, htarget, h ▸ hlength, h ▸ hheld⟩
  · rintro ⟨target, rfl, hlength, hheld⟩
    exact hheld.socket hlength

/-- An IPv4 socket is read exactly where there is an address, the stated length is at least 16 and the
family is 2; an IPv6 socket exactly where there is an address, the length is at least 28 and the family
is 23; and nothing otherwise. Which socket is read is told by the bytes there, at whatever address they
stand: a socket with any port, flow information and scope is read exactly where its structure is held
and a length that covers it is stated. -/
theorem socket_by_family (m : Memory) (address : Option Nat) (length : Int32) :
    ((∃ a port, m.socket address length = some (.v4 a port)) ↔ m.Covers address length 2 16) ∧
    ((∃ a port flowInfo scope, m.socket address length = some (.v6 a port flowInfo scope)) ↔
      m.Covers address length 23 28) ∧
    (m.socket address length = none ↔
      ¬m.Covers address length 2 16 ∧ ¬m.Covers address length 23 28) ∧
    ∀ s : Socket, m.socket address length = some s ↔
      ∃ target, address = some target ∧ socketSize s ≤ length.toInt ∧
        m.Holds target (socketBytes s) := by
  refine ⟨⟨?_, Covers.exists_v4⟩, ⟨?_, Covers.exists_v6⟩, ⟨?_, fun h => socket_eq_none h.1 h.2⟩,
    fun s => socket_eq_some_iff⟩
  · rintro ⟨a, port, h⟩
    obtain ⟨target, htarget, hlength, hheld⟩ := socket_eq_some_iff.mp h
    exact ⟨target, htarget, hlength, hheld.family⟩
  · rintro ⟨a, port, flowInfo, scope, h⟩
    obtain ⟨target, htarget, hlength, hheld⟩ := socket_eq_some_iff.mp h
    exact ⟨target, htarget, hlength, hheld.family⟩
  · intro hnone
    constructor
    · intro h
      obtain ⟨a, port, hread⟩ := h.exists_v4
      rw [hnone] at hread
      cases hread
    · intro h
      obtain ⟨a, port, flowInfo, scope, hread⟩ := h.exists_v6
      rw [hnone] at hread
      cases hread

/-- An IPv6 socket at an odd address is read with all that belongs to it, and with a length that is one
too short nothing is read. -/
theorem socket_by_family_unaligned :
    (ofPieces [(4097, socketBytes (.v6 ⟨#v[0xFE80, 0, 0, 0, 0, 0, 0, 1]⟩ 0x1234 0x01020304 7))]).socket
        (some 4097) 28 = some (.v6 ⟨#v[0xFE80, 0, 0, 0, 0, 0, 0, 1]⟩ 0x1234 0x01020304 7) ∧
      (ofPieces [(4097, socketBytes (.v6 ⟨#v[0xFE80, 0, 0, 0, 0, 0, 0, 1]⟩ 0x1234 0x01020304 7))]).socket
        (some 4097) 27 = none := by
  constructor
  · exact ((socket_by_family _ _ _).2.2.2 _).mpr ⟨4097, rfl, by decide, by decide +kernel⟩
  · refine (socket_by_family _ _ _).2.2.1.mpr ⟨?_, ?_⟩
    · rintro ⟨target, htarget, _, hfamily⟩
      cases htarget
      revert hfamily
      decide +kernel
    · rintro ⟨target, _, hlength, _⟩
      revert hlength
      decide

end Memory

end Native

end HostDns
