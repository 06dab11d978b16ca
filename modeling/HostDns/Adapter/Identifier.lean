import HostDns.Json

/-!
The identifiers of an adapter: hardware address, DHCP identifier, locally unique identifier, network
identifier, and its flags.
-/

namespace HostDns

/-- A buffer of `capacity` bytes and the number of those in use. The bytes behind them are zero, so that
two buffers differ only where their bytes in use do. -/
structure Octets (capacity : UInt8) where
  buffer : Vector UInt8 capacity.toNat
  used : UInt8
  used_le : used ≤ capacity
  clear : ∀ i (h : i < capacity.toNat), used.toNat ≤ i → buffer[i] = 0
  deriving DecidableEq

namespace Octets

variable {capacity : UInt8}

/-- How many bytes of a list there is room for. -/
def room (capacity : UInt8) (bytes : List UInt8) : Nat := min bytes.length capacity.toNat

@[simp] theorem toNat_ofNatClamp_room (capacity : UInt8) (bytes : List UInt8) :
    (UInt8.ofNatClamp (room capacity bytes)).toNat = room capacity bytes :=
  UInt8.toNat_ofNatClamp_of_lt (Nat.lt_of_le_of_lt (Nat.min_le_right ..) capacity.toNat_lt)

/-- Copies the first bytes of a list into a buffer of zeros, as many as there is room for. -/
def ofBytes (bytes : List UInt8) : Octets capacity where
  buffer := Vector.ofFn fun i =>
    if h : i.val < room capacity bytes then
      bytes.get ⟨i.val, Nat.lt_of_lt_of_le h (Nat.min_le_left ..)⟩
    else 0
  used := UInt8.ofNatClamp (room capacity bytes)
  used_le := by
    rw [UInt8.le_iff_toNat_le, toNat_ofNatClamp_room]
    exact Nat.min_le_right ..
  clear i h hi := by
    rw [toNat_ofNatClamp_room] at hi
    rw [Vector.getElem_ofFn, dif_neg (Nat.not_lt_of_le hi)]

instance : Inhabited (Octets capacity) := ⟨ofBytes []⟩

/-- The bytes in use. -/
def bytes (o : Octets capacity) : List UInt8 := o.buffer.toList.take o.used.toNat

/-- Whether no byte is in use. -/
def isEmpty (o : Octets capacity) : Bool := o.used == 0

@[simp] theorem length_bytes (o : Octets capacity) : o.bytes.length = o.used.toNat := by
  rw [bytes, List.length_take, Vector.length_toList]
  exact Nat.min_eq_left (UInt8.le_iff_toNat_le.mp o.used_le)

theorem length_bytes_le (o : Octets capacity) : o.bytes.length ≤ capacity.toNat := by
  rw [length_bytes]
  exact UInt8.le_iff_toNat_le.mp o.used_le

/-- A buffer is empty if it has no bytes in use. -/
theorem isEmpty_iff {o : Octets capacity} : o.isEmpty = true ↔ o.bytes = [] := by
  rw [isEmpty, beq_iff_eq, ← List.length_eq_zero_iff, length_bytes, ← UInt8.toNat_inj,
    UInt8.toNat_zero]

/-- The bytes in use are the first ones of the list. -/
@[simp] theorem bytes_ofBytes (bytes : List UInt8) :
    (ofBytes bytes : Octets capacity).bytes = bytes.take capacity.toNat := by
  have hused : (ofBytes bytes : Octets capacity).used.toNat = room capacity bytes :=
    toNat_ofNatClamp_room capacity bytes
  refine List.ext_getElem ?_ fun i hi _ => ?_
  · rw [length_bytes, hused, List.length_take, room, Nat.min_comm]
  · have hroom : i < room capacity bytes := by rwa [length_bytes, hused] at hi
    simp [Octets.bytes, ofBytes, hroom]

end Octets

/-- A hardware address has at most eight bytes. -/
abbrev PhysicalAddress := Octets 8

/-- The text of a hardware address: its bytes in hexadecimal with colons between them. -/
def PhysicalAddress.text (a : PhysicalAddress) : String :=
  String.ofList ([':'].intercalate (a.bytes.map Text.hexByte))

/-- A DHCP unique identifier has at most 130 bytes. -/
abbrev Duid := Octets 130

/-- The text of a DHCP unique identifier: its bytes in hexadecimal. -/
def Duid.text (d : Duid) : String := String.ofList (d.bytes.flatMap Text.hexByte)

/-- A locally unique identifier, which packs an interface type and an index. -/
structure Luid where
  value : UInt64
  deriving DecidableEq, Repr, Inhabited

namespace Luid

/-- The interface type, in the topmost 16 bits. -/
def ifType (l : Luid) : UInt16 := (l.value >>> 48).toUInt16

/-- The index, in the 24 bits below the interface type. -/
def index (l : Luid) : UInt32 := ((l.value >>> 24) &&& 0xFFFFFF).toUInt32

end Luid

/-- A globally unique identifier. -/
structure Guid where
  data1 : UInt32
  data2 : UInt16
  data3 : UInt16
  data4 : Vector UInt8 8
  deriving DecidableEq, Repr, Inhabited

/-- The text of a globally unique identifier: its digits in capitals, in five groups within braces. -/
def Guid.text (g : Guid) : String :=
  let digits (width n : Nat) := Text.capitals (Text.zeroPadded width (Text.hexadecimal n))
  let bytes := g.data4.toList.map fun b => digits 2 b.toNat
  String.ofList ('\x7b' :: digits 8 g.data1.toNat ++ '-' :: digits 4 g.data2.toNat ++
    '-' :: digits 4 g.data3.toNat ++ '-' :: (bytes.take 2).flatten ++
    '-' :: (bytes.drop 2).flatten ++ ['\x7d'])

/-- The flags of an adapter. -/
structure AdapterFlags where
  bits : UInt32
  deriving DecidableEq, Repr, Inhabited

namespace AdapterFlags

/-- Whether every bit of a mask is set. -/
def contains (f : AdapterFlags) (mask : UInt32) : Bool := f.bits &&& mask == mask

/-- Whether the adapter is configured by DHCP. -/
def dhcpEnabled (f : AdapterFlags) : Bool := f.contains 4

end AdapterFlags

end HostDns
