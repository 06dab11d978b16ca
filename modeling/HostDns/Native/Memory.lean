import HostDns.Text.Utf16
import HostDns.Text.Utf8

/-!
A finite memory and the plain values in it: little-endian numbers, pointers, and texts that end at a
NUL.
-/

namespace HostDns.Native

/-- A byte at every address, all zero from `extent` on. -/
structure Memory where
  byte : Nat → UInt8
  extent : Nat
  zero_of_le : ∀ address, extent ≤ address → byte address = 0

/-- The number that bytes denote, lowest first. -/
def littleEndian : List UInt8 → Nat
  | [] => 0
  | b :: rest => b.toNat + 256 * littleEndian rest

/-- The number that bytes denote, highest first. -/
def bigEndian (bytes : List UInt8) : Nat := littleEndian bytes.reverse

namespace Memory

/-- The memory that holds bytes from an address on and is zero elsewhere. -/
def ofBlock (base : Nat) (block : ByteArray) : Memory where
  byte address := if base ≤ address then block.data[address - base]?.getD 0 else 0
  extent := base + block.size
  zero_of_le address h := by
    have : block.data.size ≤ address - base := by
      have : block.size = block.data.size := rfl
      omega
    simp [Array.getElem?_eq_none this]

/-- The bytes at an address, as many as asked for. -/
def bytes (m : Memory) (address count : Nat) : List UInt8 :=
  (List.range count).map fun i => m.byte (address + i)

/-- The 16-bit number at an address. -/
def u16 (m : Memory) (address : Nat) : UInt16 := UInt16.ofNat (littleEndian (m.bytes address 2))

/-- The 32-bit number at an address. -/
def u32 (m : Memory) (address : Nat) : UInt32 := UInt32.ofNat (littleEndian (m.bytes address 4))

/-- The 64-bit number at an address. -/
def u64 (m : Memory) (address : Nat) : UInt64 := UInt64.ofNat (littleEndian (m.bytes address 8))

/-- The signed 32-bit number at an address. -/
def i32 (m : Memory) (address : Nat) : Int32 := (m.u32 address).toInt32

/-- The address that the pointer at an address holds, or `none` for a null pointer. -/
def pointer (m : Memory) (address : Nat) : Option Nat :=
  match littleEndian (m.bytes address 8) with
  | 0 => none
  | target => some target

/-- The units at an address, as many as asked for. -/
def units (m : Memory) (address count : Nat) : List UInt16 :=
  (List.range count).map fun i => m.u16 (address + 2 * i)

theorem lt_extent_of_byte_ne_zero (m : Memory) {address : Nat} (h : m.byte address ≠ 0) :
    address < m.extent :=
  Nat.lt_of_not_le fun hle => h (m.zero_of_le address hle)

/-- The bytes from an address up to the first that is zero. -/
def bytesToNul (m : Memory) (address : Nat) : List UInt8 :=
  if m.byte address = 0 then [] else m.byte address :: m.bytesToNul (address + 1)
termination_by m.extent - address
decreasing_by
  have := m.lt_extent_of_byte_ne_zero ‹_›
  omega

theorem lt_extent_of_u16_ne_zero (m : Memory) {address : Nat} (h : m.u16 address ≠ 0) :
    address < m.extent := by
  apply Nat.lt_of_not_le
  intro hle
  apply h
  simp [u16, bytes, List.range_succ, littleEndian, m.zero_of_le address hle,
    m.zero_of_le (address + 1) (by omega)]

/-- The units from an address up to the first that is zero. -/
def unitsToNul (m : Memory) (address : Nat) : List UInt16 :=
  if m.u16 address = 0 then [] else m.u16 address :: m.unitsToNul (address + 2)
termination_by m.extent - address
decreasing_by
  have := m.lt_extent_of_u16_ne_zero ‹_›
  omega

/-- The text of bytes that end at a NUL; a null pointer is the empty text. -/
def byteText (m : Memory) : Option Nat → String
  | none => ""
  | some address => String.ofList (Text.Utf8.decode (m.bytesToNul address))

/-- The text of units that end at a NUL; a null pointer is the empty text. -/
def wideText (m : Memory) : Option Nat → String
  | none => ""
  | some address => String.ofList (Text.Utf16.decode (m.unitsToNul address))

/-- The text of a buffer of units, up to its first NUL or its end. -/
def bufferText (m : Memory) (address capacity : Nat) : String :=
  String.ofList (Text.Utf16.decode ((m.units address capacity).takeWhile (· ≠ 0)))

end Memory

end HostDns.Native
