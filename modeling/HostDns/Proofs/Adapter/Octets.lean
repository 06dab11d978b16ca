import HostDns.Native.Block
import HostDns.Proofs.Adapter.Identifier
import Mathlib.Data.List.TFAE
import Mathlib.Tactic.TFAE

/-!
Buffers of bytes have one form for each content.

Two buffers are compared byte by byte, those that are not in use included. Since these are zero however
a buffer comes about, the comparison is that of the bytes in use, and so is that of the texts, from
which the bytes can be read again.
-/

namespace HostDns.Octets

/-- The bytes that hexadecimal digits denote, two digits for each. -/
def ofDigits : List Char → List UInt8
  | high :: low :: rest => UInt8.ofNat (Text.hexValue [high, low]) :: ofDigits rest
  | _ => []

/-- The bytes that a text shows, with or without colons between them. -/
def shown (text : String) : List UInt8 := ofDigits (text.toList.filter (· ≠ ':'))

/-- Buffers of a capacity, with the texts that are written for them, are canonical. -/
structure Canonical (capacity : UInt8) (text : Octets capacity → String) : Prop where
  /-- What is copied ends within the list and within the buffer. -/
  in_range : ∀ b : List UInt8, (ofBytes b : Octets capacity).used.toNat ≤ b.length ∧
    (ofBytes b : Octets capacity).used.toNat ≤ capacity.toNat
  bytes : ∀ b : List UInt8, (ofBytes b : Octets capacity).bytes = b.take (min b.length capacity.toNat)
  /-- A buffer in memory is copied up to the number that is stated beside it, or to its end. -/
  bytes_octetsAt : ∀ (m : Native.Memory) (address : Nat) (stated : UInt32),
    (m.octetsAt address stated : Octets capacity).bytes =
      (m.bytes address capacity.toNat).take stated.toNat
  isEmpty : ∀ b : List UInt8, (ofBytes b : Octets capacity).isEmpty = true ↔ b = []
  same : ∀ a b : List UInt8, List.TFAE [
    (ofBytes a : Octets capacity) = ofBytes b,
    (ofBytes a : Octets capacity).buffer = (ofBytes b : Octets capacity).buffer ∧
      (ofBytes a : Octets capacity).used = (ofBytes b : Octets capacity).used,
    a.take capacity.toNat = b.take capacity.toNat,
    (ofBytes a : Octets capacity).bytes = (ofBytes b : Octets capacity).bytes,
    text (ofBytes a) = text (ofBytes b)]
  shown_text : ∀ b : List UInt8, shown (text (ofBytes b)) = (ofBytes b : Octets capacity).bytes
  ofBytes_bytes : ∀ b : List UInt8,
    (ofBytes (ofBytes b : Octets capacity).bytes : Octets capacity) = ofBytes b

theorem ofDigits_flatMap : ∀ bytes : List UInt8, ofDigits (bytes.flatMap Text.hexByte) = bytes
  | [] => rfl
  | b :: bytes => by
    obtain ⟨high, low, hb⟩ := List.length_eq_two.mp (Text.length_hexByte b)
    have hvalue : Text.hexValue [high, low] = b.toNat := by
      rw [← hb, Text.hexByte, Text.hexValue_zeroPadded, Text.hexValue_hexadecimal]
    rw [List.flatMap_cons, hb, List.cons_append, List.cons_append, List.nil_append, ofDigits, hvalue,
      UInt8.ofNat_toNat, ofDigits_flatMap bytes]

theorem shown_physicalAddress (a : PhysicalAddress) : shown a.text = a.bytes := by
  rw [shown, PhysicalAddress.text, String.toList_ofList, PhysicalAddress.filter_intercalate,
    ofDigits_flatMap]

theorem shown_duid (d : Duid) : shown d.text = d.bytes := by
  rw [shown, Duid.text, String.toList_ofList, List.filter_flatMap,
    funext filter_hexByte, ofDigits_flatMap]

variable {capacity : UInt8}

theorem toNat_used_ofBytes (b : List UInt8) :
    (ofBytes b : Octets capacity).used.toNat = min b.length capacity.toNat :=
  toNat_ofNatClamp_room capacity b

/-- A buffer in memory is copied up to the stated number of bytes, or to its end. -/
theorem bytes_octetsAt (m : Native.Memory) (address : Nat) (stated : UInt32) :
    (m.octetsAt address stated : Octets capacity).bytes =
      (m.bytes address capacity.toNat).take stated.toNat := by
  rw [Native.Memory.octetsAt, bytes_ofBytes]
  simp [Native.Memory.bytes, ← List.map_take, List.take_range]

/-- If the bytes can be read from the text of a buffer, then buffers are canonical. -/
theorem canonical_of_shown {text : Octets capacity → String} (hcapacity : 0 < capacity.toNat)
    (hshown : ∀ o, shown (text o) = o.bytes) : Canonical capacity text where
  in_range b := by
    rw [toNat_used_ofBytes]
    exact ⟨Nat.min_le_left .., Nat.min_le_right ..⟩
  bytes b := by
    rw [bytes_ofBytes, List.take_eq_take_min, Nat.min_comm]
  bytes_octetsAt := bytes_octetsAt
  isEmpty b := by
    rw [isEmpty_iff, bytes_ofBytes, List.take_eq_nil_iff]
    exact or_iff_right (Nat.ne_of_gt hcapacity)
  same a b := by
    tfae_have 1 ↔ 2 := by
      rw [Octets.mk.injEq]
    tfae_have 1 ↔ 4 := bytes_inj.symm
    tfae_have 3 ↔ 4 := by
      rw [bytes_ofBytes, bytes_ofBytes]
    tfae_have 1 → 5 := fun h => by rw [h]
    tfae_have 5 → 4 := fun h => by rw [← hshown, h, hshown]
    tfae_finish
  shown_text b := hshown (ofBytes b)
  ofBytes_bytes b := ofBytes_bytes (ofBytes b)

/-- Hardware addresses and DHCP unique identifiers are canonical: what is copied into them are the
first bytes there is room for, which can be read from their texts and give them back, and two of them
are the same in every byte of their buffers exactly if these bytes are, or their texts. -/
theorem canonical : Canonical 8 PhysicalAddress.text ∧ Canonical 130 Duid.text :=
  ⟨canonical_of_shown (by decide) shown_physicalAddress, canonical_of_shown (by decide) shown_duid⟩

end HostDns.Octets
