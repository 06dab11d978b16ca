import HostDns.Proofs.Native.Values
import HostDns.Proofs.Text.Surrogates
import Mathlib.Data.List.Infix

/-!
Texts of 16-bit units, in a buffer and behind a pointer.

A buffer is searched for its first NUL, and units behind a pointer are followed until one is NUL. Both
come to the units in front of the first NUL, of which all that is text is kept.
-/

namespace HostDns.Native.Memory

open Text.Utf16

/-- The units in front of the first NUL of a buffer, or all of its units if there is none. -/
def IsTextOf (us buffer : List UInt16) : Prop :=
  0 ∉ us ∧ (buffer = us ∨ ∃ rest, buffer = us ++ 0 :: rest)

/-- Looking for the first NUL finds the units in front of it. -/
theorem isTextOf_takeWhile (buffer : List UInt16) :
    IsTextOf (buffer.takeWhile (· ≠ 0)) buffer := by
  induction buffer with
  | nil => exact ⟨List.not_mem_nil, .inl rfl⟩
  | cons u buffer ih =>
    by_cases hu : u = 0
    · rw [List.takeWhile_cons_of_neg (by simpa using hu), hu]
      exact ⟨List.not_mem_nil, .inr ⟨buffer, rfl⟩⟩
    · obtain ⟨hnul, hsplit⟩ := ih
      rw [List.takeWhile_cons_of_pos (by simpa using hu)]
      refine ⟨List.not_mem_cons_of_ne_of_not_mem (Ne.symm hu) hnul, ?_⟩
      rcases hsplit with hall | ⟨rest, hrest⟩
      · exact .inl (congrArg _ hall)
      · exact .inr ⟨rest, congrArg _ hrest⟩

theorem IsTextOf.append_prefix {us buffer : List UInt16} (h : IsTextOf us buffer) :
    us ++ [0] <+: buffer ++ [0] := by
  obtain ⟨-, rfl | ⟨rest, rfl⟩⟩ := h
  · exact List.prefix_rfl
  · exact ⟨rest ++ [0], by simp⟩

variable {m m' : Memory} {address : Nat}

theorem Holds.of_prefix {us vs : List UInt16} (hstart : us <+: vs)
    (h : m.Holds address (unitBytes vs)) : m.Holds address (unitBytes us) := by
  obtain ⟨rest, rfl⟩ := hstart
  rw [unitBytes, List.flatMap_append, holds_append] at h
  exact h.1

/-- Units with a NUL behind them are the same text behind a pointer and in a buffer, whatever follows
the NUL. -/
theorem wideText_eq_bufferText {target : Nat} {us : List UInt16} (hlen : us.length ≤ 256)
    (htarget : m.Holds target (unitBytes (us ++ [0])))
    (hbuffer : m'.Holds address (unitBytes ((us ++ [0]).take 256))) :
    m.wideText (some target) = m'.bufferText address 256 := by
  -- a NUL among the units ends both texts
  have htext := isTextOf_takeWhile us
  have hne : ∀ u ∈ us.takeWhile (· ≠ 0), u ≠ 0 := fun _ hu => ne_of_mem_of_not_mem hu htext.1
  have hfits : (us.takeWhile (· ≠ 0)).length ≤ 256 := (List.takeWhile_prefix _).length_le.trans hlen
  rw [wideText, bufferText, (htarget.of_prefix htext.append_prefix).unitsToNul hne,
    (hbuffer.of_prefix (List.IsPrefix.take htext.append_prefix 256)).takeWhile_units hfits hne]

theorem units_succ (m : Memory) (address count : Nat) :
    m.units address (count + 1) = m.u16 address :: m.units (address + 2) count := by
  simp [units, List.range_succ_eq_map, Function.comp_def, Nat.mul_add, Nat.add_assoc, Nat.add_comm 2]

theorem bufferText_eq_empty_iff (m : Memory) (address count : Nat) :
    m.bufferText address (count + 1) = "" ↔ m.u16 address = 0 := by
  rw [bufferText, ← String.toList_inj, String.toList_ofList, String.toList_empty, decode_eq_nil_iff,
    units_succ]
  by_cases h : m.u16 address = 0
  · simp [h]
  · simp [h]

/-- Texts of units are what their units say. The text of a buffer is decoded from the units in front of
the first NUL, or from all of them. It has no NUL, and it is written back as the same units with the
replacement character for each unpaired surrogate, hence as the same units exactly if there is none. A
suffix is left out exactly if the first unit of its buffer is NUL. Units that end with a NUL are the same
text behind a pointer as in a buffer that starts with them. -/
theorem texts_of_units :
    (∀ (m : Memory) (address : Nat), ∃ us, IsTextOf us (m.units address 256) ∧
      (m.bufferText address 256).toList = decode us ∧
      '\x00' ∉ (m.bufferText address 256).toList ∧
      encode (m.bufferText address 256).toList = repaired none us ∧
      (encode (m.bufferText address 256).toList = us ↔ IsPaired us)) ∧
    (∀ (m : Memory) (node : Nat), m.suffix node =
      if m.u16 (node + 8) = 0 then none else some (m.bufferText (node + 8) 256)) ∧
    ∀ (m m' : Memory) (target address : Nat) (us : List UInt16), us.length ≤ 256 →
      m.Holds target (unitBytes (us ++ [0])) →
      m'.Holds address (unitBytes ((us ++ [0]).take 256)) →
      m.wideText (some target) = m'.bufferText address 256 := by
  refine ⟨fun m address => ?_, fun m node => ?_, fun m m' target address us => ?_⟩
  · have htext := isTextOf_takeWhile (m.units address 256)
    refine ⟨_, htext, ?_⟩
    rw [bufferText, String.toList_ofList]
    exact ⟨rfl, nul_not_mem_decode htext.1, encode_decode _, encode_decode_eq_self_iff⟩
  · rw [suffix, show suffixNode.offset "string" = 8 from rfl, suffixCapacity]
    simp only [bufferText_eq_empty_iff]
  · exact wideText_eq_bufferText

/-- A pair and a first half whose second half is cut off by the NUL: the pair is one character, and the
half is the replacement character, behind a pointer as in a buffer that has a second half behind the
NUL. -/
theorem texts_of_units_cut_off :
    (ofPieces [(0x1000, unitBytes [0xD83D, 0xDE00, 0xD83D, 0])]).wideText (some 0x1000) =
      (ofPieces [(0x2001, unitBytes [0xD83D, 0xDE00, 0xD83D, 0, 0xDE00])]).bufferText 0x2001 256 ∧
    (ofPieces [(0x2001, unitBytes [0xD83D, 0xDE00, 0xD83D, 0, 0xDE00])]).bufferText 0x2001 256 =
      "😀\uFFFD" :=
  ⟨texts_of_units.2.2 _ _ 0x1000 0x2001 [0xD83D, 0xDE00, 0xD83D] (by decide) (by decide +kernel)
    (by decide +kernel), by decide +kernel⟩

end HostDns.Native.Memory
