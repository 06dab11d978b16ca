import HostDns.Text.Utf16
import Mathlib.Data.List.Basic

/-!
Characters survive being written as UTF-16 units.

Units of whole characters are decoded one character at a time, whatever comes behind them, so a text
is what its units decode to. A unit is NUL only where the character is.
-/

namespace HostDns.Text.Utf16

theorem toNat_char_lt (c : Char) :
    c.toNat < 0xD800 ∨ (0xE000 ≤ c.toNat ∧ c.toNat < 0x110000) := by
  have h := c.valid
  simp only [UInt32.isValidChar, Nat.isValidChar] at h
  rw [Char.toNat]
  omega

/-- The first half of a pair by its number. -/
theorem isHigh_iff {u : UInt16} : isHigh u = true ↔ 0xD800 ≤ u.toNat ∧ u.toNat < 0xDC00 := by
  simp [isHigh, UInt16.le_iff_toNat_le, UInt16.lt_iff_toNat_lt]

theorem isLow_iff {u : UInt16} : isLow u = true ↔ 0xDC00 ≤ u.toNat ∧ u.toNat < 0xE000 := by
  simp [isLow, UInt16.le_iff_toNat_le, UInt16.lt_iff_toNat_lt]

theorem decode_cons_of_not_isHigh {u : UInt16} (h : isHigh u = false) (rest : List UInt16) :
    decode (u :: rest) = single u :: decode rest := by
  cases rest with
  | nil => rfl
  | cons v rest => simp [decode, h]

theorem decode_pair {u v : UInt16} (hu : isHigh u = true) (hv : isLow v = true)
    (rest : List UInt16) : decode (u :: v :: rest) = pair u v :: decode rest := by
  simp [decode, hu, hv]

/-- The units of one character are decoded to it, whatever follows. -/
theorem decode_encodeChar (c : Char) (rest : List UInt16) :
    decode (encodeChar c ++ rest) = c :: decode rest := by
  have hc := toNat_char_lt c
  rw [encodeChar]
  split
  · next hsmall =>
    have hu : (UInt16.ofNat c.toNat).toNat = c.toNat :=
      UInt16.toNat_ofNat_of_lt' hsmall
    have hhigh : isHigh (UInt16.ofNat c.toNat) = false := by
      rw [← Bool.not_eq_true, isHigh_iff, hu]
      omega
    have hlow : isLow (UInt16.ofNat c.toNat) = false := by
      rw [← Bool.not_eq_true, isLow_iff, hu]
      omega
    rw [List.singleton_append, decode_cons_of_not_isHigh hhigh, single, hhigh, hlow, hu,
      Char.ofNat_toNat]
    rfl
  · next hlarge =>
    have hu : (UInt16.ofNat (0xD800 + (c.toNat - 0x10000) / 0x400)).toNat =
        0xD800 + (c.toNat - 0x10000) / 0x400 :=
      UInt16.toNat_ofNat_of_lt' (show _ < 65536 by omega)
    have hv : (UInt16.ofNat (0xDC00 + (c.toNat - 0x10000) % 0x400)).toNat =
        0xDC00 + (c.toNat - 0x10000) % 0x400 :=
      UInt16.toNat_ofNat_of_lt' (show _ < 65536 by omega)
    have hnumber : 0x10000 + (0xD800 + (c.toNat - 0x10000) / 0x400 - 0xD800) * 0x400 +
        (0xDC00 + (c.toNat - 0x10000) % 0x400 - 0xDC00) = c.toNat := by omega
    rw [List.cons_append, List.singleton_append, decode_pair, pair, hu, hv, hnumber,
      Char.ofNat_toNat]
    · rw [isHigh_iff, hu]
      omega
    · rw [isLow_iff, hv]
      omega

/-- Decoding undoes encoding. -/
theorem decode_encode (s : List Char) : decode (encode s) = s := by
  induction s with
  | nil => rfl
  | cons c s ih => rw [encode, List.flatMap_cons, decode_encodeChar, ← encode, ih]

theorem toNat_char_ne_zero {c : Char} (hc : c ≠ '\x00') : c.toNat ≠ 0 :=
  fun h => hc (Char.toNat_inj.mp h)

theorem ofNat_ne_zero {n : Nat} (hn : n ≠ 0) (hlt : n < 65536) : UInt16.ofNat n ≠ 0 := by
  intro h
  have hzero := congrArg UInt16.toNat h
  rw [UInt16.toNat_ofNat_of_lt' hlt] at hzero
  exact hn hzero

/-- A character that is not NUL has no unit that is. -/
theorem ne_zero_of_mem_encodeChar {c : Char} (hc : c ≠ '\x00') {u : UInt16}
    (hu : u ∈ encodeChar c) : u ≠ 0 := by
  have hpos := toNat_char_ne_zero hc
  have hlt := toNat_char_lt c
  rw [encodeChar] at hu
  split at hu
  · next hsmall =>
    rw [List.mem_singleton.mp hu]
    exact ofNat_ne_zero hpos hsmall
  · simp only [List.mem_cons, List.not_mem_nil, or_false] at hu
    rcases hu with rfl | rfl
    · exact ofNat_ne_zero (by omega) (by omega)
    · exact ofNat_ne_zero (by omega) (by omega)

theorem ne_zero_of_mem_encode {s : List Char} (hs : '\x00' ∉ s) {u : UInt16}
    (hu : u ∈ encode s) : u ≠ 0 := by
  obtain ⟨c, hc, hu⟩ := List.mem_flatMap.mp hu
  exact ne_zero_of_mem_encodeChar (ne_of_mem_of_not_mem hc hs) hu

end HostDns.Text.Utf16
