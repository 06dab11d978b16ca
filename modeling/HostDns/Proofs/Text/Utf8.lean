import HostDns.Proofs.Text.Utf16
import HostDns.Text.Utf8

/-!
Characters survive being written as UTF-8 bytes.

The first byte of a character tells how many more there are and narrows the range of the second one;
every further byte adds six bits. Bytes of whole characters are decoded one character at a time,
whatever comes behind them.
-/

namespace HostDns.Text.Utf8

/-- The bytes of a text. -/
def encode (s : List Char) : List UInt8 := s.flatMap String.utf8EncodeChar

/-- A byte in the range of the next one adds its six bits. -/
theorem decodeFrom_tail (p : Partial) {bits : Nat} (hbits : bits < 64)
    (hlow : p.low.toNat ≤ bits + 0x80) (hhigh : bits + 0x80 ≤ p.high.toNat) (rest : List UInt8) :
    decodeFrom (some p) (UInt8.ofNat (bits + 0x80) :: rest) =
      if p.missing - 1 = 0 then Char.ofNat (p.bits * 64 + bits) :: decodeFrom none rest
      else decodeFrom (some ⟨p.missing - 1, 0x80, 0xBF, p.bits * 64 + bits⟩) rest := by
  have hb : (UInt8.ofNat (bits + 0x80)).toNat = bits + 0x80 :=
    UInt8.toNat_ofNat_of_lt' (show _ < 256 by omega)
  have hrange : p.low ≤ UInt8.ofNat (bits + 0x80) ∧ UInt8.ofNat (bits + 0x80) ≤ p.high := by
    rw [UInt8.le_iff_toNat_le, UInt8.le_iff_toNat_le, hb]
    exact ⟨hlow, hhigh⟩
  rw [decodeFrom, if_pos hrange]
  simp only [Partial.push, hb, Nat.add_sub_cancel]

theorem decodeFrom_last {low high : UInt8} {before bits : Nat} (hbits : bits < 64)
    (hlow : low.toNat ≤ bits + 0x80) (hhigh : bits + 0x80 ≤ high.toNat) (rest : List UInt8) :
    decodeFrom (some ⟨1, low, high, before⟩) (UInt8.ofNat (bits + 0x80) :: rest) =
      Char.ofNat (before * 64 + bits) :: decodeFrom none rest := by
  rw [decodeFrom_tail _ hbits hlow hhigh]
  rfl

theorem decodeFrom_middle {missing : Nat} {low high : UInt8} {before bits : Nat} (hbits : bits < 64)
    (hlow : low.toNat ≤ bits + 0x80) (hhigh : bits + 0x80 ≤ high.toNat) (rest : List UInt8) :
    decodeFrom (some ⟨missing + 2, low, high, before⟩) (UInt8.ofNat (bits + 0x80) :: rest) =
      decodeFrom (some ⟨missing + 1, 0x80, 0xBF, before * 64 + bits⟩) rest := by
  rw [decodeFrom_tail _ hbits hlow hhigh]
  rfl

theorem ofByte_one {n : Nat} (h : n < 0x80) :
    Lead.ofByte (UInt8.ofNat n) = .whole (Char.ofNat n) := by
  rw [Lead.ofByte, UInt8.toNat_ofNat_of_lt' (show _ < 256 by omega), if_pos h]

theorem ofByte_two {n : Nat} (hlow : 2 ≤ n) (hhigh : n < 32) :
    Lead.ofByte (UInt8.ofNat (n + 0xC0)) = .start ⟨1, 0x80, 0xBF, n⟩ := by
  have hbyte : (UInt8.ofNat (n + 0xC0)).toNat = n + 0xC0 :=
    UInt8.toNat_ofNat_of_lt' (show _ < 256 by omega)
  rw [Lead.ofByte, hbyte, if_neg (by omega), if_pos (by omega),
    Nat.add_sub_cancel]

/-- The first byte of three leaves the second one in its range, where the two do not begin a number that
has a shorter form or is a surrogate. -/
theorem ofByte_three {n k : Nat} (hn : n < 16) (hk : k < 64) (hlong : n = 0 → 32 ≤ k)
    (hsurrogate : n = 13 → k < 32) :
    ∃ low high : UInt8, Lead.ofByte (UInt8.ofNat (n + 0xE0)) = .start ⟨2, low, high, n⟩ ∧
      low.toNat ≤ k + 0x80 ∧ k + 0x80 ≤ high.toNat := by
  have hbyte : (UInt8.ofNat (n + 0xE0)).toNat = n + 0xE0 :=
    UInt8.toNat_ofNat_of_lt' (show _ < 256 by omega)
  rw [Lead.ofByte, hbyte, if_neg (by omega), if_neg (by omega)]
  split
  · next h =>
    obtain rfl : n = 0 := by omega
    have := hlong rfl
    exact ⟨0xA0, 0xBF, rfl, by simp; omega, by simp; omega⟩
  split
  · next h =>
    obtain rfl : n = 13 := by omega
    have := hsurrogate rfl
    exact ⟨0x80, 0x9F, rfl, by simp, by simp; omega⟩
  · rw [if_pos (by omega), Nat.add_sub_cancel]
    exact ⟨0x80, 0xBF, rfl, by simp, by simp; omega⟩

/-- The first byte of four leaves the second one in its range, where the two do not begin a number that
has a shorter form or is too large. -/
theorem ofByte_four {n k : Nat} (hn : n < 5) (hk : k < 64) (hlong : n = 0 → 16 ≤ k)
    (hlarge : n = 4 → k < 16) :
    ∃ low high : UInt8, Lead.ofByte (UInt8.ofNat (n + 0xF0)) = .start ⟨3, low, high, n⟩ ∧
      low.toNat ≤ k + 0x80 ∧ k + 0x80 ≤ high.toNat := by
  have hbyte : (UInt8.ofNat (n + 0xF0)).toNat = n + 0xF0 :=
    UInt8.toNat_ofNat_of_lt' (show _ < 256 by omega)
  rw [Lead.ofByte, hbyte, if_neg (by omega), if_neg (by omega), if_neg (by omega),
    if_neg (by omega), if_neg (by omega)]
  split
  · next h =>
    obtain rfl : n = 0 := by omega
    have := hlong rfl
    exact ⟨0x90, 0xBF, rfl, by simp; omega, by simp; omega⟩
  split
  · next h =>
    rw [Nat.add_sub_cancel]
    exact ⟨0x80, 0xBF, rfl, by simp, by simp; omega⟩
  · obtain rfl : n = 4 := by omega
    have := hlarge rfl
    exact ⟨0x80, 0x8F, rfl, by simp, by simp; omega⟩

/-- The bytes of one character are decoded to it, whatever follows. -/
theorem decodeFrom_encodeChar (c : Char) (rest : List UInt8) :
    decodeFrom none (String.utf8EncodeChar c ++ rest) = c :: decodeFrom none rest := by
  have hc := Utf16.toNat_char_lt c
  have hval : c.val.toNat = c.toNat := rfl
  simp only [String.utf8EncodeChar, hval]
  generalize hn : c.toNat = n at hc
  obtain rfl : c = Char.ofNat n := by rw [← hn, Char.ofNat_toNat]
  split
  · rw [List.singleton_append, decodeFrom, ofByte_one (by omega)]
  split
  · rw [List.cons_append, List.singleton_append, decodeFrom,
      Nat.mod_eq_of_lt (show n / 64 < 0x20 by omega), ofByte_two (by omega) (by omega)]
    simp only
    rw [decodeFrom_last (by omega) (by simp) (by simp; omega), Nat.div_add_mod' n 64]
  split
  · obtain ⟨low, high, hlead, hlow, hhigh⟩ :=
      ofByte_three (n := n / 4096) (k := n / 64 % 64) (by omega) (by omega) (by omega) (by omega)
    rw [List.cons_append, List.cons_append, List.singleton_append, decodeFrom,
      Nat.mod_eq_of_lt (show n / 4096 < 0x10 by omega), hlead]
    simp only
    rw [decodeFrom_middle (by omega) hlow hhigh,
      decodeFrom_last (by omega) (by simp) (by simp; omega)]
    rw [show (n / 4096 * 64 + n / 64 % 64) * 64 + n % 64 = n by omega]
  · obtain ⟨low, high, hlead, hlow, hhigh⟩ :=
      ofByte_four (n := n / 262144) (k := n / 4096 % 64) (by omega) (by omega) (by omega) (by omega)
    rw [List.cons_append, List.cons_append, List.cons_append, List.singleton_append, decodeFrom,
      Nat.mod_eq_of_lt (show n / 262144 < 0x08 by omega), hlead]
    simp only
    rw [decodeFrom_middle (by omega) hlow hhigh,
      decodeFrom_middle (by omega) (by simp) (by simp; omega),
      decodeFrom_last (by omega) (by simp) (by simp; omega)]
    rw [show ((n / 262144 * 64 + n / 4096 % 64) * 64 + n / 64 % 64) * 64 + n % 64 = n by omega]

/-- Decoding undoes encoding. -/
theorem decode_encode (s : List Char) : decode (encode s) = s := by
  rw [decode, encode]
  induction s with
  | nil => rfl
  | cons c s ih => rw [List.flatMap_cons, decodeFrom_encodeChar, ih]

theorem ofNat_ne_zero {n : Nat} (hn : n ≠ 0) (hlt : n < 256) : UInt8.ofNat n ≠ 0 := by
  intro h
  have hzero := congrArg UInt8.toNat h
  rw [UInt8.toNat_ofNat_of_lt' hlt] at hzero
  exact hn hzero

/-- A character that is not NUL has no byte that is. -/
theorem ne_zero_of_mem_encodeChar {c : Char} (hc : c ≠ '\x00') {b : UInt8}
    (hb : b ∈ String.utf8EncodeChar c) : b ≠ 0 := by
  have hpos := Utf16.toNat_char_ne_zero hc
  have hlt := Utf16.toNat_char_lt c
  have hval : c.val.toNat = c.toNat := rfl
  simp only [String.utf8EncodeChar, hval] at hb
  split at hb
  · rw [List.mem_singleton.mp hb]
    exact ofNat_ne_zero hpos (by omega)
  split at hb
  · simp only [List.mem_cons, List.not_mem_nil, or_false] at hb
    rcases hb with rfl | rfl <;> exact ofNat_ne_zero (by omega) (by omega)
  split at hb
  · simp only [List.mem_cons, List.not_mem_nil, or_false] at hb
    rcases hb with rfl | rfl | rfl <;> exact ofNat_ne_zero (by omega) (by omega)
  · simp only [List.mem_cons, List.not_mem_nil, or_false] at hb
    rcases hb with rfl | rfl | rfl | rfl <;> exact ofNat_ne_zero (by omega) (by omega)

theorem ne_zero_of_mem_encode {s : List Char} (hs : '\x00' ∉ s) {b : UInt8}
    (hb : b ∈ encode s) : b ≠ 0 := by
  obtain ⟨c, hc, hb⟩ := List.mem_flatMap.mp hb
  exact ne_zero_of_mem_encodeChar (ne_of_mem_of_not_mem hc hs) hb

end HostDns.Text.Utf8
