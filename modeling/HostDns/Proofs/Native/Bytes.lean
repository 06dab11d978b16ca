import HostDns.Native.Memory
import Mathlib.Algebra.Group.Nat.Defs
import Mathlib.Data.List.MinMax

/-!
Plain values as the bytes that a little-endian system keeps of them, and memory that holds such bytes.

What is held at an address is what is read there: numbers of every width, signed numbers and pointers.
Bytes that follow one another are held piece by piece.
-/

namespace HostDns

namespace Native

/-- The lowest bytes of a number, lowest first. -/
def leBytes : Nat → Nat → List UInt8
  | 0, _ => []
  | width + 1, n => UInt8.ofNat n :: leBytes width (n / 256)

/-- The lowest bytes of a number, highest first. -/
def beBytes (width n : Nat) : List UInt8 := (leBytes width n).reverse

@[simp] theorem length_leBytes : ∀ width n, (leBytes width n).length = width
  | 0, _ => rfl
  | width + 1, n => by rw [leBytes, List.length_cons, length_leBytes width]

@[simp] theorem length_beBytes (width n : Nat) : (beBytes width n).length = width := by
  rw [beBytes, List.length_reverse, length_leBytes]

/-- The lowest bytes of a number denote what is left of it. -/
theorem littleEndian_leBytes : ∀ width n, littleEndian (leBytes width n) = n % 256 ^ width
  | 0, n => by rw [leBytes, littleEndian, Nat.pow_zero, Nat.mod_one]
  | width + 1, n => by
    rw [leBytes, littleEndian, littleEndian_leBytes width, Nat.pow_succ', Nat.mod_mul,
      UInt8.toNat_ofNat']

theorem bigEndian_beBytes (width n : Nat) : bigEndian (beBytes width n) = n % 256 ^ width := by
  rw [bigEndian, beBytes, List.reverse_reverse, littleEndian_leBytes]

theorem ofNat_bigEndian_two (v : UInt16) :
    UInt16.ofNat (bigEndian (beBytes 2 v.toNat)) = v := by
  have hv : v.toNat < 256 ^ 2 := v.toNat_lt
  rw [bigEndian_beBytes, Nat.mod_eq_of_lt hv, UInt16.ofNat_toNat]

theorem ofNat_bigEndian_four (v : UInt32) :
    UInt32.ofNat (bigEndian (beBytes 4 v.toNat)) = v := by
  have hv : v.toNat < 256 ^ 4 := v.toNat_lt
  rw [bigEndian_beBytes, Nat.mod_eq_of_lt hv, UInt32.ofNat_toNat]

theorem littleEndian_lt : ∀ bs : List UInt8, littleEndian bs < 256 ^ bs.length
  | [] => Nat.one_pos
  | b :: bs => by
    have hb : b.toNat < 256 := b.toNat_lt
    have hbs := littleEndian_lt bs
    rw [littleEndian, List.length_cons, Nat.pow_succ]
    omega

theorem bigEndian_lt (bs : List UInt8) : bigEndian bs < 256 ^ bs.length := by
  rw [bigEndian, ← List.length_reverse]
  exact littleEndian_lt bs.reverse

/-- Bytes come back from the number that they denote. -/
theorem leBytes_littleEndian : ∀ bs : List UInt8, leBytes bs.length (littleEndian bs) = bs
  | [] => rfl
  | b :: bs => by
    have hb : b.toNat < 256 := b.toNat_lt
    have hfirst : UInt8.ofNat (b.toNat + 256 * littleEndian bs) = b := by
      rw [← UInt8.toNat_inj, UInt8.toNat_ofNat']
      omega
    have hrest : (b.toNat + 256 * littleEndian bs) / 256 = littleEndian bs := by omega
    rw [littleEndian, List.length_cons, leBytes, hfirst, hrest, leBytes_littleEndian bs]

theorem beBytes_bigEndian (bs : List UInt8) : beBytes bs.length (bigEndian bs) = bs := by
  rw [beBytes, bigEndian, ← List.length_reverse, leBytes_littleEndian, List.reverse_reverse]

/-- An address that a pointer can hold and that is not the null pointer. -/
def IsAddress (address : Nat) : Prop := address ≠ 0 ∧ address < 2 ^ 64

instance (address : Nat) : Decidable (IsAddress address) := inferInstanceAs (Decidable (_ ∧ _))

namespace Memory

/-- The memory that holds pieces at their addresses, the first of them where they overlap, and is zero
elsewhere. -/
def ofPieces (pieces : List (Nat × List UInt8)) : Memory where
  byte address :=
    (pieces.findSome? fun p => if p.1 ≤ address then p.2[address - p.1]? else none).getD 0
  extent := (pieces.map fun p => p.1 + p.2.length).foldr max 0
  zero_of_le address h := by
    have hnone : ∀ p ∈ pieces, (if p.1 ≤ address then p.2[address - p.1]? else none) = none := by
      intro p hp
      have hle : p.1 + p.2.length ≤ address :=
        (List.le_max_of_le' 0 (List.mem_map_of_mem hp) le_rfl).trans h
      rw [if_pos (by omega), List.getElem?_eq_none (by omega)]
    rw [List.findSome?_eq_none_iff.mpr hnone, Option.getD_none]

/-- The bytes stand at an address. -/
def Holds (m : Memory) (address : Nat) (content : List UInt8) : Prop :=
  m.bytes address content.length = content

instance (m : Memory) (address : Nat) (content : List UInt8) : Decidable (m.Holds address content) :=
  inferInstanceAs (Decidable (_ = _))

/-- The pointer at an address leads to a target, or is null without one. -/
def HoldsPointer (m : Memory) (address : Nat) (target : Option Nat) : Prop :=
  m.Holds address (leBytes 8 (target.getD 0))

instance (m : Memory) (address : Nat) (target : Option Nat) :
    Decidable (m.HoldsPointer address target) :=
  inferInstanceAs (Decidable (m.Holds ..))

variable {m : Memory} {address : Nat}

@[simp] theorem length_bytes (m : Memory) (address count : Nat) :
    (m.bytes address count).length = count := by
  rw [bytes, List.length_map, List.length_range]

theorem bytes_add (m : Memory) (address n k : Nat) :
    m.bytes address (n + k) = m.bytes address n ++ m.bytes (address + n) k := by
  simp only [bytes, List.range_add, List.map_append, List.map_map, Function.comp_def,
    Nat.add_assoc]

/-- What is held is held piece by piece. -/
theorem holds_append {xs ys : List UInt8} :
    m.Holds address (xs ++ ys) ↔ m.Holds address xs ∧ m.Holds (address + xs.length) ys := by
  rw [Holds, List.length_append, bytes_add,
    List.append_eq_append_iff_of_size_eq_left (length_bytes ..)]
  exact Iff.rfl

theorem holds_cons {b : UInt8} {content : List UInt8} :
    m.Holds address (b :: content) ↔ m.byte address = b ∧ m.Holds (address + 1) content := by
  rw [← List.singleton_append, holds_append]
  simp [Holds, bytes]

/-- Every byte is read where it is held. -/
theorem Holds.byte : ∀ {address : Nat} {content : List UInt8}, m.Holds address content →
    ∀ {i : Nat} (hi : i < content.length), m.byte (address + i) = content[i]
  | _, [], _, _, hi => absurd hi (Nat.not_lt_zero _)
  | address, b :: content, h, i, hi => by
    obtain ⟨hb, hrest⟩ := holds_cons.mp h
    rcases i with _ | i
    · exact hb
    · rw [List.getElem_cons_succ, ← hrest.byte (Nat.lt_of_succ_lt_succ hi), Nat.add_assoc,
        Nat.add_comm 1]

/-- Pieces of one width are held at multiples of it. -/
theorem Holds.flatMap {β : Type} {width : Nat} {f : β → List UInt8}
    (hwidth : ∀ b, (f b).length = width) : ∀ {address : Nat} {values : List β},
    m.Holds address (values.flatMap f) → ∀ i (hi : i < values.length),
      m.Holds (address + width * i) (f values[i])
  | _, [], _, _, hi => absurd hi (Nat.not_lt_zero _)
  | address, v :: values, h, i, hi => by
    rw [List.flatMap_cons, holds_append, hwidth] at h
    rcases i with _ | i
    · exact h.1
    · have hrest := Holds.flatMap hwidth h.2 i (Nat.lt_of_succ_lt_succ hi)
      rwa [Nat.add_assoc, Nat.add_comm width, ← Nat.mul_succ] at hrest

theorem Holds.littleEndian {width n : Nat} (h : m.Holds address (leBytes width n))
    (hn : n < 256 ^ width) : Native.littleEndian (m.bytes address width) = n := by
  rw [Holds, length_leBytes] at h
  rw [h, littleEndian_leBytes, Nat.mod_eq_of_lt hn]

theorem holds_leBytes_iff {width n : Nat} (hn : n < 256 ^ width) :
    m.Holds address (leBytes width n) ↔ Native.littleEndian (m.bytes address width) = n := by
  refine ⟨fun h => h.littleEndian hn, fun h => ?_⟩
  have hbytes := leBytes_littleEndian (m.bytes address width)
  rw [length_bytes, h] at hbytes
  rw [Holds, length_leBytes, hbytes]

theorem littleEndian_bytes_lt (m : Memory) (address width : Nat) :
    Native.littleEndian (m.bytes address width) < 256 ^ width := by
  have hlt := littleEndian_lt (m.bytes address width)
  rwa [length_bytes] at hlt

theorem exists_holds_beBytes (m : Memory) (address width : Nat) :
    ∃ n < 256 ^ width, m.Holds address (beBytes width n) := by
  have hlt := bigEndian_lt (m.bytes address width)
  have hbytes := beBytes_bigEndian (m.bytes address width)
  rw [length_bytes] at hlt hbytes
  refine ⟨bigEndian (m.bytes address width), hlt, ?_⟩
  rw [Holds, length_beBytes, hbytes]

theorem exists_holds_two (m : Memory) (address : Nat) :
    ∃ v : UInt16, m.Holds address (beBytes 2 v.toNat) := by
  obtain ⟨n, hn, h⟩ := exists_holds_beBytes m address 2
  exact ⟨UInt16.ofNat n, by rwa [UInt16.toNat_ofNat_of_lt' hn]⟩

theorem exists_holds_four (m : Memory) (address : Nat) :
    ∃ v : UInt32, m.Holds address (beBytes 4 v.toNat) := by
  obtain ⟨n, hn, h⟩ := exists_holds_beBytes m address 4
  exact ⟨UInt32.ofNat n, by rwa [UInt32.toNat_ofNat_of_lt' hn]⟩

theorem toNat_u16 (m : Memory) (address : Nat) :
    (m.u16 address).toNat = Native.littleEndian (m.bytes address 2) :=
  UInt16.toNat_ofNat_of_lt' (littleEndian_bytes_lt m address 2)

theorem toNat_u32 (m : Memory) (address : Nat) :
    (m.u32 address).toNat = Native.littleEndian (m.bytes address 4) :=
  UInt32.toNat_ofNat_of_lt' (littleEndian_bytes_lt m address 4)

theorem Holds.u16 {v : UInt16} (h : m.Holds address (leBytes 2 v.toNat)) : m.u16 address = v := by
  rw [Memory.u16, h.littleEndian v.toNat_lt, UInt16.ofNat_toNat]

theorem Holds.u32 {v : UInt32} (h : m.Holds address (leBytes 4 v.toNat)) : m.u32 address = v := by
  rw [Memory.u32, h.littleEndian v.toNat_lt, UInt32.ofNat_toNat]

theorem Holds.toNat_u32 {n : Nat} (h : m.Holds address (leBytes 4 n)) (hn : n < 2 ^ 32) :
    (m.u32 address).toNat = n := by
  rw [Memory.u32, h.littleEndian hn, UInt32.toNat_ofNat_of_lt' hn]

theorem Holds.u64 {v : UInt64} (h : m.Holds address (leBytes 8 v.toNat)) : m.u64 address = v := by
  rw [Memory.u64, h.littleEndian v.toNat_lt, UInt64.ofNat_toNat]

theorem Holds.i32 {v : Int32} (h : m.Holds address (leBytes 4 v.toUInt32.toNat)) :
    m.i32 address = v := by
  rw [Memory.i32, h.u32, Int32.toInt32_toUInt32]

/-- A pointer is read where it is held. -/
theorem HoldsPointer.pointer {target : Option Nat} (h : m.HoldsPointer address target)
    (htarget : ∀ t ∈ target, IsAddress t) : m.pointer address = target := by
  rcases target with _ | t
  · rw [Memory.pointer, Holds.littleEndian h (Nat.two_pow_pos 64)]
    rfl
  · obtain ⟨hne, hlt⟩ := htarget t rfl
    rw [Memory.pointer, Holds.littleEndian h hlt]
    rcases t with _ | t
    · exact absurd rfl hne
    · rfl

/-! ### Values up to a NUL -/

/-- Reading values of a width up to the first zero comes to the values in front of it, and wherever a
zero is known to stand, no value behind that matters. -/
theorem scan_eq_takeWhile {β : Type} [DecidableEq β] {zero : β} {width : Nat} {read : Nat → β}
    {scan : Nat → List β}
    (hscan : ∀ a, scan a = if read a = zero then [] else read a :: scan (a + width)) :
    ∀ {n address : Nat}, read (address + width * n) = zero →
      scan address =
        ((List.range (n + 1)).map fun i => read (address + width * i)).takeWhile (· ≠ zero)
  | 0, address, h => by
    rw [Nat.mul_zero, Nat.add_zero] at h
    simp [hscan address, h]
  | n + 1, address, h => by
    have hmove : ∀ i, address + width * (i + 1) = address + width + width * i := fun i => by
      rw [Nat.mul_succ, Nat.add_assoc, Nat.add_comm width]
    have hvalues : ((List.range (n + 1 + 1)).map fun i => read (address + width * i)) =
        read address :: (List.range (n + 1)).map fun i => read (address + width + width * i) := by
      rw [List.range_succ_eq_map, List.map_cons, List.map_map, Nat.mul_zero, Nat.add_zero]
      simp only [Function.comp_def, Nat.succ_eq_add_one, hmove]
    rw [hmove] at h
    rw [hscan, scan_eq_takeWhile hscan h, hvalues]
    by_cases hzero : read address = zero
    · simp [hzero]
    · simp [hzero]

theorem bytesToNul_eq {n : Nat} (h : m.byte (address + n) = 0) :
    m.bytesToNul address = (m.bytes address (n + 1)).takeWhile (· ≠ 0) := by
  have hscan := scan_eq_takeWhile (fun a => Memory.bytesToNul.eq_def m a)
    (show m.byte (address + 1 * n) = 0 by rwa [Nat.one_mul])
  simpa only [Nat.one_mul, Memory.bytes] using hscan

theorem unitsToNul_eq {n : Nat} (h : m.u16 (address + 2 * n) = 0) :
    m.unitsToNul address = (m.units address (n + 1)).takeWhile (· ≠ 0) :=
  scan_eq_takeWhile (fun a => Memory.unitsToNul.eq_def m a) h

theorem takeWhile_concat_zero {β : Type} [DecidableEq β] {zero : β} {values : List β}
    (h : ∀ v ∈ values, v ≠ zero) : (values ++ [zero]).takeWhile (· ≠ zero) = values := by
  rw [List.takeWhile_append_of_pos (by simpa using h)]
  simp

end Memory

end Native

end HostDns
