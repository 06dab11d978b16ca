import HostDns.Proofs.Text.Utf16

/-!
What becomes of units that are no text.

A surrogate is unpaired if its other half is not next to it. This is told by the neighbours of a unit
alone, whereas decoding runs from left to right; the two agree because no unit is both a first and a
second half. The text that units decode to is written back as the same units, but for the unpaired
surrogates: in place of each of them stands the replacement character.
-/

namespace HostDns.Text.Utf16

/-- Whether a unit between its neighbours is a surrogate without its other half. -/
def isUnpaired (before : Option UInt16) (u : UInt16) (after : Option UInt16) : Bool :=
  isHigh u && !after.any isLow || isLow u && !before.any isHigh

/-- Units that follow some unit, with the replacement character in place of each unpaired surrogate. -/
def repaired : (before : Option UInt16) → (units : List UInt16) → List UInt16
  | _, [] => []
  | before, u :: rest =>
    (if isUnpaired before u rest.head? then 0xFFFD else u) :: repaired (some u) rest

/-- Units none of which is an unpaired surrogate. -/
def IsPaired (units : List UInt16) : Prop :=
  ∀ before u after, units = before ++ u :: after → isUnpaired before.getLast? u after.head? = false

/-! ### What single units are written as -/

theorem isLow_of_isHigh {u : UInt16} (h : isHigh u = true) : isLow u = false := by
  rw [isHigh_iff] at h
  rw [← Bool.not_eq_true, isLow_iff]
  omega

theorem toNat_ofNat_of_isValidChar {n : Nat} (h : n.isValidChar) : (Char.ofNat n).toNat = n := by
  rw [Char.ofNat, dif_pos h]
  rfl

/-- The character of a pair is written as the pair. -/
theorem encodeChar_pair {u v : UInt16} (hu : isHigh u = true) (hv : isLow v = true) :
    encodeChar (pair u v) = [u, v] := by
  rw [isHigh_iff] at hu
  rw [isLow_iff] at hv
  have hvalid : (0x10000 + (u.toNat - 0xD800) * 0x400 + (v.toNat - 0xDC00)).isValidChar := by
    simp only [Nat.isValidChar]
    omega
  have hnat : (pair u v).toNat = 0x10000 + (u.toNat - 0xD800) * 0x400 + (v.toNat - 0xDC00) := by
    rw [pair, toNat_ofNat_of_isValidChar hvalid]
  have hhigh : 0xD800 + ((pair u v).toNat - 0x10000) / 0x400 = u.toNat := by omega
  have hlow : 0xDC00 + ((pair u v).toNat - 0x10000) % 0x400 = v.toNat := by omega
  rw [encodeChar, if_neg (by omega), hhigh, hlow, UInt16.ofNat_toNat, UInt16.ofNat_toNat]

/-- The character of a unit that stands alone is written as the unit, unless that is a surrogate. -/
theorem encodeChar_single (u : UInt16) :
    encodeChar (single u) = [if isHigh u || isLow u then 0xFFFD else u] := by
  rw [single]
  split
  · rfl
  · next h =>
    have hu : u.toNat < 65536 := u.toNat_lt
    rw [Bool.or_eq_true, isHigh_iff, isLow_iff] at h
    have hvalid : u.toNat.isValidChar := by
      simp only [Nat.isValidChar]
      omega
    rw [encodeChar, toNat_ofNat_of_isValidChar hvalid, if_pos hu, UInt16.ofNat_toNat]

/-! ### Units that are decoded and written back -/

theorem repaired_of_not_isLow {u : UInt16} (h : isLow u = false) (rest : List UInt16)
    (before : Option UInt16) : repaired before (u :: rest) = repaired none (u :: rest) := by
  simp [repaired, isUnpaired, h]

theorem repaired_some_of_not_isHigh {w : UInt16} (h : isHigh w = false) (units : List UInt16) :
    repaired (some w) units = repaired none units := by
  cases units with
  | nil => rfl
  | cons u rest => simp [repaired, isUnpaired, h]

/-- Units are written back with the replacement character in place of each unpaired surrogate. -/
theorem encode_decode (units : List UInt16) : encode (decode units) = repaired none units := by
  induction units using decode.induct with
  | case1 => rfl
  | case2 u =>
    rw [decode, encode, List.flatMap_singleton, encodeChar_single]
    simp [repaired, isUnpaired]
  | case3 u v rest hpair ih =>
    obtain ⟨hu, hv⟩ := (Bool.and_eq_true _ _).mp hpair
    have hv' : isHigh v = false := by
      rw [← Bool.not_eq_true]
      exact fun h => Bool.noConfusion (hv.symm.trans (isLow_of_isHigh h))
    rw [decode_pair hu hv, encode, List.flatMap_cons, encodeChar_pair hu hv, ← encode, ih, repaired,
      repaired, repaired_some_of_not_isHigh hv']
    simp [isUnpaired, hu, hv, hv', isLow_of_isHigh hu]
  | case4 u v rest halone ih =>
    -- a first half that is followed by no second half has no effect on what follows
    have hrest : repaired (some u) (v :: rest) = repaired none (v :: rest) := by
      rw [Bool.and_eq_true, not_and_or, Bool.not_eq_true, Bool.not_eq_true] at halone
      rcases halone with hu | hv
      · exact repaired_some_of_not_isHigh hu _
      · exact repaired_of_not_isLow hv rest _
    rw [decode, if_neg halone, encode, List.flatMap_cons, encodeChar_single, ← encode, ih,
      List.singleton_append, ← hrest]
    rw [Bool.and_eq_true] at halone
    by_cases hu : isHigh u = true
    · simp [repaired, isUnpaired, hu, not_and.mp halone hu]
    · simp [repaired, isUnpaired, hu]

theorem ite_isUnpaired_eq_self_iff (before : Option UInt16) (u : UInt16) (after : Option UInt16) :
    (if isUnpaired before u after then 0xFFFD else u) = u ↔ isUnpaired before u after = false := by
  rw [← Bool.not_eq_true, ite_eq_right_iff]
  refine ⟨fun h hu => ?_, fun h hu => absurd hu h⟩
  rw [← h hu] at hu
  simp [isUnpaired, show isHigh 0xFFFD = false from rfl, show isLow 0xFFFD = false from rfl] at hu

/-- Units stay as they are exactly if there is no unpaired surrogate among them. -/
theorem repaired_eq_self_iff (before : Option UInt16) (units : List UInt16) :
    repaired before units = units ↔ ∀ front u after, units = front ++ u :: after →
      isUnpaired (front.getLast?.or before) u after.head? = false := by
  induction units generalizing before with
  | nil => simp [repaired]
  | cons w units ih =>
    have hlast : ∀ front : List UInt16,
        (w :: front).getLast?.or before = front.getLast?.or (some w) := by
      intro front
      rw [List.getLast?_cons, Option.or_some, Option.some_or]
    rw [repaired, List.cons.injEq, ite_isUnpaired_eq_self_iff, ih]
    constructor
    · rintro ⟨hfirst, hrest⟩ front u after h
      rcases front with _ | ⟨x, front⟩
      · obtain ⟨rfl, rfl⟩ := List.cons.inj h
        exact hfirst
      · obtain ⟨rfl, hunits⟩ := List.cons.inj h
        rw [hlast]
        exact hrest front u after hunits
    · refine fun h => ⟨h [] w units rfl, fun front u after hunits => ?_⟩
      rw [← hlast, h (w :: front) u after (by rw [hunits, List.cons_append])]

/-- Units are written back as they are exactly if they are paired. -/
theorem encode_decode_eq_self_iff {units : List UInt16} :
    encode (decode units) = units ↔ IsPaired units := by
  rw [encode_decode, repaired_eq_self_iff]
  simp only [Option.or_none, IsPaired]

/-! ### NUL -/

/-- A unit that is NUL has been NUL before. -/
theorem zero_mem_of_zero_mem_repaired {before : Option UInt16} {units : List UInt16}
    (h : 0 ∈ repaired before units) : 0 ∈ units := by
  induction units generalizing before with
  | nil => exact h
  | cons u units ih =>
    rw [repaired, List.mem_cons] at h
    rcases h with h | h
    · split at h
      · cases h
      · exact List.mem_cons.mpr (.inl h)
    · exact List.mem_cons_of_mem _ (ih h)

theorem nul_not_mem_decode {units : List UInt16} (h : 0 ∉ units) : '\x00' ∉ decode units := by
  intro hmem
  have hunit : (0 : UInt16) ∈ encode (decode units) :=
    List.mem_flatMap.mpr ⟨'\x00', hmem, List.mem_singleton.mpr rfl⟩
  rw [encode_decode] at hunit
  exact h (zero_mem_of_zero_mem_repaired hunit)

theorem decode_eq_nil_iff {units : List UInt16} : decode units = [] ↔ units = [] := by
  refine ⟨fun h => ?_, fun h => by rw [h]; rfl⟩
  have hencode := encode_decode units
  rw [h] at hencode
  rcases units with _ | ⟨u, units⟩
  · rfl
  · cases hencode

end HostDns.Text.Utf16
