import HostDns.Proofs.Text.Blank
import HostDns.Text.Numeral
import Mathlib.Data.List.Basic
import Mathlib.Data.Nat.Digits.Defs

/-!
Numerals and what they denote.

Written numbers are read back. A number in front of other characters is read up to the first one that is
no digit, so what is shown of a number here is shown of its digits: which characters they are, how many,
and what they denote. Conversely what is read denotes the number that it is read as; a bound only decides
which numbers are taken.
-/

namespace HostDns.Text

/-! ### Decimal numerals -/

theorem isDigit_of_mem_decimal {n : Nat} {c : Char} (h : c ∈ decimal n) : c.isDigit = true :=
  Nat.isDigit_of_mem_toDigits (by decide) (by decide) h

theorem decimal_ne_nil (n : Nat) : decimal n ≠ [] := Nat.toDigits_ne_nil

theorem exists_decimal_eq_cons (n : Nat) : ∃ d ds, decimal n = d :: ds ∧ d.isDigit = true := by
  obtain ⟨d, ds, hd⟩ := List.exists_cons_of_ne_nil (decimal_ne_nil n)
  exact ⟨d, ds, hd, isDigit_of_mem_decimal (hd ▸ List.mem_cons_self)⟩

theorem isWord_decimal (n : Nat) : IsWord (decimal n) := by
  refine ⟨decimal_ne_nil n, fun c hc => isBlank_eq_false ?_⟩
  have hrange : 48 ≤ c.toNat ∧ c.toNat ≤ 57 := Char.isDigit_iff_toNat.mp (isDigit_of_mem_decimal hc)
  have hfirst : '!'.toNat = 33 := rfl
  have hlast : '~'.toNat = 126 := rfl
  omega

theorem decimalValue_decimal (n : Nat) : decimalValue (decimal n) = n := by
  rw [decimalValue, ← Nat.ofDigitChars_eq_foldl]
  exact Nat.ofDigitChars_ten_toDigits

/-- Whether a text is a run of decimal digits. -/
structure IsDigits (s : List Char) : Prop where
  ne_nil : s ≠ []
  isDigit : ∀ c ∈ s, c.isDigit = true

theorem isDigits_decimal (n : Nat) : IsDigits (decimal n) :=
  ⟨decimal_ne_nil n, fun _ => isDigit_of_mem_decimal⟩

theorem IsDigits.ne_cons {s : List Char} (h : IsDigits s) {sign : Char} (hsign : sign.isDigit = false)
    (rest : List Char) : s ≠ sign :: rest := by
  rintro rfl
  rw [h.isDigit sign List.mem_cons_self] at hsign
  cases hsign

theorem digits?_eq_some_iff {s : List Char} {n : Nat} :
    digits? s = some n ↔ IsDigits s ∧ n = decimalValue s := by
  rw [digits?, Option.ite_none_right_eq_some, Option.some.injEq, List.all_eq_true, eq_comm (a := n)]
  exact and_congr_left fun _ => ⟨fun h => ⟨h.1, h.2⟩, fun h => ⟨h.ne_nil, h.isDigit⟩⟩

theorem digits?_decimal (n : Nat) : digits? (decimal n) = some n :=
  digits?_eq_some_iff.mpr ⟨isDigits_decimal n, (decimalValue_decimal n).symm⟩

/-- A natural number is read from digits, with a plus sign or without one. -/
theorem natural?_eq_some_iff {bound n : Nat} {s : List Char} :
    natural? bound s = some n ↔
      (∃ digits, (s = digits ∨ s = '+' :: digits) ∧ IsDigits digits ∧ n = decimalValue digits) ∧
        n < bound := by
  unfold natural?
  rw [Option.filter_eq_some_iff, digits?_eq_some_iff, decide_eq_true_eq]
  refine and_congr_left fun _ => ?_
  split
  · next rest =>
    constructor
    · exact fun h => ⟨rest, Or.inr rfl, h⟩
    · rintro ⟨digits, rfl | h, hdigits⟩
      · exact absurd rfl (hdigits.1.ne_cons (by decide) rest)
      · cases h
        exact hdigits
  · next hplus =>
    constructor
    · exact fun h => ⟨s, Or.inl rfl, h⟩
    · rintro ⟨digits, rfl | rfl, h⟩
      · exact h
      · exact absurd rfl (hplus digits)

theorem natural?_decimal {bound n : Nat} (h : n < bound) :
    natural? bound (decimal n) = some n :=
  natural?_eq_some_iff.mpr
    ⟨⟨decimal n, Or.inl rfl, isDigits_decimal n, (decimalValue_decimal n).symm⟩, h⟩

theorem isDigit_of_natural? {bound n : Nat} {s : List Char} (h : natural? bound s = some n)
    {c : Char} (hc : c ∈ s) : c = '+' ∨ c.isDigit = true := by
  obtain ⟨⟨digits, hs, hdigits, -⟩, -⟩ := natural?_eq_some_iff.mp h
  rcases hs with rfl | rfl
  · exact Or.inr (hdigits.isDigit c hc)
  · exact (List.mem_cons.mp hc).imp_right (hdigits.isDigit c)

/-- A numeral is told apart from what stands behind it where that is no digit. -/
theorem decimal_append_inj {m n : Nat} {rest rest' : List Char} (hrest : Stops Char.isDigit rest)
    (hrest' : Stops Char.isDigit rest') (h : decimal m ++ rest = decimal n ++ rest') :
    m = n ∧ rest = rest' := by
  have hdigits : ∀ k, ∀ c ∈ decimal k, c.isDigit = true := fun _ _ => isDigit_of_mem_decimal
  have hnumeral : decimal m = decimal n := by
    rw [← takeWhile_run (hdigits m) hrest, h, takeWhile_run (hdigits n) hrest']
  refine ⟨?_, ?_⟩
  · rw [← decimalValue_decimal m, hnumeral, decimalValue_decimal]
  · exact List.append_cancel_left (hnumeral ▸ h)

/-- Only zero is written with a leading zero. -/
theorem head?_decimal_eq_zero_iff {n : Nat} : (decimal n).head? = some '0' ↔ n = 0 := by
  induction n using Nat.strongRecOn with
  | ind n ih =>
    rw [decimal, Nat.toDigits_eq_if (by decide)]
    by_cases h : n < 10
    · rw [if_pos h, List.head?_cons, Option.some.injEq, Nat.digitChar_eq_zero]
    · have hshort := ih (n / 10) (by omega)
      rw [decimal] at hshort
      rw [if_neg h, List.head?_append_of_ne_nil _ Nat.toDigits_ne_nil, hshort]
      omega

/-! ### Integers -/

/-- Whether a text denotes an integer: it consists of decimal digits, as many as there may be, with a
sign in front of them or without one. -/
inductive Denotes : List Char → Int → Prop where
  | unsigned {digits : List Char} (h : IsDigits digits) : Denotes digits (decimalValue digits)
  | plus {digits : List Char} (h : IsDigits digits) : Denotes ('+' :: digits) (decimalValue digits)
  | minus {digits : List Char} (h : IsDigits digits) :
      Denotes ('-' :: digits) (-(decimalValue digits : Int))

/-- Behind a minus sign digits are read as the negative of what they denote. -/
theorem integer?_minus_eq_some_iff {bound : Nat} {rest : List Char} {k : Int} :
    integer? bound ('-' :: rest) = some k ↔
      IsDigits rest ∧ decimalValue rest ≤ bound ∧ k = -(decimalValue rest : Int) := by
  rw [integer?, Option.map_eq_some_iff]
  constructor
  · rintro ⟨_, hcast, rfl⟩
    obtain ⟨n, hn, hk⟩ := Option.bind_eq_some_iff.mp hcast
    cases hk
    rw [Option.filter_eq_some_iff, digits?_eq_some_iff, decide_eq_true_eq] at hn
    obtain ⟨⟨hdigits, rfl⟩, hle⟩ := hn
    exact ⟨hdigits, hle, rfl⟩
  · rintro ⟨hdigits, hle, rfl⟩
    have hread : (digits? rest).filter (· ≤ bound) = some (decimalValue rest) := by
      rw [Option.filter_eq_some_iff, digits?_eq_some_iff, decide_eq_true_eq]
      exact ⟨⟨hdigits, rfl⟩, hle⟩
    exact ⟨_, Option.bind_eq_some_iff.mpr ⟨_, hread, rfl⟩, rfl⟩

theorem integer?_of_ne_minus {s : List Char} (h : ∀ rest, s ≠ '-' :: rest) (bound : Nat) :
    integer? bound s = (natural? bound s).map Int.ofNat := by
  unfold integer?
  split
  · exact absurd rfl (h _)
  · rfl

/-- An integer is read from its numeral exactly if it lies within the bounds. -/
theorem integer?_eq_some_iff {bound : Nat} (hbound : 0 < bound) {s : List Char} {k : Int} :
    integer? bound s = some k ↔ Denotes s k ∧ -(bound : Int) ≤ k ∧ k < bound := by
  by_cases hminus : ∃ rest, s = '-' :: rest
  · obtain ⟨rest, rfl⟩ := hminus
    rw [integer?_minus_eq_some_iff]
    constructor
    · rintro ⟨hdigits, hle, rfl⟩
      exact ⟨.minus hdigits, by omega, by omega⟩
    · rintro ⟨h, hlow, -⟩
      cases h with
      | unsigned h => exact absurd rfl (h.ne_cons (by decide) rest)
      | minus h => exact ⟨h, by omega, rfl⟩
  · have hne : ∀ rest, s ≠ '-' :: rest := not_exists.mp hminus
    rw [integer?_of_ne_minus hne, Option.map_eq_some_iff]
    constructor
    · rintro ⟨n, hn, rfl⟩
      obtain ⟨⟨digits, hs, hdigits, rfl⟩, hlt⟩ := natural?_eq_some_iff.mp hn
      refine ⟨?_, by rw [Int.ofNat_eq_natCast]; omega, Int.ofNat_lt.mpr hlt⟩
      rcases hs with rfl | rfl
      · exact .unsigned hdigits
      · exact .plus hdigits
    · rintro ⟨h, -, hhigh⟩
      cases h with
      | unsigned h =>
        exact ⟨_, natural?_eq_some_iff.mpr ⟨⟨s, Or.inl rfl, h, rfl⟩, by omega⟩, rfl⟩
      | plus h =>
        exact ⟨_, natural?_eq_some_iff.mpr ⟨⟨_, Or.inr rfl, h, rfl⟩, by omega⟩, rfl⟩
      | minus h => exact absurd rfl (hne _)

/-- No text denotes two integers. -/
theorem Denotes.unique {s : List Char} {k k' : Int} (h : Denotes s k) (h' : Denotes s k') :
    k = k' := by
  -- bounds that both of them keep, so that both are what is read
  have hbound : 0 < k.natAbs + k'.natAbs + 1 := Nat.succ_pos _
  have hread := (integer?_eq_some_iff hbound).mpr ⟨h, by omega, by omega⟩
  have hread' := (integer?_eq_some_iff hbound).mpr ⟨h', by omega, by omega⟩
  exact Option.some.inj (hread.symm.trans hread')

theorem denotes_decimal (n : Nat) : Denotes (decimal n) n := by
  have h := Denotes.unsigned (isDigits_decimal n)
  rwa [decimalValue_decimal] at h

/-! ### Hexadecimal numerals -/

theorem hexDigit?_digitChar : ∀ d < 16, hexDigit? d.digitChar = some d := by decide

theorem hexadecimal_eq (n : Nat) :
    hexadecimal n = (if n < 16 then [] else hexadecimal (n / 16)) ++ [(n % 16).digitChar] := by
  rw [hexadecimal, Nat.toDigits_eq_if (by decide)]
  split
  · next h => rw [Nat.mod_eq_of_lt h, List.nil_append]
  · rfl

/-- A hexadecimal numeral consists of the characters of digits. -/
theorem exists_digitChar_of_mem_hexadecimal {n : Nat} {c : Char} (h : c ∈ hexadecimal n) :
    ∃ d < 16, c = d.digitChar := by
  induction n using Nat.strongRecOn with
  | ind n ih =>
    rw [hexadecimal_eq, List.mem_append, List.mem_singleton] at h
    rcases h with h | rfl
    · split at h
      · exact absurd h List.not_mem_nil
      · exact ih (n / 16) (by omega) h
    · exact ⟨n % 16, Nat.mod_lt n (by decide), rfl⟩

theorem hexDigit?_isSome_of_mem_hexadecimal {n : Nat} {c : Char} (h : c ∈ hexadecimal n) :
    (hexDigit? c).isSome = true := by
  obtain ⟨d, hd, rfl⟩ := exists_digitChar_of_mem_hexadecimal h
  rw [hexDigit?_digitChar d hd]
  rfl

/-- A hexadecimal numeral denotes the number that it is written for. -/
theorem hexValue_hexadecimal (n : Nat) : hexValue (hexadecimal n) = n := by
  induction n using Nat.strongRecOn with
  | ind n ih =>
    have hlast : ∀ digits d, d < 16 →
        hexValue (digits ++ [d.digitChar]) = 16 * hexValue digits + d := by
      intro digits d hd
      rw [hexValue, List.foldl_append, List.foldl_cons, List.foldl_nil, hexDigit?_digitChar d hd]
      rfl
    rw [hexadecimal_eq, hlast _ _ (Nat.mod_lt n (by decide))]
    split
    · next h => exact (Nat.zero_add _).trans (Nat.mod_eq_of_lt h)
    · rw [ih (n / 16) (by omega)]
      omega

/-! ### Numerals of a fixed width -/

theorem length_zeroPadded {width : Nat} {numeral : List Char} (h : numeral.length ≤ width) :
    (zeroPadded width numeral).length = width := by
  rw [zeroPadded, List.length_append, List.length_replicate, Nat.sub_add_cancel h]

theorem hexDigit?_isSome_of_mem_zeroPadded {width n : Nat} {c : Char}
    (h : c ∈ zeroPadded width (hexadecimal n)) : (hexDigit? c).isSome = true := by
  rw [zeroPadded, List.mem_append] at h
  rcases h with h | h
  · rw [List.eq_of_mem_replicate h]
    rfl
  · exact hexDigit?_isSome_of_mem_hexadecimal h

theorem hexValue_zeroPadded (width : Nat) (numeral : List Char) :
    hexValue (zeroPadded width numeral) = hexValue numeral := by
  rw [hexValue, zeroPadded, List.foldl_append]
  congr 1
  induction width - numeral.length with
  | zero => rfl
  | succ k ih => rw [List.replicate_succ, List.foldl_cons]; exact ih

theorem length_zeroPadded_hexadecimal {width n : Nat} (hwidth : 0 < width) (h : n < 16 ^ width) :
    (zeroPadded width (hexadecimal n)).length = width :=
  length_zeroPadded ((Nat.length_toDigits_le_iff (by decide) hwidth).mpr h)

theorem zeroPadded_hexadecimal_inj {width m n : Nat} :
    zeroPadded width (hexadecimal m) = zeroPadded width (hexadecimal n) ↔ m = n := by
  refine ⟨fun h => ?_, fun h => by rw [h]⟩
  rw [← hexValue_hexadecimal m, ← hexValue_zeroPadded width, h, hexValue_zeroPadded,
    hexValue_hexadecimal]

@[simp]
theorem length_hexByte (b : UInt8) : (hexByte b).length = 2 :=
  length_zeroPadded_hexadecimal (by decide) b.toNat_lt

theorem hexByte_inj {b c : UInt8} : hexByte b = hexByte c ↔ b = c := by
  rw [hexByte, hexByte, zeroPadded_hexadecimal_inj, UInt8.toNat_inj]

/-- Capitals denote the same number. -/
theorem hexValue_capitals (width n : Nat) :
    hexValue (capitals (zeroPadded width (hexadecimal n))) = n := by
  have hdigit : ∀ d < 16, hexDigit? d.digitChar.toUpper = some d := by decide
  have hcapital : ∀ c ∈ zeroPadded width (hexadecimal n), hexDigit? c.toUpper = hexDigit? c := by
    intro c hc
    rw [zeroPadded, List.mem_append] at hc
    rcases hc with hc | hc
    · rw [List.eq_of_mem_replicate hc]
      rfl
    · obtain ⟨d, hd, rfl⟩ := exists_digitChar_of_mem_hexadecimal hc
      rw [hdigit d hd, hexDigit?_digitChar d hd]
  rw [hexValue, capitals, List.foldl_map,
    List.foldl_ext _ (fun m c => 16 * m + (hexDigit? c).getD 0) _ fun m c hc => by rw [hcapital c hc],
    ← hexValue, hexValue_zeroPadded, hexValue_hexadecimal]

theorem capitals_zeroPadded_inj {width m n : Nat} :
    capitals (zeroPadded width (hexadecimal m)) = capitals (zeroPadded width (hexadecimal n)) ↔
      m = n := by
  refine ⟨fun h => ?_, fun h => by rw [h]⟩
  rw [← hexValue_capitals width m, h, hexValue_capitals]

theorem length_capitals_zeroPadded {width n : Nat} (hwidth : 0 < width) (h : n < 16 ^ width) :
    (capitals (zeroPadded width (hexadecimal n))).length = width := by
  rw [capitals, List.length_map, length_zeroPadded_hexadecimal hwidth h]

theorem capitals_zeroPadded_append_inj {width m n : Nat} {rest rest' : List Char}
    (h : capitals (zeroPadded width (hexadecimal m)) ++ rest =
      capitals (zeroPadded width (hexadecimal n)) ++ rest')
    (hwidth : 0 < width) (hm : m < 16 ^ width) (hn : n < 16 ^ width) : m = n ∧ rest = rest' := by
  have hlength := (length_capitals_zeroPadded hwidth hm).trans
    (length_capitals_zeroPadded hwidth hn).symm
  obtain ⟨hnumeral, hrest⟩ := List.append_inj h hlength
  exact ⟨capitals_zeroPadded_inj.mp hnumeral, hrest⟩

/-- Pieces of one width tell the list apart that they stand for, if each of them tells its item
apart. -/
theorem flatMap_inj_of_length {α : Type} {f : α → List Char} {width : Nat} (hwidth : 0 < width)
    (hlength : ∀ a, (f a).length = width) (hinj : ∀ {a b}, f a = f b → a = b) {l l' : List α}
    (h : l.flatMap f = l'.flatMap f) : l = l' := by
  have hne : ∀ a, f a ≠ [] := fun a => List.ne_nil_of_length_pos (by rw [hlength]; exact hwidth)
  induction l generalizing l' with
  | nil =>
    rcases l' with _ | ⟨b, l'⟩
    · rfl
    · exact absurd (List.append_eq_nil_iff.mp h.symm).1 (hne b)
  | cons a l ih =>
    rcases l' with _ | ⟨b, l'⟩
    · exact absurd (List.append_eq_nil_iff.mp h).1 (hne a)
    · rw [List.flatMap_cons, List.flatMap_cons] at h
      obtain ⟨hfirst, hrest⟩ := List.append_inj h ((hlength a).trans (hlength b).symm)
      rw [hinj hfirst, ih hrest]

end HostDns.Text
